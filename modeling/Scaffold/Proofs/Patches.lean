import Mathlib.Tactic
import Scaffold.Proofs.SameText

/-!
Hunks are a patch.

* `Sides.IsScript`: edits that cover the lines of two texts in order, and keep only lines that
  are equal. An edit without lines on a side may note any place there, unless it is to be placed;
* `IsPatch`: hunks show ranges of both texts in increasing order, and the lines outside the
  ranges are the same in both texts. `rebuild` makes the new text of the old one and the hunks;
* `cut_patched`: groups of edits show a patch, since cutting a script into groups leaves out kept
  lines only;
* `limited_of_lt`: a number of lines is shown at most, and one line behind them says so.
-/

namespace Scaffold.Diff

open Text

/-! ### Ranges of lines -/

/-- Some lines of a text from a place on. -/
def range (texts : List String) (start count : ℕ) : List String :=
  (texts.drop start).take count

section Range

variable {texts : List String} {start m n : ℕ}

lemma range_zero : range texts start 0 = [] :=
  List.take_zero

lemma range_add : range texts start (m + n) = range texts start m ++ range texts (start + m) n := by
  rw [range, List.take_add, List.drop_drop]
  rfl

lemma length_range (h : start + n ≤ texts.length) : (range texts start n).length = n := by
  rw [range, List.length_take, List.length_drop]
  omega

lemma take_range (h : m ≤ n) : (range texts start n).take m = range texts start m := by
  rw [range, List.take_take, Nat.min_eq_left h]
  rfl

lemma drop_range : (range texts start n).drop m = range texts (start + m) (n - m) := by
  rw [range, List.drop_take, List.drop_drop]
  rfl

lemma range_append_drop (texts : List String) (start n : ℕ) :
    range texts start n ++ texts.drop (start + n) = texts.drop start := by
  rw [range, ← List.drop_drop, List.take_append_drop]

lemma range_map (f : String → String) :
    range (texts.map f) start n = (range texts start n).map f := by
  rw [range, ← List.map_drop, ← List.map_take]
  rfl

end Range

/-- Two ranges of lines, of the old text and of the new one, are equal. -/
def Sides.Same (s : Sides) (i j k l : ℕ) : Prop :=
  ∃ count, k = i + count ∧ l = j + count ∧
    range s.old.toList i count = range s.new.toList j count

section Same

variable {s : Sides} {i j k l m n : ℕ}

lemma Sides.Same.refl : s.Same i j i j :=
  ⟨0, rfl, rfl, by rw [range_zero, range_zero]⟩

lemma Sides.Same.trans (h : s.Same i j k l) (h' : s.Same k l m n) : s.Same i j m n := by
  obtain ⟨count, rfl, rfl, hlines⟩ := h
  obtain ⟨count', rfl, rfl, hlines'⟩ := h'
  refine ⟨count + count', by omega, by omega, ?_⟩
  rw [range_add, range_add, hlines, hlines']

/-- Equal ranges are equal up to a place, and from there on. -/
lemma Sides.Same.split (h : s.Same i j k l) (hn : i + n ≤ k) :
    s.Same i j (i + n) (j + n) ∧ s.Same (i + n) (j + n) k l := by
  obtain ⟨count, rfl, rfl, hlines⟩ := h
  constructor
  · have hfirst := congrArg (List.take n) hlines
    rw [take_range (by omega), take_range (by omega)] at hfirst
    exact ⟨n, rfl, rfl, hfirst⟩
  · have hlast := congrArg (List.drop n) hlines
    rw [drop_range, drop_range] at hlast
    exact ⟨count - n, by omega, by omega, hlast⟩

lemma Sides.Same.drop (h : s.Same i j k l) (hrest : s.old.toList.drop k = s.new.toList.drop l) :
    s.old.toList.drop i = s.new.toList.drop j := by
  obtain ⟨count, rfl, rfl, hlines⟩ := h
  rw [← range_append_drop, hlines, hrest, range_append_drop]

end Same

/-! ### Edit scripts -/

/-- An edit stands at a place in both texts. Where it has no lines on a side, it may note any
place there, unless it is to be `placed`. -/
structure Fits (placed : Prop) (s : Sides) (i j : ℕ) (e : Edit) : Prop where
  old : placed ∨ e.oldCount ≠ 0 → e.oldStart = i
  new : placed ∨ e.newCount ≠ 0 → e.newStart = j
  keep : e.action = .keep → s.Same i j (i + e.oldCount) (j + e.newCount)
  nonempty : ¬ (e.oldCount = 0 ∧ e.newCount = 0)

/-- Edits that lead from two places in the texts to two others, with all lines between. -/
inductive Covers (placed : Prop) (s : Sides) : ℕ → ℕ → List Edit → ℕ → ℕ → Prop
  | nil {i j : ℕ} : Covers placed s i j [] i j
  | cons {i j k l : ℕ} {e : Edit} {es : List Edit} (fits : Fits placed s i j e)
      (more : Covers placed s (i + e.oldCount) (j + e.newCount) es k l) :
      Covers placed s i j (e :: es) k l

instance (s : Sides) (i j k l : ℕ) : Decidable (s.Same i j k l) :=
  decidable_of_iff (i ≤ k ∧ l = j + (k - i) ∧
      range s.old.toList i (k - i) = range s.new.toList j (k - i)) <| by
    constructor
    · rintro ⟨hk, hl, hlines⟩
      exact ⟨k - i, by omega, hl, hlines⟩
    · rintro ⟨count, rfl, rfl, hlines⟩
      rw [Nat.add_sub_cancel_left]
      exact ⟨by omega, rfl, hlines⟩

instance (placed : Prop) [Decidable placed] (s : Sides) (i j : ℕ) (e : Edit) :
    Decidable (Fits placed s i j e) :=
  decidable_of_iff ((placed ∨ e.oldCount ≠ 0 → e.oldStart = i) ∧
      (placed ∨ e.newCount ≠ 0 → e.newStart = j) ∧
      (e.action = .keep → s.Same i j (i + e.oldCount) (j + e.newCount)) ∧
      ¬ (e.oldCount = 0 ∧ e.newCount = 0))
    ⟨fun ⟨old, new, keep, nonempty⟩ => ⟨old, new, keep, nonempty⟩, fun h => ⟨h.1, h.2, h.3, h.4⟩⟩

instance Covers.decide (placed : Prop) [Decidable placed] (s : Sides) :
    (es : List Edit) → (i j k l : ℕ) → Decidable (Covers placed s i j es k l)
  | [], i, j, k, l => decidable_of_iff (i = k ∧ j = l)
      ⟨fun ⟨hk, hl⟩ => hk ▸ hl ▸ .nil, by rintro ⟨⟩; exact ⟨rfl, rfl⟩⟩
  | e :: es, i, j, k, l =>
    have := Covers.decide placed s es (i + e.oldCount) (j + e.newCount) k l
    decidable_of_iff
      (Fits placed s i j e ∧ Covers placed s (i + e.oldCount) (j + e.newCount) es k l)
      ⟨fun ⟨fits, more⟩ => .cons fits more, by rintro (_ | ⟨fits, more⟩); exact ⟨fits, more⟩⟩

/-- A script of two texts: its edits cover all lines in order, and keep only equal ones. -/
def Sides.IsScript (s : Sides) (script : List Edit) : Prop :=
  Covers False s 0 0 script s.old.size s.new.size

/-- A script in which every edit notes where the ones in front of it end, also on a side where
it has no lines. -/
def Sides.IsPlacedScript (s : Sides) (script : List Edit) : Prop :=
  Covers True s 0 0 script s.old.size s.new.size

instance (s : Sides) (script : List Edit) : Decidable (s.IsScript script) :=
  inferInstanceAs (Decidable (Covers ..))

instance (s : Sides) (script : List Edit) : Decidable (s.IsPlacedScript script) :=
  inferInstanceAs (Decidable (Covers ..))

section Scripts

variable {placed : Prop} {s : Sides} {i j k l n : ℕ} {e : Edit} {es fs : List Edit}

namespace Fits

/-- Kept lines are as many on both sides. -/
lemma counts (h : Fits placed s i j e) (hkeep : e.action = .keep) :
    e.oldCount = e.newCount ∧ e.oldCount ≠ 0 := by
  obtain ⟨count, hold, hnew, -⟩ := h.keep hkeep
  have hsome := h.nonempty
  omega

/-- The first lines of a kept range. -/
lemma dropEnd (h : Fits placed s i j e) (hkeep : e.action = .keep) (hn : n < e.oldCount) :
    Fits placed s i j (e.dropEnd n) := by
  obtain ⟨hcount, hsome⟩ := h.counts hkeep
  refine ⟨fun _ => h.old (.inr hsome), fun _ => h.new (.inr (hcount ▸ hsome)), fun _ => ?_, ?_⟩
  · have hsame := ((h.keep hkeep).split (n := e.oldCount - n) (by omega)).1
    simpa only [Edit.dropEnd, ← hcount] using hsame
  · simp only [Edit.dropEnd]
    omega

/-- The last lines of a kept range. -/
lemma dropStart (h : Fits placed s i j e) (hkeep : e.action = .keep) (hn : n < e.oldCount) :
    Fits placed s (i + n) (j + n) (e.dropStart n) := by
  obtain ⟨hcount, hsome⟩ := h.counts hkeep
  refine ⟨fun _ => ?_, fun _ => ?_, fun _ => ?_, ?_⟩
  · simp only [Edit.dropStart, Edit.dropEnd, Edit.moveDown, h.old (.inr hsome)]
  · simp only [Edit.dropStart, Edit.dropEnd, Edit.moveDown, h.new (.inr (hcount ▸ hsome))]
  · have hsame := ((h.keep hkeep).split (n := n) (by omega)).2
    simp only [Edit.dropStart, Edit.dropEnd, Edit.moveDown, ← hcount] at hsame ⊢
    rwa [show i + n + (e.oldCount - n) = i + e.oldCount by omega,
      show j + n + (e.oldCount - n) = j + e.oldCount by omega]
  · simp only [Edit.dropStart, Edit.dropEnd, Edit.moveDown]
    omega

end Fits

/-- Kept lines cut in two, with lines between them left out. -/
lemma ends_dropStart (h : n ≤ e.oldCount) (hcount : e.oldCount = e.newCount) :
    i + n + (e.dropStart n).oldCount = i + e.oldCount ∧
      j + n + (e.dropStart n).newCount = j + e.newCount := by
  simp only [Edit.dropStart, Edit.dropEnd, Edit.moveDown]
  omega

namespace Covers

lemma le (h : Covers placed s i j es k l) : i ≤ k ∧ j ≤ l := by
  induction h with
  | nil => exact ⟨le_rfl, le_rfl⟩
  | cons _ _ ih => omega

lemma append_iff : Covers placed s i j (es ++ fs) k l ↔
    ∃ m n, Covers placed s i j es m n ∧ Covers placed s m n fs k l := by
  induction es generalizing i j with
  | nil =>
      constructor
      · exact fun h => ⟨i, j, nil, h⟩
      · rintro ⟨m, n, ⟨⟩, h⟩
        exact h
  | cons e es ih =>
      constructor
      · rintro (_ | ⟨fits, more⟩)
        obtain ⟨m, n, hes, hfs⟩ := ih.mp more
        exact ⟨m, n, cons fits hes, hfs⟩
      · rintro ⟨m, n, _ | ⟨fits, more⟩, hfs⟩
        exact cons fits (ih.mpr ⟨m, n, more, hfs⟩)

lemma concat (h : Covers placed s i j es k l) (fits : Fits placed s k l e) :
    Covers placed s i j (es ++ [e]) (k + e.oldCount) (l + e.newCount) :=
  append_iff.mpr ⟨k, l, h, cons fits nil⟩

/-- Edits that only keep lines cover the same lines on both sides. -/
lemma same (h : Covers placed s i j es k l) (hkeep : ∀ e ∈ es, e.action = .keep) :
    s.Same i j k l := by
  induction h with
  | nil => exact .refl
  | cons fits _ ih =>
      have hmore := ih fun f hf => hkeep f (List.mem_cons_of_mem _ hf)
      exact (fits.keep (hkeep _ (by simp))).trans hmore

/-- Lines at the start are left out if they are the same. -/
lemma trimFirst (h : Covers placed s i j es k l) :
    ∃ m n, s.Same i j m n ∧ Covers placed s m n (trimFirst es) k l := by
  cases h with
  | nil => exact ⟨i, j, .refl, nil⟩
  | @cons _ _ _ _ e es fits more =>
      rw [Diff.trimFirst]
      split_ifs with hkeep
      · obtain ⟨hcount, hsome⟩ := fits.counts hkeep
        have hless : e.oldCount - contextLines < e.oldCount := by
          rw [contextLines]
          omega
        obtain ⟨hold, hnew⟩ := ends_dropStart (i := i) (j := j) hless.le hcount
        refine ⟨_, _, ((fits.keep hkeep).split (by omega)).1, cons (fits.dropStart hkeep hless) ?_⟩
        rwa [hold, hnew]
      · exact ⟨i, j, .refl, cons fits more⟩

/-- Lines at the end are left out if they are the same. -/
lemma trimLast (h : Covers placed s i j es k l) :
    ∃ m n, Covers placed s i j (trimLast es) m n ∧ s.Same m n k l := by
  rw [Diff.trimLast]
  split
  · rename_i e rest hreverse
    obtain rfl : es = rest.reverse ++ [e] := by rw [← List.reverse_cons, ← hreverse,
      List.reverse_reverse]
    split_ifs with hkeep
    · obtain ⟨m, n, hes, _ | ⟨fits, ⟨⟩⟩⟩ := append_iff.mp h
      obtain ⟨hcount, hsome⟩ := fits.counts hkeep
      have hless : e.oldCount - contextLines < e.oldCount := by
        rw [contextLines]
        omega
      rw [List.reverse_cons]
      refine ⟨_, _, hes.concat (fits.dropEnd hkeep hless), ?_⟩
      have hsame := ((fits.keep hkeep).split
        (n := e.oldCount - (e.oldCount - contextLines)) (by omega)).2
      simpa only [Edit.dropEnd, ← hcount] using hsame
    · exact ⟨k, l, h, .refl⟩
  · rename_i hreverse
    obtain rfl : es = [] := List.reverse_eq_nil_iff.mp hreverse
    exact ⟨k, l, h, .refl⟩

end Covers

/-- A long range of kept lines is cut in two, and lines between the two are left out. -/
lemma Fits.cut (h : Fits placed s i j e) (hkeep : e.action = .keep)
    (hmany : 2 * contextLines < e.oldCount) :
    Fits placed s i j (e.dropEnd (e.oldCount - contextLines)) ∧
      Covers placed s (i + (e.oldCount - contextLines)) (j + (e.oldCount - contextLines))
        [e.dropStart (e.oldCount - contextLines)] (i + e.oldCount) (j + e.newCount) ∧
      s.Same (i + (e.dropEnd (e.oldCount - contextLines)).oldCount)
        (j + (e.dropEnd (e.oldCount - contextLines)).newCount)
        (i + (e.oldCount - contextLines)) (j + (e.oldCount - contextLines)) ∧
      i + (e.dropEnd (e.oldCount - contextLines)).oldCount + 1 ≤
        i + (e.oldCount - contextLines) := by
  obtain ⟨hcount, hsome⟩ := h.counts hkeep
  have hless : e.oldCount - contextLines < e.oldCount := by
    rw [contextLines]
    omega
  have hcontext : e.oldCount - (e.oldCount - contextLines) = contextLines := by omega
  obtain ⟨hold, hnew⟩ := ends_dropStart (i := i) (j := j) hless.le hcount
  have hlast := Covers.cons (h.dropStart hkeep hless) Covers.nil
  rw [hold, hnew] at hlast
  obtain ⟨hsame, -⟩ := (h.keep hkeep).split (n := e.oldCount - contextLines) (by omega)
  obtain ⟨-, hbetween⟩ := hsame.split (n := contextLines) (by omega)
  refine ⟨h.dropEnd hkeep hless, hlast, ?_, ?_⟩
  · simpa only [Edit.dropEnd, ← hcount, hcontext] using hbetween
  · simp only [Edit.dropEnd, hcontext]
    omega

end Scripts

/-! ### Hunks at their places -/

/-- A line without its line end. -/
def stripped (text : String) : String :=
  String.ofList (dropEndWhile (fun c => c == '\n' || c == '\r') text.toList)

/-- What lines of a hunk show of one text: its context, and the lines of one kind. -/
def side (kind : LineKind) (shown : List Line) : List String :=
  (shown.filter fun l => l.kind = .context ∨ l.kind = kind).map Line.content

/-- A hunk stands between two places in the texts and shows the lines there. -/
structure Shows (s : Sides) (i j k l : ℕ) (h : Hunk) : Prop where
  header : h.oldStart = i + 1 ∧ h.oldCount = k - i ∧ h.newStart = j + 1 ∧ h.newCount = l - j
  old : i ≤ k ∧ k ≤ s.old.size ∧
    side .remove h.lines = (range s.old.toList i (k - i)).map stripped
  new : j ≤ l ∧ l ≤ s.new.size ∧
    side .add h.lines = (range s.new.toList j (l - j)).map stripped

/-- A hunk starts and ends with lines of context. -/
def Hunk.Framed (h : Hunk) : Prop :=
  (∃ first ∈ h.lines.head?, first.kind = .context) ∧
    ∃ last ∈ h.lines.getLast?, last.kind = .context

section Hunks

variable {placed : Prop} {s : Sides} {i j k l m n : ℕ} {e : Edit} {es : List Edit}

lemma side_append (kind : LineKind) (shown more : List Line) :
    side kind (shown ++ more) = side kind shown ++ side kind more := by
  rw [side, List.filter_append, List.map_append]
  rfl

lemma side_map (kind other : LineKind) (texts : List String) :
    side kind (texts.map fun text => ⟨other, stripped text⟩) =
      if other = .context ∨ other = kind then texts.map stripped else [] := by
  rw [side, List.filter_map, List.map_map]
  split_ifs with h
  · rw [List.filter_eq_self.mpr fun _ _ => by simpa using h]
    rfl
  · rw [List.filter_eq_nil_iff.mpr fun _ _ => by simpa using h]
    rfl

/-- The lines of an edit are those at its place, since an edit without lines shows none. -/
lemma Fits.lines_eq (h : Fits placed s i j e) : e.lines s =
    if e.action = .keep then
      (range s.old.toList i e.oldCount).map fun text => ⟨.context, stripped text⟩
    else ((range s.old.toList i e.oldCount).map fun text => ⟨.remove, stripped text⟩) ++
      (range s.new.toList j e.newCount).map fun text => ⟨.add, stripped text⟩ := by
  have hold : range s.old.toList e.oldStart e.oldCount = range s.old.toList i e.oldCount := by
    by_cases hcount : e.oldCount = 0
    · rw [hcount, range_zero, range_zero]
    · rw [h.old (.inr hcount)]
  have hnew : range s.new.toList e.newStart e.newCount = range s.new.toList j e.newCount := by
    by_cases hcount : e.newCount = 0
    · rw [hcount, range_zero, range_zero]
    · rw [h.new (.inr hcount)]
  rw [← hold, ← hnew, Edit.lines]
  split
  · rw [if_pos ‹_›]
    rfl
  · rw [if_neg (by simpa using ‹_›)]
    rfl

lemma Fits.sides (h : Fits placed s i j e) :
    side .remove (e.lines s) = (range s.old.toList i e.oldCount).map stripped ∧
      side .add (e.lines s) = (range s.new.toList j e.newCount).map stripped := by
  rw [h.lines_eq]
  split_ifs with hkeep
  · obtain ⟨count, hold, hnew, hlines⟩ := h.keep hkeep
    obtain rfl : e.oldCount = count := by omega
    obtain hcount : e.newCount = e.oldCount := by omega
    rw [side_map, side_map, hcount, ← hlines]
    simp
  · simp [side_append, side_map]

lemma Fits.lines_ne_nil (h : Fits placed s i j e) (hold : i + e.oldCount ≤ s.old.size)
    (hnew : j + e.newCount ≤ s.new.size) : e.lines s ≠ [] := by
  intro hempty
  apply h.nonempty
  have hlengths := h.sides
  rw [hempty] at hlengths
  have hold' := congrArg List.length hlengths.1
  have hnew' := congrArg List.length hlengths.2
  rw [List.length_map, length_range hold] at hold'
  rw [List.length_map, length_range hnew] at hnew'
  exact ⟨hold'.symm, hnew'.symm⟩

/-- Only kept lines are context. -/
lemma Fits.keep_of_context (h : Fits placed s i j e) {line : Line} (hline : line ∈ e.lines s)
    (hkind : line.kind = .context) : e.action = .keep := by
  by_contra hkeep
  rw [h.lines_eq, if_neg hkeep, List.mem_append, List.mem_map, List.mem_map] at hline
  obtain ⟨_, -, rfl⟩ | ⟨_, -, rfl⟩ := hline <;> simp at hkind

lemma Covers.sides (h : Covers placed s i j es k l) :
    side .remove (es.flatMap (Edit.lines s)) = (range s.old.toList i (k - i)).map stripped ∧
      side .add (es.flatMap (Edit.lines s)) = (range s.new.toList j (l - j)).map stripped := by
  induction h with
  | nil => simp [side, range_zero]
  | @cons i j k l e es fits more ih =>
      have hle := more.le
      have hold : k - i = e.oldCount + (k - (i + e.oldCount)) := by omega
      have hnew : l - j = e.newCount + (l - (j + e.newCount)) := by omega
      rw [List.flatMap_cons, side_append, side_append, ih.1, ih.2, fits.sides.1, fits.sides.2,
        hold, hnew, range_add, range_add, List.map_append, List.map_append]
      exact ⟨rfl, rfl⟩

/-- A hunk that is computed, and the same lines with the header of their places. The header is
the same if all edits are placed, and around lines of context. -/
def Agrees (placed : Prop) (h p : Hunk) : Prop :=
  h.lines = p.lines ∧ (placed ∨ h.Framed → h = p)

/-- An edit that keeps lines notes its place on both sides. -/
lemma Fits.place (h : Fits placed s i j e) (hplaced : placed ∨ e.action = .keep) :
    e.oldStart = i ∧ e.newStart = j := by
  obtain hplaced | hkeep := hplaced
  · exact ⟨h.old (.inl hplaced), h.new (.inl hplaced)⟩
  · obtain ⟨hcount, hsome⟩ := h.counts hkeep
    exact ⟨h.old (.inr hsome), h.new (.inr (hcount ▸ hsome))⟩

/-- Where a script starts with a line of context, its first edit keeps lines. -/
lemma Covers.first (h : Covers placed s i j es k l) (hk : k ≤ s.old.size) (hl : l ≤ s.new.size)
    (he : es.head? = some e) : Fits placed s i j e ∧
      ∀ line ∈ (es.flatMap (Edit.lines s)).head?, line.kind = .context → e.action = .keep := by
  obtain ⟨rest, rfl⟩ := List.head?_eq_some_iff.mp he
  obtain _ | ⟨fits, more⟩ := h
  have hle := more.le
  refine ⟨fits, fun line hline hkind => fits.keep_of_context (List.mem_of_mem_head? ?_) hkind⟩
  rwa [List.flatMap_cons, List.head?_append_of_ne_nil _
    (fits.lines_ne_nil (by omega) (by omega))] at hline

/-- Where a script ends with a line of context, its last edit keeps lines. -/
lemma Covers.last (h : Covers placed s i j es k l) (hk : k ≤ s.old.size) (hl : l ≤ s.new.size)
    (he : es.getLast? = some e) : ∃ m n, Fits placed s m n e ∧ m + e.oldCount = k ∧
      n + e.newCount = l ∧
      ∀ line ∈ (es.flatMap (Edit.lines s)).getLast?, line.kind = .context → e.action = .keep := by
  obtain ⟨front, rfl⟩ := List.getLast?_eq_some_iff.mp he
  obtain ⟨m, n, -, _ | ⟨fits, ⟨⟩⟩⟩ := Covers.append_iff.mp h
  refine ⟨m, n, fits, rfl, rfl, fun line hline hkind =>
    fits.keep_of_context (List.mem_of_mem_getLast? ?_) hkind⟩
  rwa [List.flatMap_append, List.flatMap_singleton, List.getLast?_append_of_ne_nil _
    (fits.lines_ne_nil hk hl)] at hline

lemma hunk?_eq {first last : Edit} (hfirst : es.head? = some first)
    (hlast : es.getLast? = some last) :
    hunk? s es = some ⟨first.oldStart + 1, last.oldEnd - first.oldStart, first.newStart + 1,
      last.newEnd - first.newStart, es.flatMap (Edit.lines s)⟩ := by
  rw [hunk?, hfirst, hlast]
  rfl

/-- The header of a hunk is that of its first and last edits. It is right where these are placed
or keep lines. -/
lemma Covers.hunk (h : Covers placed s i j es k l) (hsome : es ≠ []) (hk : k ≤ s.old.size)
    (hl : l ≤ s.new.size) :
    ∃ computed p, hunk? s es = some computed ∧ Shows s i j k l p ∧ Agrees placed computed p := by
  have hle := h.le
  obtain ⟨hold, hnew⟩ := h.sides
  have hhead := List.head?_eq_some_head hsome
  have hend := List.getLast?_eq_some_getLast hsome
  obtain ⟨hfirst, hstarts⟩ := h.first hk hl hhead
  obtain ⟨m, n, hlast, rfl, rfl, hends⟩ := h.last hk hl hend
  refine ⟨_, ⟨i + 1, _, j + 1, _, es.flatMap (Edit.lines s)⟩, hunk?_eq hhead hend,
    ⟨⟨rfl, rfl, rfl, rfl⟩, ⟨hle.1, hk, hold⟩, ⟨hle.2, hl, hnew⟩⟩, rfl, fun hplaced => ?_⟩
  have hstart := hfirst.place (hplaced.imp_right fun hframed => by
    obtain ⟨⟨line, hline, hkind⟩, -⟩ := hframed
    exact hstarts line hline hkind)
  have hstop := hlast.place (hplaced.imp_right fun hframed => by
    obtain ⟨-, line, hline, hkind⟩ := hframed
    exact hends line hline hkind)
  simp only [Edit.oldEnd, Edit.newEnd, hstart.1, hstart.2, hstop.1, hstop.2]

end Hunks

/-! ### Patches -/

/-- Hunks that show all in which two texts differ from two places on. At least `gap` lines are
left out in front of the first one, and one in front of each other. -/
inductive Patched (s : Sides) : ℕ → ℕ → ℕ → List Hunk → Prop
  | nil {gap i j : ℕ} (rest : s.old.toList.drop i = s.new.toList.drop j) : Patched s gap i j []
  | cons {gap i j m n k l : ℕ} {h : Hunk} {hs : List Hunk} (between : s.Same i j m n)
      (apart : i + gap ≤ m) (shows : Shows s m n k l h) (more : Patched s 1 k l hs) :
      Patched s gap i j (h :: hs)

/-- The lines of a text from a place on, without some ranges counted from one. -/
def outside (texts : List String) : ℕ → List (ℕ × ℕ) → List String
  | i, [] => texts.drop i
  | i, (start, count) :: ranges =>
    range texts i (start - 1 - i) ++ outside texts (start - 1 + count) ranges

/-- The new lines, from the old ones and hunks. -/
def rebuild (old : List String) : ℕ → List Hunk → List String
  | i, [] => old.drop i
  | i, h :: hs =>
    range old i (h.oldStart - 1 - i) ++ side .add h.lines
      ++ rebuild old (h.oldStart - 1 + h.oldCount) hs

/-- Hunks are a patch of two texts. -/
structure IsPatch (s : Sides) (hunks : List Hunk) : Prop where
  /-- Context and removed lines are the old lines that the header counts. -/
  oldSide : ∀ h ∈ hunks, 1 ≤ h.oldStart ∧ h.oldStart + h.oldCount ≤ s.old.size + 1 ∧
    side .remove h.lines = (range s.old.toList (h.oldStart - 1) h.oldCount).map stripped
  /-- Context and added lines are the new lines that the header counts. -/
  newSide : ∀ h ∈ hunks, 1 ≤ h.newStart ∧ h.newStart + h.newCount ≤ s.new.size + 1 ∧
    side .add h.lines = (range s.new.toList (h.newStart - 1) h.newCount).map stripped
  /-- The hunks follow one another in both texts, with lines between them. -/
  increasing : hunks.Pairwise fun h g =>
    h.oldStart + h.oldCount < g.oldStart ∧ h.newStart + h.newCount < g.newStart
  /-- The lines outside the hunks are the same. -/
  outside : outside s.old.toList 0 (hunks.map fun h => (h.oldStart, h.oldCount)) =
    outside s.new.toList 0 (hunks.map fun h => (h.newStart, h.newCount))
  /-- The new text can be rebuilt. -/
  rebuilt : rebuild (s.old.toList.map stripped) 0 hunks = s.new.toList.map stripped

instance (s : Sides) (hs : List Hunk) : Decidable (IsPatch s hs) :=
  decidable_of_iff (_ ∧ _ ∧ _ ∧ _ ∧ _)
    ⟨fun ⟨oldSide, newSide, increasing, outside, rebuilt⟩ =>
      ⟨oldSide, newSide, increasing, outside, rebuilt⟩, fun h => ⟨h.1, h.2, h.3, h.4, h.5⟩⟩

section Patch

variable {placed : Prop} {s : Sides} {gap i j k l m n : ℕ} {h : Hunk} {hs : List Hunk}
  {group script : List Edit}

/-- More lines in front of the hunks that are left out. -/
lemma Patched.extend (h : Patched s 0 m n hs) (hsame : s.Same i j m n) (hgap : i + gap ≤ m) :
    Patched s gap i j hs := by
  cases h with
  | nil rest => exact .nil (hsame.drop rest)
  | cons between apart shows more => exact .cons (hsame.trans between) (by omega) shows more

/-- **Groups of a script show a patch**: cutting the script inside long ranges of kept lines
leaves out only lines that are the same. -/
theorem cut_patched (hgroup : Covers placed s i j group.reverse m n)
    (hscript : Covers placed s m n script k l) (hk : k ≤ s.old.size) (hl : l ≤ s.new.size)
    (hrest : s.old.toList.drop k = s.new.toList.drop l) :
    ∃ ps, Patched s 0 i j ps ∧
      List.Forall₂ (Agrees placed) ((cut group script).filterMap (hunk? s)) ps := by
  induction script generalizing group i j m n with
  | nil =>
      cases hscript
      rw [cut]
      split_ifs with hkeep
      · have hsame : s.Same i j k l := hgroup.same (by simpa using hkeep)
        exact ⟨[], .nil (hsame.drop hrest), .nil⟩
      · have hsome : group.reverse ≠ [] := by
          rintro hempty
          simp [List.reverse_eq_nil_iff.mp hempty] at hkeep
        obtain ⟨computed, p, hcomputed, hshows, hagrees⟩ := hgroup.hunk hsome hk hl
        refine ⟨[p], .cons .refl (by omega) hshows (.nil hrest), ?_⟩
        rw [List.filterMap_cons_some hcomputed]
        exact .cons hagrees .nil
  | cons e script ih =>
      obtain _ | ⟨fits, more⟩ := hscript
      rw [cut]
      split_ifs with hlong
      · -- the group ends inside the kept lines, and the next one starts there
        obtain ⟨hfirst, hlast, hbetween, hgap⟩ := fits.cut hlong.1 hlong.2
        have hshown := hgroup.concat hfirst
        rw [← List.reverse_cons] at hshown
        have hmiddle := hlast.le
        have hstop := more.le
        obtain ⟨_, -, hnew, -⟩ := id hbetween
        obtain ⟨computed, p, hcomputed, hshows, hagrees⟩ :=
          hshown.hunk (by simp) (by omega) (by omega)
        obtain ⟨ps, hps, hagree⟩ := ih (by rwa [List.reverse_singleton]) more
        refine ⟨p :: ps, .cons .refl (by omega) hshows (hps.extend hbetween hgap), ?_⟩
        rw [List.filterMap_cons_some hcomputed]
        exact .cons hagrees hagree
      · have hgrown := hgroup.concat fits
        rw [← List.reverse_cons] at hgrown
        exact ih hgrown more

namespace Patched

lemma starts (h : Patched s gap i j hs) :
    ∀ p ∈ hs, i + gap < p.oldStart ∧ j + gap < p.newStart := by
  induction h with
  | nil => simp
  | cons between apart shows more ih =>
      obtain ⟨count, rfl, rfl, -⟩ := between
      obtain ⟨hold, -, hnew, -⟩ := shows.header
      have hleold := shows.old.1
      have hlenew := shows.new.1
      rintro p (_ | ⟨_, hp⟩)
      · omega
      · have hlater := ih p hp
        omega

lemma increasing (h : Patched s gap i j hs) : hs.Pairwise fun p q =>
    p.oldStart + p.oldCount < q.oldStart ∧ p.newStart + p.newCount < q.newStart := by
  induction h with
  | nil => exact .nil
  | cons between apart shows more ih =>
      obtain ⟨hold, holdcount, hnew, hnewcount⟩ := shows.header
      have hleold := shows.old.1
      have hlenew := shows.new.1
      refine .cons (fun q hq => ?_) ih
      have hlater := more.starts q hq
      omega

lemma shows (h : Patched s gap i j hs) : ∀ p ∈ hs, ∃ m n k l, Shows s m n k l p := by
  induction h with
  | nil => simp
  | cons between apart shows more ih =>
      rintro p (_ | ⟨_, hp⟩)
      · exact ⟨_, _, _, _, shows⟩
      · exact ih p hp

lemma outside_eq (h : Patched s gap i j hs) :
    outside s.old.toList i (hs.map fun h => (h.oldStart, h.oldCount)) =
      outside s.new.toList j (hs.map fun h => (h.newStart, h.newCount)) := by
  induction h with
  | nil rest => exact rest
  | @cons _ i j _ _ k l h hs between apart shows more ih =>
      obtain ⟨count, rfl, rfl, hlines⟩ := between
      obtain ⟨hold, holdcount, hnew, hnewcount⟩ := shows.header
      have hleold := shows.old.1
      have hlenew := shows.new.1
      have hi : h.oldStart - 1 - i = count := by omega
      have hj : h.newStart - 1 - j = count := by omega
      have hk : h.oldStart - 1 + h.oldCount = k := by omega
      have hl : h.newStart - 1 + h.newCount = l := by omega
      rw [List.map_cons, List.map_cons, outside, outside, hi, hj, hk, hl, hlines, ih]

lemma rebuild_eq (h : Patched s gap i j hs) :
    rebuild (s.old.toList.map stripped) i hs = (s.new.toList.map stripped).drop j := by
  induction h with
  | nil rest => rw [rebuild, ← List.map_drop, ← List.map_drop, rest]
  | @cons _ i j _ _ k l h hs between apart shows more ih =>
      obtain ⟨count, rfl, rfl, hlines⟩ := between
      obtain ⟨hold, holdcount, -⟩ := shows.header
      obtain ⟨hlenew, -, hnew⟩ := shows.new
      have hleold := shows.old.1
      have hi : h.oldStart - 1 - i = count := by omega
      have hk : h.oldStart - 1 + h.oldCount = k := by omega
      have hl : j + (count + (l - (j + count))) = l := by omega
      have hall := range_append_drop (s.new.toList.map stripped) j (count + (l - (j + count)))
      rw [rebuild, hi, hk, hnew, ih, range_map, hlines, ← List.map_append, ← range_add, ← range_map]
      rwa [hl] at hall

/-- The hunks of a whole script. -/
lemma isPatch (h : Patched s 0 0 0 hs) : IsPatch s hs where
  oldSide p hp := by
    obtain ⟨m, n, k, l, hshows⟩ := h.shows p hp
    obtain ⟨hstart, hcount, -⟩ := hshows.header
    obtain ⟨hle, hk, hside⟩ := hshows.old
    rw [hside, hstart, hcount]
    exact ⟨by omega, by omega, rfl⟩
  newSide p hp := by
    obtain ⟨m, n, k, l, hshows⟩ := h.shows p hp
    obtain ⟨-, -, hstart, hcount⟩ := hshows.header
    obtain ⟨hle, hk, hside⟩ := hshows.new
    rw [hside, hstart, hcount]
    exact ⟨by omega, by omega, rfl⟩
  increasing := h.increasing
  outside := h.outside_eq
  rebuilt := h.rebuild_eq

end Patched

end Patch

/-! ### Lines that are shown -/

section Limit

variable {limit room : ℕ} {hs : List Hunk}

lemma limited_of_le (h : (hs.flatMap Hunk.lines).length ≤ room) : limited limit room hs = hs := by
  induction hs generalizing room with
  | nil => rfl
  | cons first rest ih =>
      rw [List.flatMap_cons, List.length_append] at h
      rw [limited, if_neg (by omega), ih (by omega)]

/-- **Lines behind the last one for which there is room are left out**, and one line stands for
them at the very end. -/
theorem limited_of_lt (h : room < (hs.flatMap Hunk.lines).length) :
    (limited limit room hs).flatMap Hunk.lines =
      (hs.flatMap Hunk.lines).take room ++ [truncationLine limit] := by
  induction hs generalizing room with
  | nil => simp at h
  | cons first rest ih =>
      rw [List.flatMap_cons, List.length_append] at h
      rw [limited]
      split_ifs with hroom
      · rw [List.flatMap_singleton, List.flatMap_cons, List.take_append_of_le_length hroom.le]
      · rw [List.flatMap_cons, ih (by omega), List.flatMap_cons, List.take_append,
          List.take_of_length_le (Nat.not_lt.mp hroom), List.append_assoc]

lemma limited_eq_nil_iff : limited limit room hs = [] ↔ hs = [] := by
  cases hs with
  | nil => simp [limited]
  | cons first rest =>
      rw [limited]
      split_ifs <;> simp

end Limit

/-! ### Texts -/

/-- The lines of a text are the text. -/
lemma flatten_lines (cs : List Char) : (lines cs).flatten = cs := by
  fun_induction lines cs <;> simp_all

lemma ofTexts_inj {old new : String}
    (h : (Sides.ofTexts old new).old = (Sides.ofTexts old new).new) : old = new := by
  have hlists : lines old.toList = lines new.toList := by
    refine List.map_injective_iff.mpr (fun _ _ => String.ofList_inj.mp) ?_
    simpa [Sides.ofTexts] using h
  rw [← String.toList_inj, ← flatten_lines old.toList, hlists, flatten_lines]

/-- All hunks of two texts, however many lines they show. -/
def allHunks (old new : String) : List Hunk :=
  (groups (Sides.ofTexts old new).edits).filterMap (hunk? (Sides.ofTexts old new))

/-- The groups of a script show a patch of the two texts. -/
lemma Covers.patched {placed : Prop} {s : Sides} {script : List Edit}
    (h : Covers placed s 0 0 script s.old.size s.new.size) :
    ∃ ps, Patched s 0 0 0 ps ∧
      List.Forall₂ (Agrees placed) ((groups script).filterMap (hunk? s)) ps := by
  obtain ⟨i, j, hfront, hscript⟩ := h.trimFirst
  obtain ⟨k, l, hscript, hback⟩ := hscript.trimLast
  have hnone : s.old.toList.drop s.old.size = s.new.toList.drop s.new.size := by
    rw [List.drop_eq_nil_of_le (by simp), List.drop_eq_nil_of_le (by simp)]
  have hrest := hback.drop hnone
  obtain ⟨count, hk, hl, -⟩ := hback
  have hgroup : Covers placed s i j (List.reverse []) i j := .nil
  obtain ⟨ps, hps, hagree⟩ := cut_patched hgroup hscript (by omega) (by omega) hrest
  exact ⟨ps, hps.extend hfront (by omega), hagree⟩

lemma patched_allHunks {placed : Prop} {old new : String}
    (h : Covers placed (.ofTexts old new) 0 0 (Sides.ofTexts old new).edits
      (Sides.ofTexts old new).old.size (Sides.ofTexts old new).new.size) :
    ∃ ps, Patched (.ofTexts old new) 0 0 0 ps ∧
      List.Forall₂ (Agrees placed) (allHunks old new) ps :=
  h.patched

/-- All lines of these hunks. -/
def allLines (old new : String) : List Line :=
  (allHunks old new).flatMap Hunk.lines

lemma hunks_eq_limited (old new : String) (limit : ℕ) :
    hunks old new limit = limited limit limit (allHunks old new) :=
  rfl

lemma hunks_eq_allHunks {old new : String} {limit : ℕ} (h : (allLines old new).length ≤ limit) :
    hunks old new limit = allHunks old new :=
  limited_of_le h

/-- The lines stand for kept, deleted or inserted ones. -/
lemma allLines_kind (old new : String) : ∀ l ∈ allLines old new, l.kind ≠ .truncated := by
  intro l hl
  obtain ⟨h, hh, hl⟩ := List.mem_flatMap.mp hl
  obtain ⟨group, -, hgroup⟩ := List.mem_filterMap.mp hh
  simp only [hunk?, Option.bind_eq_bind, Option.bind_eq_some_iff, Option.some.injEq] at hgroup
  obtain ⟨first, -, last, -, rfl⟩ := hgroup
  obtain ⟨e, -, hl⟩ := List.mem_flatMap.mp hl
  simp only [Edit.lines] at hl
  split at hl
  · obtain ⟨_, -, rfl⟩ := List.mem_map.mp hl
    simp
  · obtain hl | hl := List.mem_append.mp hl <;> obtain ⟨_, -, rfl⟩ := List.mem_map.mp hl <;> simp

/-- All lines are shown if there is room for them. Otherwise one more line stands for the rest. -/
lemma hunks_lines (old new : String) (limit : ℕ) :
    (hunks old new limit).flatMap Hunk.lines = (allLines old new).take limit ++
      if limit < (allLines old new).length then [truncationLine limit] else [] := by
  split_ifs with hlimit
  · exact limited_of_lt hlimit
  · rw [hunks_eq_allHunks (Nat.not_lt.mp hlimit), List.take_of_length_le (Nat.not_lt.mp hlimit),
      List.append_nil, allLines]

/-- **Hunks are a patch**, given that the script covers the lines of both texts in order and keeps
only equal ones:
* with room for all lines, the hunks show the lines of a patch. A header is the one of the patch
  around lines of context, and all are if the script notes right places also for no lines;
* with less room, lines at the end are left out, and one line at the very end says so;
* there are hunks if the texts differ, and no others. -/
theorem hunks_isPatch (old new : String)
    (hscript : (Sides.ofTexts old new).IsScript (Sides.ofTexts old new).edits) :
    (∃ patch, IsPatch (.ofTexts old new) patch ∧ ∀ limit, (allLines old new).length ≤ limit →
      List.Forall₂ (fun h p => h.lines = p.lines ∧ (h.Framed → h = p)) (hunks old new limit)
        patch) ∧
    ((Sides.ofTexts old new).IsPlacedScript (Sides.ofTexts old new).edits →
      ∀ limit, (allLines old new).length ≤ limit →
        IsPatch (.ofTexts old new) (hunks old new limit)) ∧
    (∀ limit, (hunks old new limit).flatMap Hunk.lines = (allLines old new).take limit ++
      if limit < (allLines old new).length then [truncationLine limit] else []) ∧
    (∀ l ∈ allLines old new, l.kind ≠ .truncated) ∧
    ∀ limit, hunks old new limit = [] ↔ old = new := by
  obtain ⟨ps, hps, hagree⟩ := patched_allHunks hscript
  refine ⟨⟨ps, hps.isPatch, fun limit hlimit => ?_⟩, fun hplaced limit hlimit => ?_,
    hunks_lines old new, allLines_kind old new, fun limit => ⟨fun hempty => ?_, ?_⟩⟩
  · rw [hunks_eq_allHunks hlimit]
    exact hagree.imp fun h p hp => ⟨hp.1, fun hframed => hp.2 (.inr hframed)⟩
  · obtain ⟨ps, hps, hagree⟩ := patched_allHunks hplaced
    have hsame : List.Forall₂ (· = ·) (allHunks old new) ps :=
      hagree.imp fun h p hp => hp.2 (.inl trivial)
    rw [List.forall₂_eq_eq_eq] at hsame
    rw [hunks_eq_allHunks hlimit, hsame]
    exact hps.isPatch
  · rw [hunks_eq_limited, limited_eq_nil_iff] at hempty
    rw [hempty] at hagree
    cases hagree
    obtain ⟨hrest⟩ := hps
    exact ofTexts_inj (Array.toList_inj.mp hrest)
  · rintro rfl
    exact hunks_self old limit

/-- A changed line between two others. -/
theorem hunks_isPatch_of_changed_line :
    (Sides.ofTexts "a\nb\nc\n" "a\nB\nc\n").IsScript
      (Sides.ofTexts "a\nb\nc\n" "a\nB\nc\n").edits ∧
    (Sides.ofTexts "a\nb\nc\n" "a\nB\nc\n").IsPlacedScript
      (Sides.ofTexts "a\nb\nc\n" "a\nB\nc\n").edits ∧
    IsPatch (.ofTexts "a\nb\nc\n" "a\nB\nc\n") (hunks "a\nb\nc\n" "a\nB\nc\n" 4) := by
  have hscript : (Sides.ofTexts "a\nb\nc\n" "a\nB\nc\n").IsScript
      (Sides.ofTexts "a\nb\nc\n" "a\nB\nc\n").edits := by decide +kernel
  have hplaced : (Sides.ofTexts "a\nb\nc\n" "a\nB\nc\n").IsPlacedScript
      (Sides.ofTexts "a\nb\nc\n" "a\nB\nc\n").edits := by decide +kernel
  obtain ⟨-, hpatch, -⟩ := hunks_isPatch "a\nb\nc\n" "a\nB\nc\n" hscript
  exact ⟨hscript, hplaced, hpatch hplaced 4 (by decide +kernel)⟩

/-- A deletion in front of all lines that are kept notes a place behind the first of them: the
header leaves out a line that the hunk shows. -/
theorem hunks_header_leaves_out_line :
    (Sides.ofTexts "b\na\na\na\nb\nb\na\n" "a\na\na\na\nb\nb\na\n").IsScript
      (Sides.ofTexts "b\na\na\na\nb\nb\na\n" "a\na\na\na\nb\nb\na\n").edits ∧
    (hunks "b\na\na\na\nb\nb\na\n" "a\na\na\na\nb\nb\na\n" 1000).map (fun h =>
      (h.newStart, h.newCount, side .add h.lines)) =
        [(2, 6, ["a", "a", "a", "a", "b", "b", "a"])] ∧
    ¬ IsPatch (.ofTexts "b\na\na\na\nb\nb\na\n" "a\na\na\na\nb\nb\na\n")
      (hunks "b\na\na\na\nb\nb\na\n" "a\na\na\na\nb\nb\na\n" 1000) := by
  decide +kernel

end Scaffold.Diff

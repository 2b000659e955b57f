import Mathlib
import Scaffold.Proofs.Texts
import Scaffold.Template

/-!
The texts whose directives are well-formed.

* `Directive.Written`: the ways to write a directive. A text starts with at most one
  (`directiveAt?_eq_some_iff`);
* `Cut`: a text is cut into directives and the text between them, from left to right. No
  directive starts within a piece of text. `cut_iff`: there is one such cut;
* `Nested`: directives that nest to blocks, some levels deep at most;
* `Template.Builds`: segments that nest to the blocks of a template. `ofSegments_eq_ok_iff`:
  nesting succeeds with just these. Its frames are the blocks that are open
  (`Template.Pending`), and each segment closes one, opens one or goes on with one;
* `renderTemplate_isOk_iff_nested`: hence a text is rendered if and only if its directives
  nest at most twenty levels deep, whatever the variables are.
-/

namespace Scaffold

open Text Variable

/-! ### Words and blanks -/

section Reading

variable {cs rest : List Char}

/-- A word is a character to start with, and characters to go on with. -/
def IsWord (isStart isRest : Char → Bool) (word : List Char) : Prop :=
  (∃ c ∈ word.head?, isStart c) ∧ ∀ c ∈ word, isRest c

instance (isStart isRest : Char → Bool) : DecidablePred (IsWord isStart isRest) :=
  fun word => decidable_of_iff (word.head?.any isStart = true ∧ word.all isRest = true) <| by
    rw [Option.any_eq_true, List.all_eq_true]
    rfl

/-- A word at the start of a text ends where the text does not go on with it. -/
lemma wordAt?_eq_some_iff {isStart isRest : Char → Bool} {word : List Char}
    (h : ∀ c, isStart c → isRest c) :
    wordAt? isStart isRest cs = some (word, rest) ↔
      IsWord isStart isRest word ∧ cs = word ++ rest ∧ ∀ c ∈ rest.head?, isRest c = false := by
  have hcut := @takeWhile_dropWhile_iff cs rest isRest word
  rw [wordAt?, Option.ite_none_right_eq_some, Option.some.injEq, Prod.mk.injEq, hcut, IsWord]
  constructor
  · rintro ⟨hany, rfl, hword, hrest⟩
    obtain ⟨c, hc, hstart⟩ := (Option.any_eq_true ..).mp hany
    refine ⟨⟨⟨c, ?_, hstart⟩, hword⟩, rfl, hrest⟩
    cases word with
    | cons d more => exact hc
    | nil => exact absurd (h c hstart) (by simp [hrest c hc])
  · rintro ⟨⟨⟨c, hc, hstart⟩, hword⟩, rfl, hrest⟩
    refine ⟨(Option.any_eq_true ..).mpr ⟨c, ?_, hstart⟩, rfl, hword, hrest⟩
    cases word with
    | cons d more => exact hc
    | nil => simp at hc

/-- A text that is blank, or empty. -/
def IsBlankText (cs : List Char) : Prop :=
  ∀ c ∈ cs, isBlank c

/-- Trimming cuts the blanks off at the start. -/
lemma trimStart_eq_iff :
    trimStart cs = rest ↔ ∃ gap, IsBlankText gap ∧ cs = gap ++ rest ∧
      ∀ c ∈ rest.head?, isBlank c = false :=
  dropWhile_eq_iff

lemma skipBlanks?_eq_some_iff :
    skipBlanks? cs = some rest ↔ ∃ gap, (gap ≠ [] ∧ IsBlankText gap) ∧ cs = gap ++ rest ∧
      ∀ c ∈ rest.head?, isBlank c = false := by
  rw [skipBlanks?, Option.ite_none_right_eq_some, Option.some.injEq, trimStart_eq_iff]
  constructor
  · rintro ⟨hstart, gap, hgap, rfl, hrest⟩
    obtain ⟨c, hc, hblank⟩ := (Option.any_eq_true ..).mp hstart
    refine ⟨gap, ⟨?_, hgap⟩, rfl, hrest⟩
    rintro rfl
    simp [hrest c hc] at hblank
  · rintro ⟨gap, ⟨hne, hgap⟩, rfl, hrest⟩
    obtain ⟨c, more, rfl⟩ := List.exists_cons_of_ne_nil hne
    exact ⟨by simpa using hgap c (by simp), _, hgap, rfl, hrest⟩

/-- What ends at a closing brace ends at two of them. -/
lemma head?_braces {p : Char → Bool} (h : p '}' = false) :
    ∀ c ∈ (['}', '}'] ++ rest).head?, p c = false := by
  simpa using h

lemma closeBraces?_eq_some_iff :
    closeBraces? cs = some rest ↔ ∃ gap, IsBlankText gap ∧ cs = gap ++ (['}', '}'] ++ rest) := by
  rw [closeBraces?, after?_eq_some_iff, trimStart_eq_iff]
  constructor
  · rintro ⟨gap, hgap, hcut, -⟩
    exact ⟨gap, hgap, hcut⟩
  · rintro ⟨gap, hgap, hcut⟩
    exact ⟨gap, hgap, hcut, head?_braces (by decide)⟩

/-! ### Characters of a directive -/

lemma isIdentRest_of_start {c : Char} (h : isIdentStart c) : isIdentRest c := by
  simp only [isIdentStart, isIdentRest, Bool.or_eq_true, Char.isAlphanum] at h ⊢
  exact h.imp_left .inl

lemma isItemRest_of_start {c : Char} (h : isItemStart c) : isItemRest c := by
  simp only [isItemStart, isItemRest, Bool.or_eq_true] at h ⊢
  exact h.imp_left .inl

/-- An item name is an identifier. -/
lemma isIdentRest_of_item {c : Char} (h : isItemRest c) : isIdentRest c := by
  simp only [isItemRest, isIdentRest, Bool.or_eq_true, Char.isAlphanum, Char.isAlpha] at h ⊢
  tauto

lemma identRest_range {c : Char} (h : isIdentRest c) : 0x30 ≤ c.toNat ∧ c.toNat ≤ 0x7A := by
  simp only [isIdentRest, Char.isAlphanum, Char.isAlpha, Char.isUpper, Char.isLower,
    Char.isDigit, Bool.or_eq_true, Bool.and_eq_true, decide_eq_true_eq, beq_iff_eq] at h
  obtain ((⟨hlow, hhigh⟩ | ⟨hlow, hhigh⟩) | ⟨hlow, hhigh⟩) | rfl := h
  all_goals first
    | decide
    | exact ⟨le_trans (by decide) (UInt32.le_iff_toNat_le.mp hlow),
        le_trans (UInt32.le_iff_toNat_le.mp hhigh) (by decide)⟩

/-- The characters of an identifier are neither blank nor braces. -/
lemma identRest_bounds {c : Char} (h : isIdentRest c) :
    isBlank c = false ∧ c ≠ '{' ∧ c ≠ '}' := by
  have hrange := identRest_range h
  refine ⟨?_, ?_, ?_⟩
  · simp only [isBlank, Bool.or_eq_false_iff, Bool.and_eq_false_iff, decide_eq_false_iff_not,
      beq_eq_false_iff_ne]
    omega
  · rintro rfl
    exact absurd hrange.2 (by decide)
  · rintro rfl
    exact absurd hrange.2 (by decide)

end Reading

/-! ### Written directives -/

namespace Directive

/-- The ways to write a directive. An identifier that is asked for is set off by blanks, and
more of them may follow the last one. -/
inductive Written : Directive → List Char → Prop
  | ifSet {gap name tail : List Char} : gap ≠ [] ∧ IsBlankText gap →
      IsWord isIdentStart isIdentRest name → IsBlankText tail →
      Written (.ifSet name) (['{', '{'] ++ "if".toList ++ gap ++ name ++ tail ++ ['}', '}'])
  | forEach {gap item gapIn gapList list tail : List Char} : gap ≠ [] ∧ IsBlankText gap →
      IsWord isItemStart isItemRest item → gapIn ≠ [] ∧ IsBlankText gapIn →
      gapList ≠ [] ∧ IsBlankText gapList → IsWord isIdentStart isIdentRest list →
      IsBlankText tail →
      Written (.forEach item list) (['{', '{'] ++ "for".toList ++ gap ++ item ++ gapIn ++
        "in".toList ++ gapList ++ list ++ tail ++ ['}', '}'])
  | elseMark : Written .elseMark "\x7b\x7belse\x7d\x7d".toList
  | endIf : Written .endIf "\x7b\x7bendif\x7d\x7d".toList
  | endFor : Written .endFor "\x7b\x7bendfor\x7d\x7d".toList

/-- A directive starts with braces and one of three letters. -/
lemma Written.starts {d : Directive} {w : List Char} (h : d.Written w) :
    ∃ c ∈ ['i', 'f', 'e'], ['{', '{', c] <+: w := by
  cases h with
  | ifSet | forEach => simp
  | elseMark | endIf | endFor => exact ⟨'e', by simp, by decide⟩

lemma Written.ne_nil {d : Directive} {w : List Char} (h : d.Written w) : w ≠ [] := by
  cases h <;> simp

end Directive

section Finding

variable {cs rest : List Char} {d : Directive}

/-- A word stands in front of what it does not go on with. -/
lemma head?_word {isStart isRest : Char → Bool} {word more : List Char}
    (h : IsWord isStart isRest word) : ∃ c, (word ++ more).head? = some c ∧ isRest c := by
  obtain ⟨⟨c, hc, -⟩, hword⟩ := h
  cases word with
  | nil => simp at hc
  | cons d tail => exact ⟨d, rfl, hword d (by simp)⟩

/-- A word ends at a gap. -/
lemma not_rest_of_gap {isRest : Char → Bool} {gap more : List Char}
    (hident : ∀ c, isRest c → isIdentRest c) (hgap : IsBlankText gap)
    (hmore : gap = [] → ∀ c ∈ more.head?, isRest c = false) :
    ∀ c ∈ (gap ++ more).head?, isRest c = false := by
  intro c hc
  cases gap with
  | nil => exact hmore rfl c hc
  | cons b tail =>
      obtain rfl : b = c := by simpa using hc
      by_contra hrest
      have hblank := hgap b (by simp)
      rw [(identRest_bounds (hident b (by simpa using hrest))).1] at hblank
      simp at hblank

/-- An identifier ends at the closing braces, and at the blanks before them. -/
lemma not_rest_of_closing {tail : List Char} (h : IsBlankText tail) :
    ∀ c ∈ (tail ++ (['}', '}'] ++ rest)).head?, isIdentRest c = false :=
  not_rest_of_gap (fun _ => id) h fun _ => head?_braces (by decide)

lemma not_blank_of_word {isStart isRest : Char → Bool} {word more : List Char}
    (h : IsWord isStart isRest word) (hident : ∀ c, isRest c → isIdentRest c) :
    ∀ c ∈ (word ++ more).head?, isBlank c = false := by
  obtain ⟨d, hd, hrest⟩ := @head?_word isStart isRest word more h
  intro c hc
  obtain rfl : d = c := by simpa [hd] using hc
  exact (identRest_bounds (hident d hrest)).1

lemma ifDirective?_eq_some_iff :
    ifDirective? cs = some (d, rest) ↔
      ∃ gap name tail, d = .ifSet name ∧ (gap ≠ [] ∧ IsBlankText gap) ∧
        IsWord isIdentStart isIdentRest name ∧ IsBlankText tail ∧
        cs = "if".toList ++ (gap ++ (name ++ (tail ++ (['}', '}'] ++ rest)))) := by
  simp only [ifDirective?, Option.bind_eq_bind, Option.bind_eq_some_iff, after?_eq_some_iff,
    skipBlanks?_eq_some_iff, closeBraces?_eq_some_iff, Prod.exists,
    wordAt?_eq_some_iff (fun _ => isIdentRest_of_start), Option.some.injEq, Prod.mk.injEq]
  constructor
  · rintro ⟨_, rfl, _, ⟨gap, hgap, rfl, -⟩, name, _, ⟨hname, rfl, -⟩, _, ⟨tail, htail, rfl⟩,
      rfl, rfl⟩
    exact ⟨gap, name, tail, rfl, hgap, hname, htail, rfl⟩
  · rintro ⟨gap, name, tail, rfl, hgap, hname, htail, rfl⟩
    exact ⟨_, rfl, _, ⟨gap, hgap, rfl, not_blank_of_word hname fun _ => id⟩, name, _,
      ⟨hname, rfl, not_rest_of_closing htail⟩, _, ⟨tail, htail, rfl⟩, rfl, rfl⟩

lemma forDirective?_eq_some_iff :
    forDirective? cs = some (d, rest) ↔
      ∃ gap item gapIn gapList list tail, d = .forEach item list ∧
        (gap ≠ [] ∧ IsBlankText gap) ∧ IsWord isItemStart isItemRest item ∧
        (gapIn ≠ [] ∧ IsBlankText gapIn) ∧ (gapList ≠ [] ∧ IsBlankText gapList) ∧
        IsWord isIdentStart isIdentRest list ∧ IsBlankText tail ∧
        cs = "for".toList ++ (gap ++ (item ++ (gapIn ++ ("in".toList ++ (gapList ++
          (list ++ (tail ++ (['}', '}'] ++ rest)))))))) := by
  simp only [forDirective?, loopHead?, Option.bind_eq_bind, Option.bind_eq_some_iff,
    after?_eq_some_iff, skipBlanks?_eq_some_iff, closeBraces?_eq_some_iff, Prod.exists,
    wordAt?_eq_some_iff (fun _ => isIdentRest_of_start),
    wordAt?_eq_some_iff (fun _ => isItemRest_of_start), Option.some.injEq, Prod.mk.injEq]
  constructor
  · rintro ⟨_, _, ⟨_, rfl, _, ⟨gap, hgap, rfl, -⟩, item, _, ⟨hitem, rfl, -⟩, _,
      ⟨gapIn, hgapIn, rfl, -⟩, _, rfl, rfl, rfl⟩, _, ⟨gapList, hgapList, rfl, -⟩, list, _,
      ⟨hlist, rfl, -⟩, _, ⟨tail, htail, rfl⟩, rfl, rfl⟩
    exact ⟨gap, item, gapIn, gapList, list, tail, rfl, hgap, hitem, hgapIn, hgapList, hlist,
      htail, rfl⟩
  · rintro ⟨gap, item, gapIn, gapList, list, tail, rfl, hgap, hitem, hgapIn, hgapList, hlist,
      htail, rfl⟩
    have hitem_end (more : List Char) : ∀ c ∈ (gapIn ++ more).head?, isItemRest c = false :=
      not_rest_of_gap (fun _ => isIdentRest_of_item) hgapIn.2 (absurd · hgapIn.1)
    have hin (more : List Char) : ∀ c ∈ ("in".toList ++ more).head?, isBlank c = false := by
      have hletter : isBlank 'i' = false := by decide
      simpa using hletter
    exact ⟨_, _, ⟨_, rfl, _, ⟨gap, hgap, rfl, not_blank_of_word hitem fun _ => isIdentRest_of_item⟩,
      item, _, ⟨hitem, rfl, hitem_end _⟩, _, ⟨gapIn, hgapIn, rfl, hin _⟩, _, rfl, rfl, rfl⟩, _,
      ⟨gapList, hgapList, rfl, not_blank_of_word hlist fun _ => id⟩, list, _,
      ⟨hlist, rfl, not_rest_of_closing htail⟩, _, ⟨tail, htail, rfl⟩, rfl, rfl⟩

/-- A text starts with a directive if and only if it starts with one of the ways to write
it. -/
lemma directiveAt?_eq_some_iff :
    directiveAt? cs = some (d, rest) ↔ ∃ w, d.Written w ∧ cs = w ++ rest := by
  constructor
  · intro h
    simp only [directiveAt?, Option.bind_eq_bind, Option.bind_eq_some_iff, after?_eq_some_iff,
      Option.or_eq_some_iff, Option.map_eq_some_iff, Prod.mk.injEq] at h
    obtain ⟨body, rfl, hif | ⟨-, hfor | ⟨-, helse | ⟨-, hendif | ⟨-, hendfor⟩⟩⟩⟩⟩ := h
    · obtain ⟨gap, name, tail, rfl, hgap, hname, htail, rfl⟩ := ifDirective?_eq_some_iff.mp hif
      exact ⟨_, .ifSet hgap hname htail, by simp⟩
    · obtain ⟨gap, item, gapIn, gapList, list, tail, rfl, hgap, hitem, hgapIn, hgapList, hlist,
        htail, rfl⟩ := forDirective?_eq_some_iff.mp hfor
      exact ⟨_, .forEach hgap hitem hgapIn hgapList hlist htail, by simp⟩
    · obtain ⟨_, rfl, rfl, rfl⟩ := helse
      exact ⟨_, .elseMark, rfl⟩
    · obtain ⟨_, rfl, rfl, rfl⟩ := hendif
      exact ⟨_, .endIf, rfl⟩
    · obtain ⟨_, rfl, rfl, rfl⟩ := hendfor
      exact ⟨_, .endFor, rfl⟩
  · rintro ⟨w, hw, rfl⟩
    cases hw with
    | @ifSet gap name tail hgap hname htail =>
        have hif : ifDirective? _ = some (.ifSet name, rest) :=
          ifDirective?_eq_some_iff.mpr ⟨gap, name, tail, rfl, hgap, hname, htail, rfl⟩
        simp only [directiveAt?, List.append_assoc, after?_append]
        rw [Option.bind_eq_bind, Option.bind_some, hif, Option.some_or]
    | @forEach gap item gapIn gapList list tail hgap hitem hgapIn hgapList hlist htail =>
        have hfor : forDirective? _ = some (.forEach item list, rest) :=
          forDirective?_eq_some_iff.mpr ⟨gap, item, gapIn, gapList, list, tail, rfl, hgap, hitem,
            hgapIn, hgapList, hlist, htail, rfl⟩
        have hif (more : List Char) : ifDirective? ("for".toList ++ more) = none := rfl
        simp only [directiveAt?, List.append_assoc, after?_append]
        rw [Option.bind_eq_bind, Option.bind_some, hif, Option.none_or, hfor, Option.some_or]
    | elseMark => rfl
    | endIf => rfl
    | endFor => rfl

end Finding

/-! ### Cutting a text -/

/-- A directive is written at the start of a text. -/
def StartsDirective (cs : List Char) : Prop :=
  ∃ d : Directive, ∃ w, d.Written w ∧ w <+: cs

lemma directiveAt?_eq_none_iff {cs : List Char} :
    directiveAt? cs = none ↔ ¬ StartsDirective cs := by
  rw [← not_iff_not, not_not, ← ne_eq, Option.ne_none_iff_exists']
  constructor
  · rintro ⟨⟨d, rest⟩, h⟩
    obtain ⟨w, hw, rfl⟩ := directiveAt?_eq_some_iff.mp h
    exact ⟨d, w, hw, List.prefix_append w rest⟩
  · rintro ⟨d, w, hw, rest, rfl⟩
    exact ⟨(d, rest), directiveAt?_eq_some_iff.mpr ⟨w, hw, rfl⟩⟩

/-- A text cut into directives and the text between them, from left to right. No directive
starts within a piece of text, and no two such pieces follow each other. -/
inductive Cut : List Char → List Segment → Prop
  | nil : Cut [] []
  | directive {d : Directive} {w rest : List Char} {segs : List Segment} :
      d.Written w → Cut rest segs → Cut (w ++ rest) (.directive d :: segs)
  | text {piece rest : List Char} {segs : List Segment} : piece ≠ [] →
      (∀ back, back ≠ [] → back <:+ piece → ¬ StartsDirective (back ++ rest)) →
      (∀ cs, segs.head? ≠ some (.text cs)) →
      Cut rest segs → Cut (piece ++ rest) (.text piece :: segs)

/-- A text that starts with no directive starts with a piece of text. -/
lemma Cut.cons_text {c : Char} {rest : List Char} {segs : List Segment}
    (hstart : ¬ StartsDirective (c :: rest)) (h : Cut rest segs) :
    Cut (c :: rest) (consText c segs) := by
  by_cases htext : ∃ piece more, segs = .text piece :: more
  · obtain ⟨piece, more, rfl⟩ := htext
    cases h with
    | @text _ rest _ hne hpiece hnext hrest =>
        refine @Cut.text (c :: piece) rest more (by simp) ?_ hnext hrest
        intro back hback hsuffix
        obtain rfl | hsuffix := List.suffix_cons_iff.mp hsuffix
        · exact hstart
        · exact hpiece back hback hsuffix
  · have hcons : consText c segs = .text [c] :: segs := by
      rw [consText]
      exact fun piece more hsegs => htext ⟨piece, more, hsegs⟩
    rw [hcons]
    refine @Cut.text [c] rest segs (by simp) ?_ ?_ h
    · intro back hback hsuffix
      obtain rfl := (List.suffix_cons_iff.mp hsuffix).resolve_right (by simpa using hback)
      exact hstart
    · intro piece hhead
      obtain ⟨more, hsegs⟩ := List.head?_eq_some_iff.mp hhead
      exact htext ⟨piece, more, hsegs⟩

/-- The segments that are found are a cut of the text. -/
lemma cut_segmentsWithin {fuel : Nat} {cs : List Char} (h : cs.length ≤ fuel) :
    Cut cs (segmentsWithin fuel cs) := by
  fun_induction segmentsWithin fuel cs with
  | case1 cs =>
      rw [List.length_eq_zero_iff.mp (Nat.le_zero.mp h)]
      exact .nil
  | case2 => exact .nil
  | case3 c rest fuel d tail hfound ih =>
      obtain ⟨w, hw, hcut⟩ := directiveAt?_eq_some_iff.mp hfound
      have hlength : 0 < w.length := List.length_pos_iff.mpr hw.ne_nil
      rw [hcut] at h ⊢
      exact .directive hw (ih (by rw [List.length_append] at h; omega))
  | case4 c rest fuel hfound ih =>
      exact .cons_text (directiveAt?_eq_none_iff.mp hfound) (ih (by simpa using h))

/-- Text that no directive starts in becomes one piece. -/
lemma segmentsWithin_text {piece rest : List Char} {segs : List Segment} (hne : piece ≠ [])
    (hpiece : ∀ back, back ≠ [] → back <:+ piece → ¬ StartsDirective (back ++ rest))
    (hnext : ∀ cs, segs.head? ≠ some (.text cs)) {fuel : Nat}
    (hfuel : (piece ++ rest).length ≤ fuel)
    (hrest : ∀ fuel, rest.length ≤ fuel → segmentsWithin fuel rest = segs) :
    segmentsWithin fuel (piece ++ rest) = .text piece :: segs := by
  induction piece generalizing fuel with
  | nil => exact absurd rfl hne
  | cons c piece ih =>
      obtain ⟨fuel, rfl⟩ : ∃ n, fuel = n + 1 := ⟨fuel - 1, by simp at hfuel; omega⟩
      have hnone : directiveAt? (c :: (piece ++ rest)) = none :=
        directiveAt?_eq_none_iff.mpr (hpiece (c :: piece) (by simp) List.suffix_rfl)
      have hstep : segmentsWithin (fuel + 1) (c :: piece ++ rest) =
          consText c (segmentsWithin fuel (piece ++ rest)) := by
        rw [List.cons_append, segmentsWithin, hnone]
      rw [List.cons_append, List.length_cons, Nat.add_le_add_iff_right] at hfuel
      rw [hstep]
      by_cases hlast : piece = []
      · subst hlast
        rw [List.nil_append, hrest fuel (by simpa using hfuel)]
        cases segs with
        | nil => rfl
        | cons next more =>
            cases next with
            | text cs => exact absurd rfl (hnext cs)
            | directive d => rfl
      · rw [ih hlast (fun back hback hsuffix => hpiece back hback
          (hsuffix.trans (List.suffix_cons c piece))) hfuel]
        rfl

/-- A cut of the text is what is found. -/
lemma Cut.segmentsWithin_eq {cs : List Char} {segs : List Segment} (h : Cut cs segs) :
    ∀ fuel, cs.length ≤ fuel → segmentsWithin fuel cs = segs := by
  induction h with
  | nil =>
      intro fuel _
      cases fuel <;> rfl
  | @directive d w rest segs hw _ ih =>
      intro fuel hfuel
      obtain ⟨c, tail, rfl⟩ := List.exists_cons_of_ne_nil hw.ne_nil
      obtain ⟨fuel, rfl⟩ : ∃ n, fuel = n + 1 := ⟨fuel - 1, by simp at hfuel; omega⟩
      have hfound : directiveAt? (c :: (tail ++ rest)) = some (d, rest) :=
        directiveAt?_eq_some_iff.mpr ⟨_, hw, rfl⟩
      rw [List.cons_append, segmentsWithin, hfound]
      simp only [List.cons_append, List.length_cons, List.length_append] at hfuel
      exact congrArg _ (ih fuel (by omega))
  | text hne hpiece hnext _ ih =>
      intro fuel hfuel
      exact segmentsWithin_text hne hpiece hnext hfuel ih

/-- A text is cut in one way, and that one is found. -/
lemma cut_iff {cs : List Char} {segs : List Segment} : Cut cs segs ↔ segs = segments cs :=
  ⟨fun h => (h.segmentsWithin_eq _ le_rfl).symm, fun h => h ▸ cut_segmentsWithin le_rfl⟩

/-- A text without directives is one piece at most. -/
lemma cut_of_no_directive {cs : List Char}
    (h : ∀ d : Directive, ∀ w, d.Written w → ¬ w <:+: cs) :
    Cut cs (if cs = [] then [] else [.text cs]) := by
  split_ifs with hnil
  · exact hnil ▸ .nil
  · have hcut : Cut (cs ++ []) [.text cs] := by
      refine .text hnil ?_ (by simp) .nil
      rintro back - hback ⟨d, w, hw, hstart⟩
      rw [List.append_nil] at hstart
      exact h d w hw (hstart.isInfix.trans hback.isInfix)
    rwa [List.append_nil] at hcut

/-! ### Nesting -/

/-- The directives of a text that has been cut. -/
def directives (segs : List Segment) : List Directive :=
  segs.filterMap fun
    | .text _ => none
    | .directive d => some d

@[simp]
lemma directives_append (front back : List Segment) :
    directives (front ++ back) = directives front ++ directives back :=
  List.filterMap_append

@[simp]
lemma directives_text (cs : List Char) (segs : List Segment) :
    directives (.text cs :: segs) = directives segs :=
  rfl

@[simp]
lemma directives_directive (d : Directive) (segs : List Segment) :
    directives (.directive d :: segs) = d :: directives segs :=
  rfl

@[simp]
lemma directives_nil : directives [] = [] :=
  rfl

/-- Directives that nest to blocks, `n` levels deep at most. -/
inductive Nested : Nat → List Directive → Prop
  | nil {n : Nat} : Nested n []
  | choice {n : Nat} {before body : List Directive} {name : List Char} :
      Nested (n + 1) before → Nested n body →
      Nested (n + 1) (before ++ .ifSet name :: (body ++ [.endIf]))
  | alternative {n : Nat} {before body other : List Directive} {name : List Char} :
      Nested (n + 1) before → Nested n body → Nested n other →
      Nested (n + 1) (before ++ .ifSet name :: (body ++ .elseMark :: (other ++ [.endIf])))
  | loop {n : Nat} {before body : List Directive} {item list : List Char} :
      Nested (n + 1) before → Nested n body →
      Nested (n + 1) (before ++ .forEach item list :: (body ++ [.endFor]))

/-- Segments that nest to the blocks of a template, `n` levels deep at most. -/
inductive Template.Builds : Nat → List Segment → Template → Prop
  | nil {n : Nat} : Builds n [] []
  | text {n : Nat} {segs : List Segment} {t : Template} {cs : List Char} :
      Builds n segs t → Builds n (segs ++ [.text cs]) (t ++ [.text cs])
  | choice {n : Nat} {segs body : List Segment} {t thenBody : Template} {name : List Char} :
      Builds (n + 1) segs t → Builds n body thenBody →
      Builds (n + 1) (segs ++ .directive (.ifSet name) :: (body ++ [.directive .endIf]))
        (t ++ [.choice name thenBody []])
  | alternative {n : Nat} {segs body other : List Segment} {t thenBody elseBody : Template}
      {name : List Char} :
      Builds (n + 1) segs t → Builds n body thenBody → Builds n other elseBody →
      Builds (n + 1)
        (segs ++ .directive (.ifSet name) ::
          (body ++ .directive .elseMark :: (other ++ [.directive .endIf])))
        (t ++ [.choice name thenBody elseBody])
  | loop {n : Nat} {segs body : List Segment} {t loopBody : Template} {item list : List Char} :
      Builds (n + 1) segs t → Builds n body loopBody →
      Builds (n + 1) (segs ++ .directive (.forEach item list) :: (body ++ [.directive .endFor]))
        (t ++ [.loop item list loopBody])

namespace Template

variable {n : Nat} {segs rest : List Segment} {t : Template}

/-- The directives of segments that nest are nested. -/
lemma Builds.nested (h : Builds n segs t) : Nested n (directives segs) := by
  induction h with
  | nil => exact .nil
  | text _ ih => simpa using ih
  | choice _ _ ih ihBody => simpa using Nested.choice ih ihBody
  | alternative _ _ _ ih ihBody ihOther => simpa using Nested.alternative ih ihBody ihOther
  | loop _ _ ih ihBody => simpa using Nested.loop ih ihBody

/-- Text may follow. -/
lemma Builds.append_text {texts : List Segment} (h : Builds n segs t)
    (htexts : directives texts = []) : ∃ t', Builds n (segs ++ texts) t' := by
  induction texts generalizing segs t with
  | nil => exact ⟨t, by simpa using h⟩
  | cons next more ih =>
      cases next with
      | directive d => simp at htexts
      | text cs =>
          obtain ⟨t', ht'⟩ := ih h.text htexts
          exact ⟨t', by simpa using ht'⟩

/-- A directive of a text is one of its segments. -/
lemma directives_eq_append_cons {front back : List Directive} {d : Directive}
    (h : directives segs = front ++ d :: back) :
    ∃ before after, segs = before ++ .directive d :: after ∧ directives before = front ∧
      directives after = back := by
  obtain ⟨first, others, rfl, rfl, hothers⟩ := List.filterMap_eq_append_iff.mp h
  obtain ⟨texts, next, after, rfl, htexts, hnext, rfl⟩ := List.filterMap_eq_cons_iff.mp hothers
  cases next with
  | text cs => simp at hnext
  | directive d' =>
      obtain rfl : d' = d := by simpa using hnext
      have hnone : directives texts = [] := List.filterMap_eq_nil_iff.mpr htexts
      have hfirst : directives (first ++ texts) = directives first := by
        rw [directives_append, hnone, List.append_nil]
      exact ⟨first ++ texts, after, by simp, hfirst, rfl⟩

/-- Segments nest if their directives are nested. -/
lemma exists_builds {ds : List Directive} (h : Nested n ds) :
    ∀ segs, directives segs = ds → ∃ t, Builds n segs t := by
  induction h with
  | nil =>
      intro segs hsegs
      simpa using Builds.nil.append_text hsegs
  | choice _ _ ih ihBody =>
      -- The segments are split at the directives of the rule. Text may be left at the end.
      intro segs hsegs
      obtain ⟨before, after, rfl, hbefore, hafter⟩ := directives_eq_append_cons hsegs
      obtain ⟨body, tail, rfl, hbody, htail⟩ := directives_eq_append_cons hafter
      obtain ⟨t, ht⟩ := ih before hbefore
      obtain ⟨tb, htb⟩ := ihBody body hbody
      simpa using (ht.choice htb).append_text htail
  | alternative _ _ _ ih ihBody ihOther =>
      intro segs hsegs
      obtain ⟨before, after, rfl, hbefore, hafter⟩ := directives_eq_append_cons hsegs
      obtain ⟨body, tail, rfl, hbody, htail⟩ := directives_eq_append_cons hafter
      obtain ⟨other, tail, rfl, hother, htail⟩ := directives_eq_append_cons htail
      obtain ⟨t, ht⟩ := ih before hbefore
      obtain ⟨tb, htb⟩ := ihBody body hbody
      obtain ⟨te, hte⟩ := ihOther other hother
      simpa using (ht.alternative htb hte).append_text htail
  | loop _ _ ih ihBody =>
      intro segs hsegs
      obtain ⟨before, after, rfl, hbefore, hafter⟩ := directives_eq_append_cons hsegs
      obtain ⟨body, tail, rfl, hbody, htail⟩ := directives_eq_append_cons hafter
      obtain ⟨t, ht⟩ := ih before hbefore
      obtain ⟨tb, htb⟩ := ihBody body hbody
      simpa using (ht.loop htb).append_text htail

/-! ### Open blocks -/

/-- The segments read so far, by the blocks that are open: `n` more may be opened. -/
inductive Pending : Nat → List Frame → List Block → List Segment → Prop
  | outermost {done : List Block} {segs : List Segment} :
      Builds maxTemplateDepth segs done.reverse → Pending maxTemplateDepth [] done segs
  | thenBranch {n : Nat} {frames : List Frame} {before done : List Block}
      {segs body : List Segment} {name : List Char} :
      Pending (n + 1) frames before segs → Builds n body done.reverse →
      Pending n (⟨.thenBranch name, before⟩ :: frames) done
        (segs ++ .directive (.ifSet name) :: body)
  | elseBranch {n : Nat} {frames : List Frame} {before thenBody done : List Block}
      {segs body other : List Segment} {name : List Char} :
      Pending (n + 1) frames before segs → Builds n body thenBody → Builds n other done.reverse →
      Pending n (⟨.elseBranch name thenBody, before⟩ :: frames) done
        (segs ++ .directive (.ifSet name) :: (body ++ .directive .elseMark :: other))
  | loopBody {n : Nat} {frames : List Frame} {before done : List Block}
      {segs body : List Segment} {item list : List Char} :
      Pending (n + 1) frames before segs → Builds n body done.reverse →
      Pending n (⟨.loopBody item list, before⟩ :: frames) done
        (segs ++ .directive (.forEach item list) :: body)

lemma Pending.depth {frames : List Frame} {done : List Block}
    (h : Pending n frames done segs) : n + frames.length = maxTemplateDepth := by
  induction h with
  | outermost => rfl
  | thenBranch _ _ ih | elseBranch _ _ _ ih | loopBody _ _ ih =>
      rw [← ih, List.length_cons]
      omega

/-- What goes on with the innermost blocks goes on with the segments. -/
lemma Pending.append {frames : List Frame} {done : List Block} {more : List Segment}
    {block : Block} (h : Pending n frames done segs)
    (hmore : ∀ {body : List Segment} {t : Template}, Builds n body t →
      Builds n (body ++ more) (t ++ [block])) :
    Pending n frames (block :: done) (segs ++ more) := by
  cases h with
  | outermost hbuilds => exact .outermost (by simpa using hmore hbuilds)
  | thenBranch h hbody =>
      rw [List.append_assoc, List.cons_append]
      exact .thenBranch h (by simpa using hmore hbody)
  | elseBranch h hbody hother =>
      rw [List.append_assoc, List.cons_append, List.append_assoc, List.cons_append]
      exact .elseBranch h hbody (by simpa using hmore hother)
  | loopBody h hbody =>
      rw [List.append_assoc, List.cons_append]
      exact .loopBody h (by simpa using hmore hbody)

/-- A block is opened where one more level is left. -/
lemma openBlock_eq {block : OpenBlock} {frames : List Frame} {done : List Block} :
    openBlock block frames done =
      if frames.length < maxTemplateDepth then .ok (⟨block, done⟩ :: frames)
      else .error (.depthExceeded maxTemplateDepth) := by
  rw [openBlock]
  split_ifs <;> first | rfl | omega

section Equations

variable {frames : List Frame} {before done : List Block}

@[simp]
lemma nest_nil : nest [] done [] = .ok done.reverse := rfl

@[simp]
lemma nest_text {cs : List Char} :
    nest frames done (.text cs :: rest) = nest frames (.text cs :: done) rest := rfl

@[simp]
lemma nest_elseMark {name : List Char} :
    nest (⟨.thenBranch name, before⟩ :: frames) done (.directive .elseMark :: rest) =
      nest (⟨.elseBranch name done.reverse, before⟩ :: frames) [] rest := rfl

@[simp]
lemma nest_endIf {name : List Char} :
    nest (⟨.thenBranch name, before⟩ :: frames) done (.directive .endIf :: rest) =
      nest frames (.choice name done.reverse [] :: before) rest := rfl

@[simp]
lemma nest_endIf_else {name : List Char} {thenBody : List Block} :
    nest (⟨.elseBranch name thenBody, before⟩ :: frames) done (.directive .endIf :: rest) =
      nest frames (.choice name thenBody done.reverse :: before) rest := rfl

@[simp]
lemma nest_endFor {item list : List Char} :
    nest (⟨.loopBody item list, before⟩ :: frames) done (.directive .endFor :: rest) =
      nest frames (.loop item list done.reverse :: before) rest := rfl

end Equations

/-- Nesting that succeeds has opened each block with one more level left. -/
lemma Pending.of_openBlock {block : OpenBlock} {frames : List Frame} {done : List Block}
    (h : Pending n frames done segs)
    (hnest : (openBlock block frames done >>= fun opened => nest opened [] rest) = .ok t) :
    (∃ m, n = m + 1) ∧ nest (⟨block, done⟩ :: frames) [] rest = .ok t := by
  rw [openBlock_eq] at hnest
  split_ifs at hnest with hroom
  · exact ⟨⟨n - 1, by have := h.depth; omega⟩, hnest⟩
  · simp [bind, Except.bind] at hnest

/-- One more segment closes a block, opens one or goes on with one. -/
lemma Pending.step {frames : List Frame} {done : List Block} {next : Segment}
    (h : Pending n frames done segs) (hnest : nest frames done (next :: rest) = .ok t) :
    ∃ m frames' done', Pending m frames' done' (segs ++ [next]) ∧
      nest frames' done' rest = .ok t := by
  match next with
  | .text cs => exact ⟨n, frames, _, h.append .text, hnest⟩
  | .directive (.ifSet name) =>
      obtain ⟨⟨m, rfl⟩, hrest⟩ := h.of_openBlock hnest
      exact ⟨m, _, [], h.thenBranch .nil, hrest⟩
  | .directive (.forEach item list) =>
      obtain ⟨⟨m, rfl⟩, hrest⟩ := h.of_openBlock hnest
      exact ⟨m, _, [], h.loopBody .nil, hrest⟩
  | .directive .elseMark =>
      -- Only a block that waits for it goes on: nesting fails in the others.
      cases h with
      | outermost | elseBranch | loopBody => cases hnest
      | thenBranch h hbody => exact ⟨n, _, [], by simpa using h.elseBranch hbody .nil, hnest⟩
  | .directive .endIf =>
      cases h with
      | outermost | loopBody => cases hnest
      | thenBranch h hbody =>
          exact ⟨_, _, _, by simpa using h.append (.choice · hbody), hnest⟩
      | elseBranch h hbody hother =>
          exact ⟨_, _, _, by simpa using h.append (.alternative · hbody hother), hnest⟩
  | .directive .endFor =>
      cases h with
      | outermost | thenBranch | elseBranch => cases hnest
      | loopBody h hbody => exact ⟨_, _, _, by simpa using h.append (.loop · hbody), hnest⟩

/-- The template of a text nests the segments of it. -/
lemma Pending.builds {frames : List Frame} {done : List Block} (h : Pending n frames done segs)
    (hnest : nest frames done rest = .ok t) : Builds maxTemplateDepth (segs ++ rest) t := by
  induction rest generalizing n frames done segs with
  | nil =>
      cases h with
      | outermost hbuilds =>
          obtain rfl : done.reverse = t := by simpa using hnest
          simpa using hbuilds
      | thenBranch | elseBranch | loopBody => cases hnest
  | cons next rest ih =>
      obtain ⟨m, frames', done', hpending, hrest⟩ := h.step hnest
      simpa using ih hpending hrest

section Levels

variable {frames : List Frame} {done : List Block}

lemma nest_ifSet {name : List Char} (hroom : frames.length < maxTemplateDepth) :
    nest frames done (.directive (.ifSet name) :: rest) =
      nest (⟨.thenBranch name, done⟩ :: frames) [] rest := by
  change (openBlock _ frames done >>= fun opened => nest opened [] rest) = _
  rw [openBlock_eq, if_pos hroom]
  rfl

lemma nest_forEach {item list : List Char} (hroom : frames.length < maxTemplateDepth) :
    nest frames done (.directive (.forEach item list) :: rest) =
      nest (⟨.loopBody item list, done⟩ :: frames) [] rest := by
  change (openBlock _ frames done >>= fun opened => nest opened [] rest) = _
  rw [openBlock_eq, if_pos hroom]
  rfl

/-- Inside a block there is one level less left. -/
lemma room_inside (hroom : frames.length + (n + 1) ≤ maxTemplateDepth) (frame : Frame) :
    (frame :: frames).length + n ≤ maxTemplateDepth := by
  rw [List.length_cons]
  omega

/-- Segments that nest are nested to their blocks, whatever follows. -/
lemma Builds.nest_append (h : Builds n segs t) (hroom : frames.length + n ≤ maxTemplateDepth)
    (rest : List Segment) :
    nest frames done (segs ++ rest) = nest frames (t.reverse ++ done) rest := by
  induction h generalizing frames done rest with
  | nil => rfl
  | text _ ih => simp [ih hroom]
  | choice _ _ ih ihBody =>
      simp only [List.append_assoc, List.cons_append]
      rw [ih hroom, nest_ifSet (by omega), ihBody (room_inside hroom _)]
      simp
  | alternative _ _ _ ih ihBody ihOther =>
      simp only [List.append_assoc, List.cons_append]
      rw [ih hroom, nest_ifSet (by omega), ihBody (room_inside hroom _), nest_elseMark,
        ihOther (room_inside hroom _)]
      simp
  | loop _ _ ih ihBody =>
      simp only [List.append_assoc, List.cons_append]
      rw [ih hroom, nest_forEach (by omega), ihBody (room_inside hroom _)]
      simp

end Levels

/-- Nesting succeeds with just the templates that the segments nest to. -/
lemma ofSegments_eq_ok_iff : ofSegments segs = .ok t ↔ Builds maxTemplateDepth segs t := by
  constructor
  · intro h
    exact (Pending.outermost .nil).builds h
  · intro h
    have hnest : nest [] [] (segs ++ []) = _ := h.nest_append (by simp) []
    simpa [ofSegments] using hnest

end Template

/-- **A text is rendered if and only if its directives nest at most twenty levels deep.** They
are the ones of the only cut of the text, from left to right, and the variables have no part
in it. A text that no directive is written in is left as it is. -/
theorem renderTemplate_isOk_iff_nested (text : String) :
    ∃ segs, (∀ segs', Cut text.toList segs' ↔ segs' = segs) ∧
      (∀ env, (renderTemplate env text).isOk ↔ Nested 20 (directives segs)) ∧
      ((∀ d : Directive, ∀ w, d.Written w → ¬ w <:+: text.toList) →
        ∀ env, renderTemplate env text = .ok text) := by
  refine ⟨segments text.toList, fun segs' => cut_iff, ?_, ?_⟩
  · intro env
    have hnests : Nested 20 (directives (segments text.toList)) ↔
        ∃ t, Template.ofSegments (segments text.toList) = .ok t := by
      simp only [Template.ofSegments_eq_ok_iff]
      exact ⟨fun h => Template.exists_builds h _ rfl, fun ⟨t, h⟩ => h.nested⟩
    rw [hnests, renderTemplate]
    cases Template.ofSegments (segments text.toList) <;>
      simp [Except.isOk, Except.toBool, Except.map]
  · intro hnone env
    rw [renderTemplate, ← cut_iff.mp (cut_of_no_directive hnone)]
    split_ifs with hempty
    · rw [String.toList_eq_nil_iff.mp hempty]
      rfl
    · simp [Template.ofSegments, Template.nest, Except.map, Template.render, Block.render,
        bindItems]

/-- A text with braces that are no directives. -/
theorem renderTemplate_name_in_braces :
    (∀ d : Directive, ∀ w, d.Written w → ¬ w <:+: "\x7b\x7bname\x7d\x7d \x7b".toList) ∧
      ∀ env, renderTemplate env "\x7b\x7bname\x7d\x7d \x7b" =
        .ok "\x7b\x7bname\x7d\x7d \x7b" := by
  have hnone : ∀ d : Directive, ∀ w, d.Written w →
      ¬ w <:+: "\x7b\x7bname\x7d\x7d \x7b".toList := by
    intro d w hw hinfix
    obtain ⟨c, hc, hstart⟩ := hw.starts
    have hin : ['{', '{', c] <:+: "\x7b\x7bname\x7d\x7d \x7b".toList :=
      hstart.isInfix.trans hinfix
    fin_cases hc <;> exact absurd hin (by decide)
  obtain ⟨_, -, -, hsame⟩ := renderTemplate_isOk_iff_nested "\x7b\x7bname\x7d\x7d \x7b"
  exact ⟨hnone, hsame hnone⟩

end Scaffold

import Mathlib.Data.List.TakeWhile
import Mathlib.Tactic
import Scaffold.Text.Blank
import Scaffold.Text.Ranges
import Scaffold.Text.Scan

/-!
Cutting texts.

* `takeWhile_dropWhile_iff`: a text is cut where a property of its characters ends, and
  `trimBy_eq_iff`: what is left of it when this is done at both ends;
* `splitBy_append`, `wordsBy_append`: what a text is cut into at separators is what its parts are
  cut into. `mem_wordsBy_iff`: the words of a text are what stands between separators;
* `Unread`: a reader reads nothing at any place of a text that something follows. What a text is
  searched for is then found behind it (`findAll_append`, `cutAt?_append`).
-/

namespace Scaffold.Text

/-! ### Starts -/

section Starts

variable {cs rest start : List Char}

lemma after?_eq_some_iff : after? start cs = some rest ↔ cs = start ++ rest :=
  ⟨eq_append_of_after?, fun h => h ▸ after?_append start rest⟩

lemma after?_eq_none_iff : after? start cs = none ↔ ¬ start <+: cs := by
  rw [← not_iff_not, not_not, ← ne_eq, Option.ne_none_iff_exists']
  simp only [after?_eq_some_iff]
  exact ⟨fun ⟨rest, h⟩ => ⟨rest, h.symm⟩, fun ⟨rest, h⟩ => ⟨rest, h.symm⟩⟩

end Starts

/-! ### Where a property ends -/

section Cutting

variable {cs rest : List Char} {p : Char → Bool} {front mid : List Char}

/-- A text is cut where a property of its characters ends. -/
lemma takeWhile_dropWhile_iff :
    (cs.takeWhile p = front ∧ cs.dropWhile p = rest) ↔
      cs = front ++ rest ∧ (∀ c ∈ front, p c) ∧ ∀ c ∈ rest.head?, p c = false := by
  constructor
  · rintro ⟨rfl, rfl⟩
    refine ⟨List.takeWhile_append_dropWhile.symm, fun c hc => List.mem_takeWhile_imp hc, ?_⟩
    intro c hc
    have hne : cs.dropWhile p ≠ [] := by
      rintro hnil
      simp [hnil] at hc
    have hhead := List.head_dropWhile_not p hne
    rw [List.head?_eq_some_head hne, Option.mem_some_iff] at hc
    rwa [hc] at hhead
  · rintro ⟨rfl, hfront, hrest⟩
    rw [List.takeWhile_append_of_pos hfront, List.dropWhile_append_of_pos hfront]
    cases rest with
    | nil => simp
    | cons c more => simp [hrest c rfl]

lemma dropWhile_eq_iff :
    cs.dropWhile p = rest ↔
      ∃ front, (∀ c ∈ front, p c) ∧ cs = front ++ rest ∧ ∀ c ∈ rest.head?, p c = false := by
  constructor
  · intro h
    obtain ⟨hcut, hfront, hrest⟩ := takeWhile_dropWhile_iff.mp ⟨rfl, h⟩
    exact ⟨_, hfront, hcut, hrest⟩
  · rintro ⟨front, hfront, hcut, hrest⟩
    exact (takeWhile_dropWhile_iff.mpr ⟨hcut, hfront, hrest⟩).2

lemma takeWhile_ne_eq {a : Char} (h : a ∉ front) (rest : List Char) :
    (front ++ a :: rest).takeWhile (· != a) = front ∧
      (front ++ a :: rest).dropWhile (· != a) = a :: rest :=
  takeWhile_dropWhile_iff.mpr
    ⟨rfl, fun _ hc => bne_iff_ne.mpr (ne_of_mem_of_not_mem hc h), by simp⟩

lemma dropEndWhile_eq_iff :
    dropEndWhile p cs = mid ↔
      ∃ back, (∀ c ∈ back, p c) ∧ cs = mid ++ back ∧ ∀ c ∈ mid.getLast?, p c = false := by
  rw [dropEndWhile, List.reverse_eq_iff, dropWhile_eq_iff]
  simp only [List.head?_reverse, List.reverse_eq_iff, List.reverse_append, List.reverse_reverse]
  constructor
  · rintro ⟨back, hback, hcut, hlast⟩
    exact ⟨back.reverse, by simpa using hback, hcut, hlast⟩
  · rintro ⟨back, hback, hcut, hlast⟩
    exact ⟨back.reverse, by simpa using hback, by simpa using hcut, hlast⟩

/-- **Trimming cuts off at both ends**, as far as a property of the characters holds. -/
lemma trimBy_eq_iff :
    trimBy p cs = mid ↔
      (∃ front back, (∀ c ∈ front, p c) ∧ (∀ c ∈ back, p c) ∧ cs = front ++ (mid ++ back)) ∧
        (∀ c ∈ mid.head?, p c = false) ∧ ∀ c ∈ mid.getLast?, p c = false := by
  rw [trimBy, dropEndWhile_eq_iff]
  constructor
  · rintro ⟨back, hback, hcut, hlast⟩
    obtain ⟨front, hfront, hall, hhead⟩ := dropWhile_eq_iff.mp hcut
    refine ⟨⟨front, back, hfront, hback, hall⟩, fun c hc => hhead c ?_, hlast⟩
    obtain ⟨more, rfl⟩ := List.head?_eq_some_iff.mp hc
    rfl
  · rintro ⟨⟨front, back, hfront, hback, rfl⟩, hhead, hlast⟩
    cases mid with
    | nil =>
        have hall : (front ++ ([] ++ back)).dropWhile p = [] :=
          List.dropWhile_eq_nil_iff.mpr fun c hc =>
            (List.mem_append.mp hc).elim (hfront c) (hback c)
        exact ⟨[], by simp, hall, by simp⟩
    | cons c mid =>
        have hstart : ∀ d ∈ (c :: mid ++ back).head?, p d = false := hhead
        exact ⟨back, hback, dropWhile_eq_iff.mpr ⟨front, hfront, rfl, hstart⟩, hlast⟩

/-- A digit is no blank. -/
lemma isBlank_of_isDigit {c : Char} (h : c.isDigit = true) : isBlank c = false := by
  have hbounds : 48 ≤ c.toNat ∧ c.toNat ≤ 57 := by
    simpa [Char.isDigit, UInt32.le_iff_toNat_le] using h
  simp only [isBlank, Bool.or_eq_false_iff, Bool.and_eq_false_iff, decide_eq_false_iff_not,
    beq_eq_false_iff_ne]
  omega

end Cutting

/-! ### Pieces -/

section Pieces

variable {p : Char → Bool} {sep : Char} {cs front back : List Char}

/-- A text is cut at a separator between two texts. -/
lemma splitBy_append (hsep : p sep) (front back : List Char) :
    splitBy p (front ++ sep :: back) = splitBy p front ++ splitBy p back := by
  induction front with
  | nil => simp [splitBy, hsep]
  | cons c rest ih =>
      simp only [List.cons_append, splitBy]
      by_cases hc : p c
      · simp [hc, ih]
      · simp only [hc, Bool.false_eq_true, ↓reduceIte, ih]
        cases hr : splitBy p rest with
        | nil => exact absurd hr (splitBy_ne_nil p rest)
        | cons piece pieces => simp

/-- A text without separators is one piece. -/
lemma splitBy_of_forall (h : ∀ c ∈ cs, ¬ p c) : splitBy p cs = [cs] := by
  induction cs with
  | nil => rfl
  | cons c rest ih =>
      have hc := h c (by simp)
      have hr := ih fun x hx => h x (by simp [hx])
      simp [splitBy, hc, hr]

/-- No piece of a split text holds a separator. -/
lemma not_mem_of_mem_splitBy {piece : List Char} (h : piece ∈ splitBy p cs) :
    ∀ c ∈ piece, ¬ p c := by
  induction cs generalizing piece with
  | nil =>
      simp only [splitBy, List.mem_singleton] at h
      simp [h]
  | cons c rest ih =>
      simp only [splitBy] at h
      by_cases hc : p c
      · simp only [hc, ↓reduceIte, List.mem_cons] at h
        rcases h with rfl | h
        · simp
        · exact ih h
      · simp only [hc, Bool.false_eq_true, ↓reduceIte] at h
        cases hr : splitBy p rest with
        | nil => exact absurd hr (splitBy_ne_nil p rest)
        | cons first pieces =>
            rw [hr] at h
            simp only [List.mem_cons] at h
            rcases h with rfl | h
            · intro x hx
              rcases List.mem_cons.mp hx with rfl | hx
              · exact hc
              · exact ih (by simp [hr]) x hx
            · exact ih (by simp [hr, h])

lemma splitOnce_append (h : sep ∉ front) :
    splitOnce sep (front ++ sep :: back) = some (front, back) := by
  obtain ⟨htake, hdrop⟩ := takeWhile_ne_eq h back
  rw [splitOnce, hdrop, htake]

lemma splitOnce_eq_none (h : sep ∉ front) : splitOnce sep front = none := by
  have hdrop : front.dropWhile (· != sep) = [] :=
    List.dropWhile_eq_nil_iff.mpr fun c hc => bne_iff_ne.mpr (ne_of_mem_of_not_mem hc h)
  rw [splitOnce, hdrop]

lemma splitOnce_length {rest : List Char} (h : splitOnce sep cs = some (front, rest)) :
    rest.length < cs.length := by
  have hle : (cs.dropWhile (· != sep)).length ≤ cs.length := (List.dropWhile_sublist _).length_le
  unfold splitOnce at h
  split at h
  · simp at h
  · rename_i c tail hdrop
    obtain ⟨-, rfl⟩ := Prod.mk.inj (Option.some.inj h)
    rw [hdrop, List.length_cons] at hle
    omega

end Pieces

/-! ### Words -/

section Words

variable {p : Char → Bool} {sep : Char} {cs front back word gap : List Char}

/-- The words of a text are its pieces, without the empty ones. -/
lemma wordsBy_eq (p : Char → Bool) (cs : List Char) :
    wordsBy p cs = (splitBy p cs).filter (!·.isEmpty) := by
  -- Backwards through the text, the first piece is still growing.
  have hstep : ∃ piece pieces, splitBy p cs = piece :: pieces ∧
      cs.foldr (fun (c : Char) (acc : List Char × List (List Char)) =>
        if p c then ([], if acc.1.isEmpty then acc.2 else acc.1 :: acc.2)
        else (c :: acc.1, acc.2)) ([], []) = (piece, pieces.filter (!·.isEmpty)) := by
    induction cs with
    | nil => exact ⟨[], [], rfl, rfl⟩
    | cons c rest ih =>
        obtain ⟨piece, pieces, hsplit, hfold⟩ := ih
        by_cases hc : p c
        · refine ⟨[], piece :: pieces, by simp [splitBy, hc, hsplit], ?_⟩
          rw [List.foldr_cons, hfold, if_pos hc, List.filter_cons]
          cases piece <;> simp
        · exact ⟨c :: piece, pieces, by simp [splitBy, hc, hsplit], by
            rw [List.foldr_cons, hfold, if_neg hc]⟩
  obtain ⟨piece, pieces, hsplit, hfold⟩ := hstep
  rw [wordsBy, hfold, hsplit, List.filter_cons]
  cases piece <;> simp

lemma wordsBy_append_cons (hsep : p sep) (front back : List Char) :
    wordsBy p (front ++ sep :: back) = wordsBy p front ++ wordsBy p back := by
  simp only [wordsBy_eq, splitBy_append hsep, List.filter_append]

/-- A gap between words adds none. -/
lemma wordsBy_gap (h : ∀ c ∈ gap, p c) (cs : List Char) : wordsBy p (gap ++ cs) = wordsBy p cs := by
  induction gap with
  | nil => rfl
  | cons c gap ih =>
      have happend := wordsBy_append_cons (h c List.mem_cons_self) [] (gap ++ cs)
      rw [List.nil_append] at happend
      rw [List.cons_append, happend, ih fun d hd => h d (List.mem_cons_of_mem c hd)]
      rfl

/-- A text without separators is one word. -/
lemma wordsBy_of_forall (h : ∀ c ∈ word, ¬ p c) (hne : word ≠ []) : wordsBy p word = [word] := by
  rw [wordsBy_eq, splitBy_of_forall h, List.filter_cons_of_pos (by simpa using hne)]
  rfl

/-- The words of a text are those of its parts if the second part starts with a gap. -/
lemma wordsBy_append (h : ∀ c ∈ back.head?, p c) (front : List Char) :
    wordsBy p (front ++ back) = wordsBy p front ++ wordsBy p back := by
  cases back with
  | nil => simp [wordsBy]
  | cons sep back =>
      have hsep : p sep := h sep rfl
      have hgap : wordsBy p ([sep] ++ back) = wordsBy p back :=
        wordsBy_gap (by simpa using hsep) back
      rw [wordsBy_append_cons hsep, ← hgap, List.singleton_append]

/-- A piece of a text stands between two separators, or at an end. -/
lemma exists_of_mem_splitBy (h : word ∈ splitBy p cs) : ∃ front back,
    cs = front ++ (word ++ back) ∧ (∀ c ∈ front.getLast?, p c) ∧ ∀ c ∈ back.head?, p c := by
  induction hlength : cs.length using Nat.strong_induction_on generalizing cs with
  | _ n ih =>
      obtain ⟨hcut, hfirst, hsep⟩ := takeWhile_dropWhile_iff.mp
        ⟨(rfl : cs.takeWhile (!p ·) = _), (rfl : cs.dropWhile (!p ·) = _)⟩
      have hfirst : ∀ c ∈ cs.takeWhile (!p ·), ¬ p c := by simpa using hfirst
      cases hrest : cs.dropWhile (!p ·) with
      | nil =>
          rw [hrest, List.append_nil] at hcut
          rw [hcut, splitBy_of_forall hfirst, List.mem_singleton] at h
          exact ⟨[], [], by rw [h, ← hcut]; simp, by simp, by simp⟩
      | cons sep rest =>
          rw [hrest] at hcut hsep
          have hsep : p sep := by simpa using hsep sep rfl
          rw [hcut, splitBy_append hsep, splitBy_of_forall hfirst, List.singleton_append,
            List.mem_cons] at h
          rcases h with rfl | h
          · exact ⟨[], sep :: rest, hcut, by simp, by simpa using hsep⟩
          · have hlt : rest.length < n := by
              rw [← hlength, hcut, List.length_append, List.length_cons]
              omega
            obtain ⟨front, back, rfl, hfront, hback⟩ := ih _ hlt h rfl
            refine ⟨cs.takeWhile (!p ·) ++ sep :: front, back, by simpa using hcut, ?_, hback⟩
            rw [List.getLast?_append_cons, List.getLast?_cons]
            cases hlast : front.getLast? with
            | none => simpa using hsep
            | some c => simpa using hfront c hlast

/-- **A word of a text** stands between two separators, or at an end. -/
lemma mem_wordsBy_iff :
    word ∈ wordsBy p cs ↔ word ≠ [] ∧ (∀ c ∈ word, ¬ p c) ∧ ∃ front back,
      cs = front ++ (word ++ back) ∧ (∀ c ∈ front.getLast?, p c) ∧ ∀ c ∈ back.head?, p c := by
  constructor
  · intro h
    rw [wordsBy_eq, List.mem_filter] at h
    exact ⟨by simpa using h.2, not_mem_of_mem_splitBy h.1, exists_of_mem_splitBy h.1⟩
  · rintro ⟨hne, hword, front, back, rfl, hfront, hback⟩
    have hmem : word ∈ wordsBy p (word ++ back) := by
      rw [wordsBy_append hback, wordsBy_of_forall hword hne]
      exact List.mem_append_left _ List.mem_cons_self
    cases front using List.reverseRecOn with
    | nil => exact hmem
    | append_singleton front sep =>
        have hsep : p sep := hfront sep (by simp)
        rw [List.append_assoc, List.singleton_append, wordsBy_append_cons hsep]
        exact List.mem_append_right _ hmem

/-- What does not hold a character stands in front of it or behind it. -/
lemma append_cons_cases {a b : List Char} (h : a ++ sep :: b = front ++ (word ++ back))
    (hsep : sep ∉ word) :
    (∃ mid, a = front ++ (word ++ mid) ∧ back = mid ++ sep :: b) ∨
      ∃ mid, front = a ++ sep :: mid ∧ b = mid ++ (word ++ back) := by
  rcases List.append_eq_append_iff.mp h with ⟨cut, hfront, hb⟩ | ⟨cut, ha, hback⟩
  · cases cut with
    | nil =>
        rw [List.append_nil] at hfront
        cases word with
        | nil => exact .inl ⟨[], by simp [hfront], by simpa using hb.symm⟩
        | cons c word =>
            obtain ⟨rfl, -⟩ := List.cons_eq_cons.mp hb
            exact absurd List.mem_cons_self hsep
    | cons c cut =>
        obtain ⟨rfl, hrest⟩ := List.cons_eq_cons.mp hb
        exact .inr ⟨cut, hfront, hrest⟩
  · rcases List.append_eq_append_iff.mp hback with ⟨mid, hcut, hmid⟩ | ⟨mid, hword, hmid⟩
    · exact .inl ⟨mid, by rw [ha, hcut], hmid⟩
    · cases mid with
      | nil => exact .inl ⟨[], by rw [ha, hword]; simp, by simpa using hmid.symm⟩
      | cons c mid =>
          obtain ⟨rfl, -⟩ := List.cons_eq_cons.mp hmid
          exact absurd (by rw [hword]; simp) hsep

end Words

/-! ### Finding -/

/-- A reader that reads something takes at least one character. -/
def Advances {α : Type} (read : List Char → Option (α × List Char)) : Prop :=
  ∀ ⦃cs found rest⦄, read cs = some (found, rest) → rest.length < cs.length

/-- At no place of a text that something follows is anything read. -/
def Unread {α : Type} (read : List Char → Option α) : List Char → List Char → Prop
  | [], _ => True
  | c :: cs, rest => read (c :: (cs ++ rest)) = none ∧ Unread read cs rest

section Finding

variable {α : Type} {text text' rest : List Char}

lemma unread_append {read : List Char → Option α} :
    Unread read (text ++ text') rest ↔
      Unread read text (text' ++ rest) ∧ Unread read text' rest := by
  induction text with
  | nil => simp [Unread]
  | cons c text ih => simp only [List.cons_append, Unread, ih, List.append_assoc, and_assoc]

/-- What starts with one of some characters is not read where there are none. -/
lemma unread_of_forall {read : List Char → Option α}
    (h : ∀ c ∈ text, ∀ cs, read (c :: cs) = none) : Unread read text rest := by
  induction text with
  | nil => trivial
  | cons c text ih =>
      exact ⟨h c List.mem_cons_self _, ih fun d hd => h d (List.mem_cons_of_mem c hd)⟩

section Reader

variable {read : List Char → Option (α × List Char)} {cs : List Char} {found : α}

lemma findWithin_succ (hread : Advances read) {bound : ℕ} (h : cs.length ≤ bound) :
    findWithin read (bound + 1) cs = findWithin read bound cs := by
  induction bound generalizing cs with
  | zero =>
      obtain rfl : cs = [] := List.length_eq_zero_iff.mp (Nat.le_zero.mp h)
      rfl
  | succ bound ih =>
      cases cs with
      | nil => rfl
      | cons c cs =>
          rw [List.length_cons] at h
          rw [findWithin, findWithin]
          cases hfound : read (c :: cs) with
          | none => exact ih (by omega)
          | some part =>
              have hlt := hread hfound
              rw [List.length_cons] at hlt
              exact congrArg _ (ih (by omega))

lemma findWithin_eq_findAll (hread : Advances read) {bound : ℕ} (h : cs.length ≤ bound) :
    findWithin read bound cs = findAll read cs := by
  induction bound, h using Nat.le_induction with
  | base => rfl
  | succ bound h ih => rw [findWithin_succ hread h, ih]

lemma findAll_of_some (hread : Advances read) (h : read cs = some (found, rest)) :
    findAll read cs = found :: findAll read rest := by
  have hlt := hread h
  cases cs with
  | nil => simp at hlt
  | cons c cs =>
      rw [List.length_cons] at hlt
      rw [findAll, List.length_cons, findWithin, h]
      exact congrArg _ (findWithin_eq_findAll hread (by omega))

/-- Nothing is found before what is read first. -/
lemma findAll_append (h : Unread read text rest) :
    findAll read (text ++ rest) = findAll read rest := by
  induction text with
  | nil => rfl
  | cons c text ih =>
      obtain ⟨hnone, h⟩ := h
      rw [List.cons_append, findAll, List.length_cons, findWithin, hnone]
      exact ih h

/-- Nothing is found in a text that is read nowhere. -/
lemma findAll_eq_nil (h : Unread read text []) : findAll read text = [] := by
  have hnone := findAll_append h
  rwa [List.append_nil] at hnone

end Reader

/-- A text is cut at the first occurrence of a part. -/
lemma cutAt?_append {part : List Char} (hne : part ≠ [])
    (h : Unread (after? part) text (part ++ rest)) :
    cutAt? part (text ++ (part ++ rest)) = some (text, rest) := by
  induction text with
  | nil =>
      obtain ⟨c, part, rfl⟩ := List.exists_cons_of_ne_nil hne
      rw [List.nil_append, List.cons_append, cutAt?, ← List.cons_append, after?_append]
  | cons c text ih =>
      obtain ⟨hnone, h⟩ := h
      rw [List.cons_append, cutAt?, hnone, ih h]
      rfl

end Finding

end Scaffold.Text

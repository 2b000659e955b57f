import Mathlib.Tactic
import Scaffold.Proofs.TextRuns
import Scaffold.Proofs.WrittenPatterns

/-!
What the screen for slow patterns refuses.

The screen reads a pattern once, from left to right, and knows of it only the groups that are
open. Its answer is compared with the tree of the pattern.

* `scan` is the screen without its fuel: `readOne` is one step of it, and a step takes at least
  one character (`readOne_length_le`). Each kind of character has a lemma of its own (`Refused`);
* `Quantifier.text_cases`: counts in braces are read as they are meant;
* `Screened`: reading a part of a pattern finds the hazards of its pieces, marks what they show in
  the innermost open group, and goes on. `Choice.screened`: so does every tree, by induction on
  the tree;
* `checkSafety_eq_error_iff`: **a pattern is refused exactly when it is too long or has a
  hazard**.
-/

namespace Scaffold.Pattern

open Text

/-! ### The screen without fuel -/

/-- One step of the screen: a hazard, or the open groups, whether a repeated group was closed,
and what is left of the pattern. -/
def readOne (groups : List GroupContent) (repeated : Bool) (c : Char) (rest : List Char) :
    Except Hazard (List GroupContent × Bool × List Char) :=
  if c == '\\' then
    match rest with
    | [] => .ok (groups, repeated, [])
    | d :: rest =>
      if d.isDigit && d != '0' && repeated then .error .backreference
      else .ok (groups, repeated, rest)
  else if c == '[' then .ok (groups, repeated, skipClass rest)
  else if c == '(' then
    .ok (⟨false, false⟩ :: groups, repeated, match rest with
      | '?' :: tail => skipGroupPrefix tail
      | _ => rest)
  else if c == ')' then
    let group := groups.headD ⟨false, false⟩
    let many := (readGroupQuantifier rest).1
    if many && group.quantifier then .error .nestedQuantifiers
    else if many && group.alternation then .error .quantifiedAlternation
    else .ok (onTop (fun g =>
        ⟨g.quantifier || group.quantifier || many, g.alternation || group.alternation⟩) groups.tail,
      repeated || many, (readGroupQuantifier rest).2)
  else if c == '|' then .ok (onTop (fun g => { g with alternation := true }) groups, repeated, rest)
  else if c == '*' || c == '+' then .ok (markQuantifier groups, repeated, rest)
  else if c == '{' then
    .ok (if countsAreMany (readBraces rest).1 then markQuantifier groups else groups, repeated,
      (readBraces rest).2)
  else .ok (groups, repeated, rest)

lemma hazardFrom_succ (groups : List GroupContent) (repeated : Bool) (fuel : ℕ) (c : Char)
    (rest : List Char) : hazardFrom groups repeated (fuel + 1) (c :: rest) =
      match readOne groups repeated c rest with
      | .error hazard => some hazard
      | .ok (groups, repeated, rest) => hazardFrom groups repeated fuel rest := by
  rw [hazardFrom.eq_def, readOne.eq_def]
  dsimp only
  by_cases hescape : (c == '\\') = true
  · rw [if_pos hescape, if_pos hescape]
    cases rest with
    | nil => cases fuel <;> rfl
    | cons d rest =>
        dsimp only
        split_ifs <;> rfl
  rw [if_neg hescape, if_neg hescape]
  by_cases hclass : (c == '[') = true
  · rw [if_pos hclass, if_pos hclass]
  rw [if_neg hclass, if_neg hclass]
  by_cases hopen : (c == '(') = true
  · rewrite [if_pos hopen, if_pos hopen]
    rfl
  rw [if_neg hopen, if_neg hopen]
  by_cases hclose : (c == ')') = true
  · rw [if_pos hclose, if_pos hclose]
    cases groups <;> dsimp only [List.headD, List.tail] <;> split_ifs <;> simp_all only [
      Bool.false_eq_true, ↓reduceIte]
  rw [if_neg hclose, if_neg hclose]
  split_ifs <;> rfl

/-- The screen of what is left of a pattern. -/
def scan (groups : List GroupContent) (repeated : Bool) (cs : List Char) : Option Hazard :=
  hazardFrom groups repeated cs.length cs

lemma skipClassBody_length_le (cs : List Char) : (skipClassBody cs).length ≤ cs.length := by
  fun_induction skipClassBody cs <;> simp_all <;> omega

lemma skipClass_length_le (cs : List Char) : (skipClass cs).length ≤ cs.length := by
  have hbody := skipClassBody_length_le
  unfold skipClass
  split
  · rename_i rest
    dsimp only
    split
    · exact (hbody _).trans (Nat.le_add_right _ 2)
    · exact (hbody rest).trans (Nat.le_succ _)
  · dsimp only
    split
    · exact (hbody _).trans (Nat.le_succ _)
    · exact hbody cs

lemma skipPast_length_le (mark : Char) (cs : List Char) :
    (skipPast mark cs).length ≤ cs.length := by
  have hdrop := (List.dropWhile_suffix (p := (· != mark)) (l := cs)).length_le
  rw [skipPast, List.length_tail]
  omega

lemma skipModes_length_le (cs : List Char) : (skipModes cs).length ≤ cs.length := by
  fun_induction skipModes cs <;> simp_all
  omega

lemma skipGroupPrefix_length_le (cs : List Char) : (skipGroupPrefix cs).length ≤ cs.length := by
  have hpast := skipPast_length_le
  have hmodes := skipModes_length_le
  unfold skipGroupPrefix
  split
  · simp
  · split_ifs
    · simp
    · exact (hpast _ _).trans (Nat.le_succ _)
    · split
      · simp; omega
      · simp; omega
      · exact (hpast _ _).trans (Nat.le_succ _)
    · exact (hmodes _).trans (Nat.le_succ _)

lemma readGroupQuantifier_length_le (cs : List Char) :
    (readGroupQuantifier cs).2.length ≤ cs.length := by
  unfold readGroupQuantifier
  split
  · simp
  · simp
  · exact (skipPast_length_le _ _).trans (Nat.le_succ _)
  · exact le_rfl

/-- A step takes at least one character. -/
lemma readOne_length_le {groups groups' : List GroupContent} {repeated repeated' : Bool}
    {c : Char} {rest rest' : List Char}
    (h : readOne groups repeated c rest = .ok (groups', repeated', rest')) :
    rest'.length ≤ rest.length := by
  rw [readOne.eq_def] at h
  dsimp only at h
  split_ifs at h with hescape hclass hopen hclose
  · split at h
    · cases h
      exact le_rfl
    · split_ifs at h
      cases h
      exact Nat.le_succ _
  · cases h
    exact skipClass_length_le rest
  · cases h
    split
    · exact (skipGroupPrefix_length_le _).trans (Nat.le_succ _)
    · exact le_rfl
  · cases h
    exact readGroupQuantifier_length_le rest
  · cases h
    exact le_rfl
  · cases h
    exact le_rfl
  · cases h
    exact skipPast_length_le _ rest
  · cases h
    exact skipPast_length_le _ rest
  · cases h
    exact le_rfl

/-- More fuel than characters changes nothing. -/
lemma hazardFrom_eq_scan {groups : List GroupContent} {repeated : Bool} {fuel : ℕ}
    {cs : List Char} (h : cs.length ≤ fuel) :
    hazardFrom groups repeated fuel cs = scan groups repeated cs := by
  have hsame : ∀ (m n : ℕ) (groups : List GroupContent) (repeated : Bool) (cs : List Char),
      cs.length ≤ m → cs.length ≤ n →
        hazardFrom groups repeated m cs = hazardFrom groups repeated n cs := by
    intro m
    induction m with
    | zero =>
        intro n groups repeated cs hm hn
        obtain rfl := List.length_eq_zero_iff.mp (Nat.le_zero.mp hm)
        cases n <;> rfl
    | succ m ih =>
        intro n groups repeated cs hm hn
        cases cs with
        | nil => cases n <;> rfl
        | cons c rest =>
            obtain ⟨n, rfl⟩ : ∃ k, n = k + 1 := ⟨n - 1, by simp at hn; omega⟩
            rw [hazardFrom_succ, hazardFrom_succ]
            cases hstep : readOne groups repeated c rest with
            | error hazard => rfl
            | ok next =>
                obtain ⟨groups', repeated', rest'⟩ := next
                have hle := readOne_length_le hstep
                simp only [List.length_cons] at hm hn
                exact ih n groups' repeated' rest' (by omega) (by omega)
  exact hsame fuel cs.length groups repeated cs h le_rfl

lemma scan_cons (groups : List GroupContent) (repeated : Bool) (c : Char) (rest : List Char) :
    scan groups repeated (c :: rest) =
      match readOne groups repeated c rest with
      | .error hazard => some hazard
      | .ok (groups, repeated, rest) => scan groups repeated rest := by
  rw [scan, List.length_cons, hazardFrom_succ]
  cases hstep : readOne groups repeated c rest with
  | error hazard => rfl
  | ok next => exact hazardFrom_eq_scan (readOne_length_le hstep)

/-- Whether the screen refuses what is left of a pattern. -/
def Refused (groups : List GroupContent) (repeated : Bool) (cs : List Char) : Prop :=
  (scan groups repeated cs).isSome = true

section Steps

variable {groups : List GroupContent} {repeated : Bool} {rest : List Char}

lemma not_refused_nil : ¬ Refused groups repeated [] := by
  simp [Refused, scan, hazardFrom]

lemma refused_escape {c : Char} : Refused groups repeated ('\\' :: c :: rest) ↔
    (repeated = true ∧ (c.isDigit && c != '0') = true) ∨ Refused groups repeated rest := by
  simp only [Refused, scan_cons, readOne, beq_self_eq_true, ↓reduceIte]
  cases hback : (c.isDigit && c != '0') <;> cases repeated <;> simp

lemma refused_class : Refused groups repeated ('[' :: rest) ↔
    Refused groups repeated (skipClass rest) := by
  simp [Refused, scan_cons, readOne]

lemma refused_bar : Refused groups repeated ('|' :: rest) ↔
    Refused (onTop (fun g => { g with alternation := true }) groups) repeated rest := by
  simp [Refused, scan_cons, readOne]

lemma refused_mark {c : Char} (h : c = '*' ∨ c = '+') : Refused groups repeated (c :: rest) ↔
    Refused (markQuantifier groups) repeated rest := by
  rcases h with rfl | rfl <;> simp [Refused, scan_cons, readOne]

lemma refused_braces : Refused groups repeated ('{' :: rest) ↔
    Refused (if countsAreMany (readBraces rest).1 then markQuantifier groups else groups) repeated
      (readBraces rest).2 := by
  simp [Refused, scan_cons, readOne]

/-- A character that means nothing to the screen. -/
lemma refused_plain {c : Char} (h : c ∉ ['\\', '[', '(', ')', '|', '*', '+', '{']) :
    Refused groups repeated (c :: rest) ↔ Refused groups repeated rest := by
  simp only [List.mem_cons, List.not_mem_nil, or_false, not_or] at h
  simp [Refused, scan_cons, readOne, h]

/-- A group that captures: its text starts with no question mark. -/
lemma refused_open (h : rest.head? ≠ some '?') : Refused groups repeated ('(' :: rest) ↔
    Refused (⟨false, false⟩ :: groups) repeated rest := by
  have hrest : ∀ tail : List Char, tail.head? ≠ some '?' →
      (match tail with | '?' :: more => skipGroupPrefix more | _ => tail) = tail := by
    intro tail htail
    split
    · exact absurd rfl htail
    · rfl
  simp [Refused, scan_cons, readOne, hrest rest h]

lemma refused_open_bare : Refused groups repeated ('(' :: '?' :: ':' :: rest) ↔
    Refused (⟨false, false⟩ :: groups) repeated rest := by
  simp [Refused, scan_cons, readOne, skipGroupPrefix]

lemma refused_close {g : GroupContent} : Refused (g :: groups) repeated (')' :: rest) ↔
    ((readGroupQuantifier rest).1 = true ∧ (g.quantifier || g.alternation) = true) ∨
      Refused (onTop (fun outer =>
          ⟨outer.quantifier || g.quantifier || (readGroupQuantifier rest).1,
            outer.alternation || g.alternation⟩) groups)
        (repeated || (readGroupQuantifier rest).1) (readGroupQuantifier rest).2 := by
  obtain ⟨quantifier, alternation⟩ := g
  simp only [Refused, scan_cons, readOne]
  cases (readGroupQuantifier rest).1 <;> cases quantifier <;> cases alternation <;> simp

/-- Question marks after a quantifier mean nothing to the screen. -/
lemma refused_marks {marks : List Char} (h : ∀ c ∈ marks, c = '?') :
    Refused groups repeated (marks ++ rest) ↔ Refused groups repeated rest := by
  induction marks with
  | nil => rfl
  | cons c marks ih =>
      have hmarks : ∀ c ∈ marks, c = '?' := fun c hc => h c (List.mem_cons_of_mem _ hc)
      obtain rfl := h c (by simp)
      rw [List.cons_append, refused_plain (by decide), ih hmarks]

end Steps

/-! ### Counts -/

lemma readBraces_append {front : List Char} (h : '}' ∉ front) (back : List Char) :
    readBraces (front ++ '}' :: back) = (front, back) := by
  obtain ⟨htake, hdrop⟩ := takeWhile_ne_eq h back
  rw [readBraces, skipPast, hdrop, htake, List.tail_cons]

lemma isDigit_of_mem_digits {c : Char} {n : ℕ} (h : c ∈ digits n) : c.isDigit = true :=
  Nat.isDigit_of_mem_toDigits (by decide) (by decide) h

lemma digits_ne_nil (n : ℕ) : digits n ≠ [] :=
  Nat.toDigits_ne_nil

lemma not_mem_digits {c : Char} (h : c.isDigit = false) (n : ℕ) : c ∉ digits n := by
  intro hc
  rw [isDigit_of_mem_digits hc] at h
  cases h

/-- The digits of a number of four bytes are read as that number. -/
lemma smallNumber?_digits {n : ℕ} (h : n < 0x100000000) :
    smallNumber? (trim (digits n)) = some n := by
  have htrim : trim (digits n) = digits n :=
    trim_eq_self (fun c hc => isBlank_of_isDigit (isDigit_of_mem_digits (List.mem_of_head? hc)))
      fun c hc => isBlank_of_isDigit (isDigit_of_mem_digits (List.mem_of_getLast? hc))
  have hnumber : number? (digits n) = some n := by
    have hall : (digits n).all Char.isDigit = true :=
      List.all_eq_true.mpr fun c hc => isDigit_of_mem_digits hc
    have hvalue : decimalValue (digits n) = n := Nat.ofDigitChars_toDigits (by decide) (by decide)
    rw [number?, if_pos (by simp [isDigits, digits_ne_nil, hall]), hvalue]
  have hunsigned : unsigned? (digits n) = number? (digits n) := by
    unfold unsigned?
    split
    · rename_i rest heq
      exact absurd (heq ▸ List.mem_cons_self : '+' ∈ digits n) (not_mem_digits (by decide) n)
    · rfl
  rw [smallNumber?, htrim, hunsigned, hnumber, Option.filter_some_pos (by simpa using h)]

namespace Written

/-- **The text of a quantifier**: a mark, or counts in braces that the screen reads as they are
meant, and perhaps a question mark behind them. -/
lemma Quantifier.text_cases (q : Quantifier) : ∃ marks, (∀ c ∈ marks, c = '?') ∧
    ((q.repetition.isMany = true ∧ (q.text = '*' :: marks ∨ q.text = '+' :: marks)) ∨
      (q.repetition.isMany = false ∧ q.text = '?' :: marks) ∨
      ∃ counts, '}' ∉ counts ∧ countsAreMany counts = q.repetition.isMany ∧
        q.text = '{' :: (counts ++ '}' :: marks)) := by
  have hcomma := not_mem_digits (c := ',') (by decide)
  have hbrace := not_mem_digits (c := '}') (by decide)
  obtain ⟨repetition, isLazy⟩ := q
  refine ⟨if isLazy then ['?'] else [], by cases isLazy <;> simp, ?_⟩
  cases repetition with
  | star => exact Or.inl ⟨rfl, Or.inl rfl⟩
  | plus => exact Or.inl ⟨rfl, Or.inr rfl⟩
  | optional => exact Or.inr (Or.inl ⟨rfl, rfl⟩)
  | exactly n =>
      refine Or.inr (Or.inr ⟨digits n.toNat, hbrace _, ?_, by simp [text, Repetition.text]⟩)
      simp [countsAreMany, splitOnce_eq_none (hcomma _), smallNumber?_digits n.toNat_lt,
        Repetition.isMany]
  | atLeast n =>
      refine Or.inr (Or.inr ⟨digits n.toNat ++ [','], by simp [hbrace], ?_,
        by simp [text, Repetition.text]⟩)
      simp [countsAreMany, splitOnce_append (hcomma _), Repetition.isMany]
  | between low high =>
      refine Or.inr (Or.inr ⟨digits low.toNat ++ ',' :: digits high.toNat, by simp [hbrace], ?_,
        by simp [text, Repetition.text]⟩)
      have hsplit : splitOnce ',' (digits low.toNat ++ ',' :: digits high.toNat) = _ :=
        splitOnce_append (hcomma low.toNat)
      have hread := smallNumber?_digits high.toNat_lt
      unfold countsAreMany
      rw [hsplit]
      split
      · rename_i heq
        simp [digits_ne_nil] at heq
      · rename_i heq
        simp only [Option.some.injEq, Prod.mk.injEq] at heq
        rw [← heq.2, hread]
        rfl
      · rename_i heq
        cases heq

/-! ### Reading a part of a pattern -/

/-- What two parts of a group show together. -/
def shownWith (g h : GroupContent) : GroupContent :=
  ⟨g.quantifier || h.quantifier, g.alternation || h.alternation⟩

/-- The open groups after the innermost one showed more. -/
def mark (shown : GroupContent) (groups : List GroupContent) : List GroupContent :=
  onTop (fun g => shownWith g shown) groups

lemma mark_cons (shown g : GroupContent) (groups : List GroupContent) :
    mark shown (g :: groups) = shownWith g shown :: groups :=
  rfl

lemma mark_mark (g h : GroupContent) (groups : List GroupContent) :
    mark h (mark g groups) = mark (shownWith g h) groups := by
  cases groups <;> simp [mark, onTop, shownWith, Bool.or_assoc]

@[simp]
lemma mark_nothing (groups : List GroupContent) : mark ⟨false, false⟩ groups = groups := by
  cases groups <;> simp [mark, onTop, shownWith]

lemma markQuantifier_eq (groups : List GroupContent) :
    markQuantifier groups = mark ⟨true, false⟩ groups := by
  cases groups <;> simp [markQuantifier, mark, onTop, shownWith]

lemma markAlternation_eq (groups : List GroupContent) :
    onTop (fun g => { g with alternation := true }) groups = mark ⟨false, true⟩ groups := by
  cases groups <;> simp [mark, onTop, shownWith]

/-- A text that does not start like a quantifier. -/
def Unquantified (rest : List Char) : Prop :=
  ∀ c ∈ rest.head?, c ∉ ['*', '+', '?', '{']

/-- Reading a part of a pattern finds the hazards of its pieces, marks what they show in the
innermost open group, and goes on. -/
def Screened (text : List Char) (ps : List Piece) (alternates : Bool) : Prop :=
  ∀ groups repeated rest, Unquantified rest → (Refused groups repeated (text ++ rest) ↔
    Hazardous repeated ps ∨ Refused (mark ⟨ps.any Piece.isMany, alternates⟩ groups)
      (repeated || ps.any Piece.isManyGroup) rest)

lemma screened_nil : Screened [] [] false := by
  intro groups repeated rest _
  simp [Hazardous]

lemma Screened.append {front back : List Char} {ps qs : List Piece} {a b : Bool}
    (hfront : Screened front ps a) (hback : Screened back qs b)
    (hnext : ∀ rest, Unquantified rest → Unquantified (back ++ rest)) :
    Screened (front ++ back) (ps ++ qs) (a || b) := by
  intro groups repeated rest hrest
  rw [List.append_assoc, hfront _ _ _ (hnext rest hrest), hback _ _ _ hrest, hazardous_append,
    mark_mark, or_assoc]
  simp [shownWith, Bool.or_assoc]

/-! ### Quantifiers -/

/-- Whether a quantifier lets its atom occur more than once. -/
def isManyBy (q : Option Quantifier) : Bool :=
  q.any fun q => q.repetition.isMany

section Quantified

variable {groups : List GroupContent} {repeated : Bool} {rest : List Char}

/-- A quantifier behind an atom that is no group. -/
lemma refused_quantifier (q : Option Quantifier) :
    Refused groups repeated (quantifierText q ++ rest) ↔
      Refused (mark ⟨isManyBy q, false⟩ groups) repeated rest := by
  cases q with
  | none => simp [quantifierText, isManyBy]
  | some q =>
      have htext : quantifierText (some q) = q.text := rfl
      have hmany : isManyBy (some q) = q.repetition.isMany := rfl
      rw [htext, hmany]
      obtain ⟨marks, hmarks, ⟨hmany, hmark⟩ | ⟨hmany, hmark⟩ | ⟨counts, hcounts, hmany, hbraces⟩⟩ :=
        q.text_cases
      · have hone : ∃ c, (c = '*' ∨ c = '+') ∧ q.text = c :: marks := by
          rcases hmark with h | h
          exacts [⟨'*', Or.inl rfl, h⟩, ⟨'+', Or.inr rfl, h⟩]
        obtain ⟨c, hc, htext⟩ := hone
        rw [htext, List.cons_append, refused_mark hc, refused_marks hmarks, hmany,
          markQuantifier_eq]
      · rw [hmark, List.cons_append, refused_plain (by decide), refused_marks hmarks, hmany,
          mark_nothing]
      · rw [hbraces, List.cons_append, List.append_assoc, List.cons_append, refused_braces,
          readBraces_append hcounts, refused_marks hmarks, hmany, markQuantifier_eq]
        cases q.repetition.isMany <;> simp

/-- A quantifier behind a group is read with the end of the group. -/
lemma readGroupQuantifier_text (q : Option Quantifier) (h : Unquantified rest) :
    ∃ marks, (∀ c ∈ marks, c = '?') ∧
      readGroupQuantifier (quantifierText q ++ rest) = (isManyBy q, marks ++ rest) := by
  cases q with
  | none =>
      have hnone : ∀ cs : List Char, Unquantified cs → readGroupQuantifier cs = (false, cs) := by
        intro cs hcs
        unfold readGroupQuantifier
        split
        · exact absurd (by simp) (hcs '*' rfl)
        · exact absurd (by simp) (hcs '+' rfl)
        · exact absurd (by simp) (hcs '{' rfl)
        · rfl
      exact ⟨[], by simp, hnone rest h⟩
  | some q =>
      have htext : quantifierText (some q) = q.text := rfl
      have hmany : isManyBy (some q) = q.repetition.isMany := rfl
      rw [htext, hmany]
      obtain ⟨marks, hmarks, ⟨hmany, hmark⟩ | ⟨hmany, hmark⟩ | ⟨counts, hcounts, hmany, hbraces⟩⟩ :=
        q.text_cases
      · refine ⟨marks, hmarks, ?_⟩
        rcases hmark with h | h <;> rw [h, hmany] <;> rfl
      · refine ⟨'?' :: marks, by simpa using hmarks, ?_⟩
        rw [hmark, hmany]
        rfl
      · refine ⟨marks, hmarks, ?_⟩
        rw [hbraces, List.cons_append, List.append_assoc, List.cons_append, readGroupQuantifier,
          readBraces_append hcounts, hmany]

/-- The end of a group with its quantifier. -/
lemma refused_groupEnd {g : GroupContent} (q : Option Quantifier) (h : Unquantified rest) :
    Refused (g :: groups) repeated (')' :: (quantifierText q ++ rest)) ↔
      (isManyBy q = true ∧ (g.quantifier || g.alternation) = true) ∨
        Refused (mark ⟨g.quantifier || isManyBy q, g.alternation⟩ groups) (repeated || isManyBy q)
          rest := by
  obtain ⟨marks, hmarks, hread⟩ := readGroupQuantifier_text q h
  rw [refused_close, hread, refused_marks hmarks]
  simp only [mark, shownWith, Bool.or_assoc]

end Quantified

/-! ### Reading a tree -/

lemma Atom.unquantified_text (a : Atom) (rest : List Char) : Unquantified (a.text ++ rest) := by
  intro c hc
  cases a with
  | literal d =>
      have hd := d.property
      simp only [Atom.text, List.singleton_append, List.head?_cons, Option.mem_some_iff] at hc
      simp [isOrdinary, hc] at hd
      simp [hd]
  | escape d =>
      simp only [Atom.text, List.cons_append, List.head?_cons, Option.mem_some_iff] at hc
      simp [← hc]
  | set k =>
      simp only [Atom.text, List.cons_append, List.head?_cons, Option.mem_some_iff] at hc
      simp [← hc]
  | group captures body =>
      simp only [Atom.text, List.cons_append, List.head?_cons, Option.mem_some_iff] at hc
      simp [← hc]

lemma Sequence.unquantified_text (s : Sequence) {rest : List Char} (h : Unquantified rest) :
    Unquantified (s.text ++ rest) := by
  cases s with
  | empty => exact h
  | cons a q more =>
      rw [Sequence.text, List.append_assoc, List.append_assoc]
      exact a.unquantified_text _

lemma Choice.unquantified_text (r : Choice) {rest : List Char} (h : Unquantified rest) :
    Unquantified (r.text ++ rest) := by
  cases r with
  | only s => exact s.unquantified_text h
  | or s more =>
      rw [Choice.text, List.append_assoc]
      exact s.unquantified_text (by simp [Unquantified])

/-- A class is passed over as a whole. -/
lemma skipClass_inside (k : CharClass) (rest : List Char) :
    skipClass (k.inside ++ rest) = rest := by
  have hrest : ∀ items : List ClassItem, (∀ c, .char c ∈ items → c ≠ '[' ∧ c ≠ '\\' ∧ c ≠ ']') →
      skipClassBody (items.flatMap ClassItem.text ++ ']' :: rest) = rest := by
    intro items hitems
    induction items with
    | nil => simp [skipClassBody]
    | cons item items ih =>
        have ih := ih fun c hc => hitems c (List.mem_cons_of_mem _ hc)
        cases item with
        | escape c => simpa [ClassItem.text, skipClassBody] using ih
        | char c =>
            obtain ⟨-, hescape, hclose⟩ := hitems c (by simp)
            simpa [ClassItem.text, skipClassBody, hescape, hclose] using ih
  obtain ⟨isNegated, first, items, hfirst, hitems⟩ := k
  have htail := hrest items hitems
  have htext : ∀ first : List Char,
      (if isNegated then ['^'] else []) ++ first ++ items.flatMap ClassItem.text ++ [']'] ++ rest =
        (if isNegated then ['^'] else []) ++ first ++
          (items.flatMap ClassItem.text ++ ']' :: rest) := by simp
  rw [CharClass.inside, htext]
  -- the first member is read in one of three ways: an escape, a closing bracket, another character
  cases first with
  | escape c => cases isNegated <;> simpa [ClassItem.text, skipClass, skipClassBody] using htail
  | char c =>
      obtain ⟨-, hescape, hcaret⟩ := hfirst c rfl
      by_cases hclose : c = ']'
      · subst hclose
        cases isNegated <;> simpa [ClassItem.text, skipClass] using htail
      · cases isNegated with
        | true => simpa [ClassItem.text, skipClass, skipClassBody, hescape, hclose] using htail
        | false =>
            have hcaret : c ≠ '^' := fun h => absurd (hcaret h) (by decide)
            simpa [ClassItem.text, skipClass, skipClassBody, hescape, hclose, hcaret] using htail

/-- An atom without groups in it is passed over; only an escape may be a hazard. -/
lemma screened_simple {a : Atom} (q : Option Quantifier) (hpieces : a.pieces = [])
    (hbody : Piece.body? ⟨a, q⟩ = none)
    (hread : ∀ groups repeated rest, Refused groups repeated (a.text ++ rest) ↔
      (repeated = true ∧ Piece.isBackreference ⟨a, q⟩ = true) ∨ Refused groups repeated rest) :
    Screened (a.text ++ quantifierText q) (a.pieces ++ [⟨a, q⟩])
      ((a.pieces ++ [Piece.mk a q]).any Piece.isAlternation) := by
  intro groups repeated rest _
  have hmany : Piece.isMany ⟨a, q⟩ = isManyBy q := rfl
  rw [List.append_assoc, hread, refused_quantifier]
  simp [hpieces, Hazardous, Piece.isNested, Piece.isManyGroup, Piece.isAlternation, hbody, hmany]

/-- A group: its body is read with an open group of its own. -/
lemma screened_group {body : Choice} (captures : Bool) (q : Option Quantifier)
    (hbody : Screened body.text body.pieces body.alternates) :
    Screened ((Atom.group captures body).text ++ quantifierText q)
      ((Atom.group captures body).pieces ++ [⟨.group captures body, q⟩])
      (((Atom.group captures body).pieces ++ [Piece.mk (.group captures body) q]).any
        Piece.isAlternation) := by
  intro groups repeated rest hrest
  have hopen :
      Refused groups repeated ((Atom.group captures body).text ++ quantifierText q ++ rest) ↔
        Refused (⟨false, false⟩ :: groups) repeated
          (body.text ++ ')' :: (quantifierText q ++ rest)) := by
    cases captures with
    | false => simp [Atom.text, refused_open_bare]
    | true =>
        have hhead : (body.text ++ ')' :: (quantifierText q ++ rest)).head? ≠ some '?' := fun h =>
          absurd (by simp) (body.unquantified_text (by simp [Unquantified]) '?' h)
        simpa [Atom.text] using refused_open hhead
  rw [hopen, hbody _ _ _ (by simp [Unquantified]), mark_cons, refused_groupEnd q hrest]
  -- what the group is as a piece of its own
  have hmany : Piece.isMany ⟨.group captures body, q⟩ = isManyBy q := rfl
  have hgroup : Piece.isManyGroup ⟨.group captures body, q⟩ = isManyBy q := Bool.and_true _
  have halternation : Piece.isAlternation ⟨.group captures body, q⟩ = body.isAlternation := rfl
  have hback : Piece.isBackreference ⟨.group captures body, q⟩ = false := rfl
  have hnested : Piece.isNested ⟨.group captures body, q⟩ =
      (isManyBy q && (body.pieces.any Piece.isMany || body.alternates)) := rfl
  simp [Atom.pieces, hazardous_append, Hazardous, hmany, hgroup, halternation, hback, hnested,
    Choice.alternates, shownWith, or_assoc, Bool.or_assoc, Bool.or_comm, Bool.or_left_comm]

mutual

/-- Reading an atom with its quantifier. -/
theorem Atom.screened (a : Atom) (q : Option Quantifier) :
    Screened (a.text ++ quantifierText q) (a.pieces ++ [⟨a, q⟩])
      ((a.pieces ++ [Piece.mk a q]).any Piece.isAlternation) := by
  match a with
  | .literal c =>
      have hplain : c.val ∉ ['\\', '[', '(', ')', '|', '*', '+', '{'] := by
        have hc := c.property
        simp [isOrdinary] at hc
        simp [hc]
      refine screened_simple q rfl rfl fun groups repeated rest => ?_
      simp [Atom.text, refused_plain hplain, Piece.isBackreference]
  | .escape c => exact screened_simple q rfl rfl fun groups repeated rest => refused_escape
  | .set k =>
      refine screened_simple q rfl rfl fun groups repeated rest => ?_
      simp [Atom.text, refused_class, skipClass_inside, Piece.isBackreference]
  | .group captures body => exact screened_group captures q body.screened

/-- Reading a sequence. -/
theorem Sequence.screened (s : Sequence) :
    Screened s.text s.pieces (s.pieces.any Piece.isAlternation) := by
  match s with
  | .empty => exact screened_nil
  | .cons a q rest =>
      have hboth := (a.screened q).append rest.screened fun tail htail =>
        rest.unquantified_text htail
      simpa [Sequence.text, Sequence.pieces, Bool.or_assoc] using hboth

/-- Reading a choice. -/
theorem Choice.screened (r : Choice) : Screened r.text r.pieces r.alternates := by
  match r with
  | .only s =>
      simpa [Choice.text, Choice.pieces, Choice.alternates, Choice.isAlternation] using s.screened
  | .or s rest =>
      intro groups repeated tail htail
      rw [Choice.text, List.append_assoc, List.cons_append,
        s.screened _ _ _ (by simp [Unquantified]), refused_bar, markAlternation_eq,
        rest.screened _ _ _ htail, mark_mark, mark_mark]
      simp [Choice.pieces, Choice.alternates, Choice.isAlternation, hazardous_append, shownWith,
        or_assoc, Bool.or_assoc]

end

/-- A pattern as a text. -/
def Choice.pattern (r : Choice) : String :=
  String.ofList r.text

end Written

/-- **A pattern is refused exactly when it is too long or has a hazard.** -/
theorem checkSafety_eq_error_iff (r : Written.Choice) (maxLength : ℕ) :
    (∃ refusal, checkSafety r.pattern maxLength = .error refusal) ↔
      maxLength < r.pattern.utf8ByteSize ∨ r.HasHazard := by
  have hscan : (hazard? r.text).isSome = true ↔ r.HasHazard := by
    have hread := r.screened [] false [] (by simp [Written.Unquantified])
    rw [List.append_nil] at hread
    rw [r.hasHazard_iff]
    exact hread.trans (by simp [not_refused_nil])
  have htext : r.pattern.toList = r.text := String.toList_ofList
  rw [← hscan]
  unfold checkSafety
  rw [htext]
  split_ifs with hlong
  · simp [hlong]
  · cases hazard? r.text <;> simp [hlong]

end Scaffold.Pattern

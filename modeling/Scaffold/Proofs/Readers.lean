import Mathlib.Data.List.TakeWhile
import Mathlib.Tactic
import Scaffold.Json.Typed

/-!
Readers on texts that they accept.

* `Reads r text a rest`: a reader takes a value from the front of a text and leaves the rest of it,
  wherever the text stands. `Reads.bind` puts readers in a row;
* `reads_quotedRest`: a quoted text is read as it was written.
-/

namespace Scaffold.Json.Reader

open Text

section Reads

variable {α β : Type} {r : Reader α} {f : α → Reader β} {g : α → β} {a : α} {b : β}
  {c : Char} {x y z gap : List Char}

/-- A reader takes a value from the front of a text and leaves the rest, at whatever place the
text stands. -/
def Reads (r : Reader α) (text : List Char) (a : α) (rest : List Char) : Prop :=
  ∀ place, ∃ place', r ⟨text, place⟩ = (.ok a, ⟨rest, place'⟩)

lemma reads_pure : Reads (pure a) x a x :=
  fun place => ⟨place, rfl⟩

/-- Readers in a row. -/
lemma Reads.bind (h : Reads r x a y) (h' : Reads (f a) y b z) : Reads (r >>= f) x b z := by
  intro place
  obtain ⟨middle, hr⟩ := h place
  obtain ⟨place', hf⟩ := h' middle
  refine ⟨place', ?_⟩
  change (match r ⟨x, place⟩ with
    | (result, c) => ExceptT.bindCont f result c) = _
  rw [hr]
  exact hf

lemma Reads.map (h : Reads r x a y) : Reads (g <$> r) x (g a) y := by
  rw [map_eq_pure_bind]
  exact h.bind reads_pure

/-- A reader that finds no fault gets no place for one. -/
lemma Reads.placed (h : Reads r x a y) : Reads (placed r) x a y := by
  intro place
  obtain ⟨place', hr⟩ := h place
  exact ⟨place', by rw [Reader.placed, hr]⟩

lemma Reads.ending {close : Reader Unit} (h : Reads r x a y) (hclose : Reads close y () z) :
    Reads (ending r close) x a z := by
  intro place
  obtain ⟨middle, hr⟩ := h place
  obtain ⟨place', hclose⟩ := hclose middle
  refine ⟨place', ?_⟩
  rw [Reader.ending, hr]
  simp only [hclose]

/-- What a reader does next may depend on the text that is left. -/
lemma Reads.get {f : Cursor → Reader β} (h : ∀ place, Reads (f ⟨x, place⟩) x b z) :
    Reads (get >>= f) x b z :=
  fun place => h place place

/-! ### Characters -/

lemma reads_skip : Reads skip (c :: x) () x :=
  fun place => ⟨place.after c, rfl⟩

lemma reads_next? : Reads next? (c :: x) (some c) x :=
  fun place => ⟨place.after c, rfl⟩

lemma reads_peek? : Reads peek? x x.head? x :=
  fun place => ⟨place, rfl⟩

lemma reads_fuel : Reads fuel x (x.length + 1) x :=
  fun place => ⟨place, rfl⟩

lemma reads_takeWhile (p : Char → Bool) : Reads (takeWhile p) x (x.takeWhile p) (x.dropWhile p) :=
  fun place => ⟨(x.takeWhile p).foldl Place.after place, rfl⟩

/-- Characters between the parts of a value. -/
def IsGap (gap : List Char) : Prop :=
  ∀ c ∈ gap, isSpace c = true

lemma isGap_nil : IsGap [] := by
  simp [IsGap]

lemma isGap_space : IsGap [' '] := by
  simp [IsGap, isSpace]

/-- A gap is passed over to see the character behind it. -/
lemma reads_peekPastSpace? (hgap : IsGap gap) (hc : isSpace c = false) :
    Reads peekPastSpace? (gap ++ c :: x) (some c) (c :: x) := by
  have hskipped : (gap ++ c :: x).dropWhile isSpace = c :: x := by
    rw [List.dropWhile_append_of_pos hgap, List.dropWhile_cons_of_neg (by simp [hc])]
  have htake := reads_takeWhile (x := gap ++ c :: x) isSpace
  rw [hskipped] at htake
  exact htake.bind reads_peek?

/-- A gap may be all that is left. -/
lemma reads_peekPastSpace?_nil (hgap : IsGap gap) : Reads peekPastSpace? gap none [] := by
  have hskipped : gap.dropWhile isSpace = [] := List.dropWhile_eq_nil_iff.mpr hgap
  have htake := reads_takeWhile (x := gap) isSpace
  rw [hskipped] at htake
  exact htake.bind reads_peek?

lemma reads_firstChar (hgap : IsGap gap) (hc : isSpace c = false) :
    Reads firstChar (gap ++ c :: x) c (c :: x) :=
  (reads_peekPastSpace? hgap hc).bind reads_pure

/-- A reader of a whole text, behind which nothing but a gap follows. -/
lemma Reads.run {text : String} (h : Reads r text.toList a gap) (hgap : IsGap gap) :
    run r text = .ok a := by
  have hwhole : Reads (do
      let a ← r
      if (← peekPastSpace?).isSome then failNext .trailingText
      return a) text.toList a [] :=
    h.bind ((reads_peekPastSpace?_nil hgap).bind reads_pure)
  obtain ⟨place, hwhole⟩ := hwhole ⟨1, 0⟩
  exact congrArg Prod.fst hwhole

/-! ### Words -/

lemma reads_word (letters : List Char) : Reads (word letters) (letters ++ x) () x := by
  induction letters with
  | nil => exact reads_pure
  | cons c letters ih =>
      refine reads_next?.bind ?_
      simpa using ih

lemma reads_wholeWord (letters : String) :
    Reads (wholeWord letters) (c :: letters.toList ++ x) () x :=
  reads_skip.bind (reads_word _)

/-! ### Quoted text -/

lemma hexValue?_hexDigit {n : ℕ} (h : n < 16) : hexValue? (hexDigit n) = some n := by
  interval_cases n <;> rfl

/-- Four digits of a small number. -/
lemma reads_hexEscape {n : ℕ} (h : n < 0x20) :
    Reads hexEscape ('0' :: '0' :: hexDigit (n / 16) :: hexDigit (n % 16) :: x) n x := by
  have hhigh : hexValue? (hexDigit (n / 16)) = some (n / 16) := hexValue?_hexDigit (by omega)
  have hlow : hexValue? (hexDigit (n % 16)) = some (n % 16) := hexValue?_hexDigit (by omega)
  have hzero : hexValue? '0' = some 0 := rfl
  have hnumber : ((0 * 16 + 0) * 16 + n / 16) * 16 + n % 16 = n := by omega
  refine .get fun place => ?_
  simp only [hzero, hhigh, hlow, hnumber]
  exact fun _ => ⟨_, rfl⟩

lemma reads_unicodeEscape (h : c.toNat < 0x20) :
    Reads unicodeEscape ('0' :: '0' :: hexDigit (c.toNat / 16) :: hexDigit (c.toNat % 16) :: x)
      c x := by
  have hlow : (decide (0xDC00 ≤ c.toNat) && decide (c.toNat ≤ 0xDFFF)) = false := by simp; omega
  have hsmall : (decide (c.toNat < 0xD800) || decide (0xDBFF < c.toNat)) = true := by simp; omega
  refine (reads_hexEscape h).bind ?_
  simp only [hlow, hsmall, Bool.false_eq_true, ↓reduceIte, Char.ofNat_toNat]
  exact reads_pure

lemma reads_escape {e : Char} (h : simpleEscape? e = some c) : Reads escape (e :: x) c x := by
  refine .get fun place => ?_
  dsimp only
  split
  · contradiction
  · rename_i heq
    obtain ⟨rfl, -⟩ := List.cons_eq_cons.mp heq
    simp [simpleEscape?] at h
  · rename_i heq
    obtain ⟨rfl, -⟩ := List.cons_eq_cons.mp heq
    rw [h]
    exact reads_skip.bind reads_pure

/-- A character is read as it was written, and the others behind it. -/
lemma reads_quotedLoop_cons {fuel : ℕ} {done cs : List Char}
    (h : Reads (quotedLoop fuel (c :: done)) x cs y) :
    Reads (quotedLoop (fuel + 1) done) (escaped c ++ x) cs y := by
  have hescape : ∀ tail, Reads escape (tail ++ x) c x →
      Reads (quotedLoop (fuel + 1) done) ('\\' :: tail ++ x) cs y := fun tail htail =>
    reads_peek?.bind (reads_skip.bind (htail.bind h))
  unfold escaped
  split_ifs with hquote hslash hback htab hline hfeed hreturn hcontrol
  · exact hescape ['"'] (reads_escape (by rw [hquote]; rfl))
  · exact hescape ['\\'] (reads_escape (by rw [hslash]; rfl))
  · exact hescape ['b'] (reads_escape (by rw [hback]; rfl))
  · exact hescape ['t'] (reads_escape (by rw [htab]; rfl))
  · exact hescape ['n'] (reads_escape (by rw [hline]; rfl))
  · exact hescape ['f'] (reads_escape (by rw [hfeed]; rfl))
  · exact hescape ['r'] (reads_escape (by rw [hreturn]; rfl))
  · exact hescape ['u', '0', '0', hexDigit (c.toNat / 16), hexDigit (c.toNat % 16)]
      (.get fun place => reads_skip.bind (reads_unicodeEscape hcontrol))
  · refine reads_peek?.bind ?_
    simp only [List.cons_append, List.nil_append, List.head?_cons, hcontrol, ↓reduceIte]
    exact reads_skip.bind h

lemma reads_quotedLoop {fuel : ℕ} (done : List Char) {cs : List Char} (h : cs.length < fuel) :
    Reads (quotedLoop fuel done) (cs.flatMap escaped ++ '"' :: x) (done.reverse ++ cs) x := by
  induction cs generalizing fuel done with
  | nil =>
      obtain ⟨fuel, rfl⟩ := Nat.exists_eq_succ_of_ne_zero (Nat.ne_of_gt h)
      rw [List.append_nil]
      exact reads_peek?.bind (reads_skip.bind reads_pure)
  | cons c cs ih =>
      obtain ⟨fuel, rfl⟩ := Nat.exists_eq_succ_of_ne_zero (Nat.ne_zero_of_lt h)
      have hmore := ih (c :: done) (Nat.lt_of_succ_lt_succ h)
      rw [List.reverse_cons, List.append_assoc] at hmore
      rw [List.flatMap_cons, List.append_assoc]
      exact reads_quotedLoop_cons hmore

lemma length_le_flatMap_escaped (cs : List Char) : cs.length ≤ (cs.flatMap escaped).length := by
  have hsome : ∀ c, 1 ≤ (escaped c).length := fun c => by
    unfold escaped
    split_ifs <;> simp
  have hsum := List.length_le_sum_of_one_le (cs.map fun c => (escaped c).length)
    (by simpa using fun c _ => hsome c)
  rwa [List.length_map, ← List.length_flatMap] at hsum

/-- **A quoted text is read as it was written**, whatever its characters are. -/
theorem reads_quotedRest (text : String) :
    Reads quotedRest (text.toList.flatMap escaped ++ '"' :: x) text x := by
  have hfuel : text.toList.length < (text.toList.flatMap escaped ++ '"' :: x).length + 1 := by
    have hlength := length_le_flatMap_escaped text.toList
    rw [List.length_append]
    omega
  have hread : Reads quotedRest _ _ x :=
    reads_fuel.bind ((reads_quotedLoop [] hfuel).bind reads_pure)
  rwa [List.reverse_nil, List.nil_append, String.ofList_toList] at hread

end Reads

end Scaffold.Json.Reader

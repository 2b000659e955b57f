import Mathlib
import Scaffold.Text.Case

/-!
Texts in capital letters.

The capital form of a character is read off from a table of shifts and a table of expansions.
What a table sends somewhere (`smallPoints`) and where it is sent (`capitalPoints`) are lists of
code points, and no code point is in both.

* `upperChar_of_not_mem`, `upperChar_eq_or`: the tables change code points of the first list
  only, and what they put in is of the second one;
* `upper_upper`: hence capitals stay as they are, and taking them twice is taking them once;
* `percent_mem_upperChar`: no other character becomes a percent sign.
-/

namespace Scaffold.Text

/-- The code points that a shift covers. -/
def Shift.points (s : Shift) : List ℕ :=
  (List.range ((s.last - s.first) / s.step + 1)).map fun i => s.first + i * s.step

/-- Where a shift that covers a code point sends it. -/
def Shift.send (s : Shift) (n : ℕ) : ℕ :=
  ((n : ℤ) + s.distance).toNat

/-- The code points for which the tables have a capital form. -/
def smallPoints : List ℕ :=
  upperShifts.flatMap Shift.points ++ upperExpansions.map Prod.fst

/-- The code points in the capital forms of the tables. A code point that is none of a character
would become the null character. -/
def capitalPoints : List ℕ :=
  0 :: (upperShifts.flatMap (fun s => s.points.map s.send) ++ upperExpansions.flatMap Prod.snd)

/-! ### Two lists without a common member -/

/-- The number with a bit for each member of a list. -/
def mask (points : List ℕ) : ℕ :=
  points.foldr (fun n bits => 1 <<< n ||| bits) 0

lemma testBit_mask {points : List ℕ} {n : ℕ} : (mask points).testBit n ↔ n ∈ points := by
  induction points with
  | nil => simp [mask]
  | cons first points ih =>
      have hcons : mask (first :: points) = 1 <<< first ||| mask points := rfl
      rw [hcons, Nat.testBit_or, Bool.or_eq_true, ih, Nat.one_shiftLeft, Nat.testBit_two_pow,
        decide_eq_true_iff, List.mem_cons, eq_comm]

/-- Lists whose masks have no bit in common have no member in common. -/
lemma disjoint_of_mask {points points' : List ℕ} (h : mask points &&& mask points' = 0) :
    points.Disjoint points' := by
  intro n hn hn'
  have hbit : (mask points &&& mask points').testBit n = true := by
    rw [Nat.testBit_and, testBit_mask.mpr hn, testBit_mask.mpr hn', Bool.and_self]
  simp [h] at hbit

/-- **No code point of a capital form has a capital form of its own.** The members are compared
bit by bit, since there are more than a thousand of either kind. -/
lemma disjoint_capitalPoints : smallPoints.Disjoint capitalPoints :=
  disjoint_of_mask (by decide +kernel)

lemma percent_not_mem : '%'.toNat ∉ capitalPoints := by
  decide +kernel

/-! ### Capital forms -/

section Forms

variable {s : Shift} {c d : Char} {m n : ℕ}

lemma Shift.image?_eq_some (h : s.image? n = some m) : n ∈ s.points ∧ m = s.send n := by
  rw [Shift.image?] at h
  split_ifs at h with hcovers
  simp only [Bool.and_eq_true, decide_eq_true_eq, beq_iff_eq] at hcovers
  obtain ⟨⟨hfirst, hlast⟩, hstep⟩ := hcovers
  refine ⟨List.mem_map.mpr ⟨(n - s.first) / s.step, List.mem_range.mpr ?_, ?_⟩,
    (Option.some.inj h).symm⟩
  · exact Nat.lt_succ_of_le (Nat.div_le_div_right (by omega))
  · have hdiv := Nat.div_add_mod' (n - s.first) s.step
    omega

lemma upperChar_of_ascii (h : c.toNat < 0x80) : upperChar c = [c.toUpper] := by
  rw [upperChar, if_pos h]

/-- The small letters of ASCII have capital forms. -/
lemma mem_smallPoints_of_isLower (h : c.isLower) : c.toNat ∈ smallPoints := by
  have hall : ∀ n ∈ List.range' 0x61 26, n ∈ smallPoints := by decide +kernel
  simp only [Char.isLower, Bool.and_eq_true, decide_eq_true_eq, ge_iff_le,
    UInt32.le_iff_toNat_le] at h
  exact hall _ (List.mem_range'_1.mpr (by simpa [Nat.lt_succ_iff] using h))

/-- A character without a capital form of its own stays. -/
lemma upperChar_of_not_mem (h : c.toNat ∉ smallPoints) : upperChar c = [c] := by
  have hascii := mt mem_smallPoints_of_isLower h
  simp only [smallPoints, List.mem_append, List.mem_flatMap, List.mem_map, not_or, not_exists,
    not_and] at h
  obtain ⟨hshift, hexpand⟩ := h
  have hlookup : upperExpansions.lookup c.toNat = none :=
    List.lookup_eq_none_iff.mpr fun e he => by simpa using Ne.symm (hexpand e he)
  have hfind : upperShifts.findSome? (·.image? c.toNat) = none := by
    refine List.findSome?_eq_none_iff.mpr fun s hs => Option.eq_none_iff_forall_ne_some.mpr ?_
    exact fun m hm => hshift s hs (Shift.image?_eq_some hm).1
  rw [upperChar, Char.toUpper_eq_of_not_isLower hascii, mapCase, hlookup, shiftBy, hfind, ite_self]

/-- A code point that is none of a character becomes the null character. -/
lemma toNat_ofNat_mem (h : n ∈ capitalPoints) : (Char.ofNat n).toNat ∈ capitalPoints := by
  rw [Char.toNat_ofNat]
  split_ifs
  · exact h
  · exact List.mem_cons_self

/-- Beyond ASCII, a capital form is the character itself, or consists of characters that the
tables have as capitals. -/
lemma upperChar_eq_or (h : 0x80 ≤ c.toNat) :
    upperChar c = [c] ∨ ∀ d ∈ upperChar c, d.toNat ∈ capitalPoints := by
  rw [upperChar, if_neg (Nat.not_lt.mpr h), mapCase]
  cases hlookup : upperExpansions.lookup c.toNat with
  | some codes =>
      refine .inr fun d hd => ?_
      obtain ⟨n, hn, rfl⟩ := List.mem_map.mp hd
      obtain ⟨front, back, hsplit, -⟩ := List.lookup_eq_some_iff.mp hlookup
      have hmem : n ∈ upperExpansions.flatMap Prod.snd :=
        List.mem_flatMap.mpr ⟨(c.toNat, codes), by simp [hsplit], hn⟩
      exact toNat_ofNat_mem (List.mem_cons_of_mem _ (List.mem_append_right _ hmem))
  | none =>
      dsimp only
      rw [shiftBy]
      cases hfind : upperShifts.findSome? (·.image? c.toNat) with
      | none => exact .inl rfl
      | some n =>
          refine .inr fun d hd => ?_
          rw [List.mem_singleton.mp hd]
          obtain ⟨s, hs, himage⟩ := List.exists_of_findSome?_eq_some hfind
          obtain ⟨hpoint, rfl⟩ := Shift.image?_eq_some himage
          have hmem : s.send c.toNat ∈ upperShifts.flatMap fun s => s.points.map s.send :=
            List.mem_flatMap.mpr ⟨s, hs, List.mem_map_of_mem hpoint⟩
          exact toNat_ofNat_mem (List.mem_cons_of_mem _ (List.mem_append_left _ hmem))

lemma toNat_toUpper_lt (h : c.toNat < 0x80) : c.toUpper.toNat < 0x80 := by
  by_cases hlower : c.isLower
  · rw [Char.toUpper_eq_of_isLower hlower, Char.toNat_ofNat]
    split_ifs <;> omega
  · rwa [Char.toUpper_eq_of_not_isLower hlower]

/-- **The characters of a capital form are capital.** -/
lemma upperChar_of_mem (h : d ∈ upperChar c) : upperChar d = [d] := by
  by_cases hascii : c.toNat < 0x80
  · rw [upperChar_of_ascii hascii, List.mem_singleton] at h
    rw [h, upperChar_of_ascii (toNat_toUpper_lt hascii), Char.toUpper_toUpper_eq_toUpper]
  · obtain hself | hcapital := upperChar_eq_or (Nat.le_of_not_lt hascii)
    · rw [hself, List.mem_singleton] at h
      rw [h, hself]
    · exact upperChar_of_not_mem fun hsmall => disjoint_capitalPoints hsmall (hcapital d h)

/-- No other character becomes a percent sign. -/
lemma percent_mem_upperChar (h : '%' ∈ upperChar c) : c = '%' := by
  by_cases hascii : c.toNat < 0x80
  · rw [upperChar_of_ascii hascii, List.mem_singleton] at h
    have hlower : ¬ c.isLower := fun hlower => by
      have halpha : c.toUpper.isAlpha := by simp [Char.isAlpha, hlower]
      exact absurd halpha (h ▸ by decide)
    rw [h, Char.toUpper_eq_of_not_isLower hlower]
  · obtain hself | hcapital := upperChar_eq_or (Nat.le_of_not_lt hascii)
    · exact (List.mem_singleton.mp (hself ▸ h)).symm
    · exact absurd (hcapital _ h) percent_not_mem

lemma upperChar_ne_nil : upperChar c ≠ [] := by
  have hall : ∀ e ∈ upperExpansions, e.2 ≠ [] := by decide
  rw [upperChar, mapCase]
  split_ifs
  · simp
  split
  · rename_i codes hlookup
    obtain ⟨front, back, hsplit, -⟩ := List.lookup_eq_some_iff.mp hlookup
    simpa using hall (c.toNat, codes) (by simp [hsplit])
  · simp

end Forms

/-! ### Texts -/

section Texts

variable {cs : List Char}

/-- **Taking capitals twice is taking them once.** -/
theorem upper_upper (cs : List Char) : upper (upper cs) = upper cs := by
  have hcapital : ∀ d ∈ upper cs, upperChar d = [d] := fun d hd => by
    obtain ⟨c, -, hd⟩ := List.mem_flatMap.mp hd
    exact upperChar_of_mem hd
  rw [upper, List.flatMap_congr hcapital, List.flatMap_singleton']

/-- A text starts with a percent sign if it does so in capitals. -/
lemma percent_mem_head?_upper (h : '%' ∈ (upper cs).head?) : '%' ∈ cs.head? := by
  cases cs with
  | nil => exact h
  | cons c rest =>
      rw [upper, List.flatMap_cons, List.head?_append_of_ne_nil _ upperChar_ne_nil] at h
      simpa using percent_mem_upperChar (List.mem_of_mem_head? h)

/-- A text ends with a percent sign if it does so in capitals. -/
lemma percent_mem_getLast?_upper (h : '%' ∈ (upper cs).getLast?) : '%' ∈ cs.getLast? := by
  obtain rfl | ⟨rest, c, rfl⟩ := cs.eq_nil_or_concat'
  · exact h
  · rw [upper, List.flatMap_append, List.flatMap_singleton,
      List.getLast?_append_of_ne_nil _ upperChar_ne_nil] at h
    simpa using percent_mem_upperChar (List.mem_of_mem_getLast? h)

end Texts

end Scaffold.Text

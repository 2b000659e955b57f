import Mathlib.Data.Nat.Digits.Defs
import Mathlib.Tactic
import Scaffold.Condition
import Scaffold.Proofs.Texts

/-!
Counts of repetitions, by the numbers that they write.

* `Denotes`: a text writes a number in digits, as many as it likes, with blanks at its ends or
  none. `signed?_of_digits`: digits alone are read as this number, whatever its size;
* `RepeatCount.read_of_denotes`: a count is compared with the limit as long as it fits into eight
  bytes with a sign. Greater ones are too large, for whatever limit;
* `repeat_count_judged_by_value`: so the number decides, except between the greatest signed and
  the greatest unsigned number of eight bytes, where a limit may lie;
* `count_within_limit_refused`: a number there that the limit allows.
-/

namespace Scaffold

open Text

/-! ### Numbers in digits -/

/-- A text writes a number: digits, with blanks at its ends or none. -/
def Denotes (text : String) (n : ℕ) : Prop :=
  ∃ before ds after, text.toList = before ++ (ds ++ after) ∧
    (∀ c ∈ before, isBlank c) ∧ (∀ c ∈ after, isBlank c) ∧
    ds ≠ [] ∧ (∀ c ∈ ds, c.isDigit) ∧ n = Nat.ofDigits 10 (ds.reverse.map digitValue)

section Digits

variable {ds : List Char}

/-- The number of digits that are read from the left. -/
lemma decimalValue_eq (ds : List Char) :
    decimalValue ds = Nat.ofDigits 10 (ds.reverse.map digitValue) := by
  induction ds using List.reverseRecOn with
  | nil => rfl
  | append_singleton ds c ih =>
      have hlast : decimalValue (ds ++ [c]) = 10 * decimalValue ds + digitValue c := by
        simp [decimalValue]
      rw [hlast, ih, List.reverse_concat, List.map_cons, Nat.ofDigits_cons, Nat.add_comm]

lemma isDigits_iff : isDigits ds ↔ ds ≠ [] ∧ ∀ c ∈ ds, c.isDigit := by
  simp [isDigits]

/-- A sign is no digit, so digits alone have none. -/
lemma signed?_of_digits (h : isDigits ds) : signed? ds = some (decimalValue ds : ℤ) := by
  have hnumber : number? ds = some (decimalValue ds) := if_pos h
  obtain ⟨hne, hds⟩ := isDigits_iff.mp h
  obtain ⟨c, rest, rfl⟩ := List.exists_cons_of_ne_nil hne
  have hc : c.isDigit := hds c List.mem_cons_self
  unfold signed?
  split
  · rename_i hsign
    obtain ⟨rfl, -⟩ := List.cons_eq_cons.mp hsign
    cases hc
  · rename_i hsign
    obtain ⟨rfl, -⟩ := List.cons_eq_cons.mp hsign
    cases hc
  · rw [hnumber]
    rfl

/-- Trimming leaves the digits. -/
lemma Denotes.trim {text : String} {n : ℕ} (h : Denotes text n) :
    isDigits (trim text.toList) ∧ decimalValue (trim text.toList) = n := by
  obtain ⟨before, ds, after, htext, hbefore, hafter, hne, hds, rfl⟩ := h
  have htrim : Text.trim text.toList = ds :=
    trimBy_eq_iff.mpr ⟨⟨before, after, hbefore, hafter, htext⟩,
      fun c hc => isBlank_of_isDigit (hds c (List.mem_of_head? hc)),
      fun c hc => isBlank_of_isDigit (hds c (List.mem_of_getLast? hc))⟩
  rw [htrim]
  exact ⟨isDigits_iff.mpr ⟨hne, hds⟩, decimalValue_eq ds⟩

end Digits

/-! ### Judging counts -/

section Counts

variable {text : String} {n : ℕ}

/-- A count that fits into eight bytes with a sign is compared with the limit, and a greater one
is too large. -/
lemma RepeatCount.read_of_denotes (h : Denotes text n) (limit : ℕ) :
    RepeatCount.read text limit =
      if n ≤ maxSigned then if n ≤ limit then .times n else .tooLarge n limit
      else .tooLarge maxUnsigned limit := by
  obtain ⟨hdigits, hvalue⟩ := h.trim
  have hsigned := signed?_of_digits hdigits
  rw [hvalue] at hsigned
  have hpos : ¬ (n : ℤ) < 0 := by omega
  rw [RepeatCount.read, hsigned]
  simp only [if_neg hpos, Int.toNat_natCast, if_pos hdigits, ← Nat.not_le, ite_not]

/-- **A count is judged by its number**, with leading zeros or without: numbers that the limit
allows are taken and the others are too large. This holds up to the greatest signed number of
eight bytes, and for all numbers if the limit is not greater; it fails for the numbers between
this and a greater limit. -/
theorem repeat_count_judged_by_value (h : Denotes text n) (limit : ℕ) :
    (RepeatCount.read text limit =
      if n ≤ min limit maxSigned then .times n
      else .tooLarge (if n ≤ maxSigned then n else maxUnsigned) limit) ∧
    ((n ≤ limit → RepeatCount.read text limit = .times n) ∧
        (limit < n → ∃ count, RepeatCount.read text limit = .tooLarge count limit) ↔
      ¬ (maxSigned < n ∧ n ≤ limit)) := by
  have hread := RepeatCount.read_of_denotes h limit
  by_cases hsigned : n ≤ maxSigned
  · rw [if_pos hsigned] at hread
    refine ⟨?_, iff_of_true ⟨fun hle => ?_, fun hlt => ⟨n, ?_⟩⟩ fun hbetween => ?_⟩
    · simp only [hread, Nat.le_min, hsigned, and_true, if_true]
    · rw [hread, if_pos hle]
    · rw [hread, if_neg (Nat.not_le.mpr hlt)]
    · omega
  · rw [if_neg hsigned] at hread
    refine ⟨?_, ⟨fun ⟨htimes, _⟩ ⟨_, hle⟩ => ?_, fun houtside => ⟨fun hle => ?_, fun _ => ?_⟩⟩⟩
    · simp only [hread, Nat.le_min, hsigned, and_false, if_false]
    · rw [htimes hle] at hread
      cases hread
    · exact absurd ⟨Nat.lt_of_not_le hsigned, hle⟩ houtside
    · exact ⟨maxUnsigned, hread⟩

end Counts

/-- A number with leading zeros between blanks, which is the limit. -/
theorem repeat_count_judged_by_value_of_padded :
    Denotes " 007\t" 7 ∧ RepeatCount.read " 007\t" 7 = .times 7 := by
  have hdenotes : Denotes " 007\t" 7 :=
    ⟨[' '], ['0', '0', '7'], ['\t'], by decide, List.forall_mem_singleton.mpr (by decide),
      List.forall_mem_singleton.mpr (by decide), by decide, List.all_eq_true.mp (by decide),
      by decide⟩
  exact ⟨hdenotes, (repeat_count_judged_by_value hdenotes 7).1⟩

/-- The first number that does not fit into eight bytes with a sign is too large even where the
limit is the greatest number that fits without. -/
theorem count_within_limit_refused :
    Denotes "9223372036854775808" 9223372036854775808 ∧ 9223372036854775808 ≤ maxUnsigned ∧
      RepeatCount.read "9223372036854775808" maxUnsigned = .tooLarge maxUnsigned maxUnsigned := by
  have hdenotes : Denotes "9223372036854775808" 9223372036854775808 :=
    ⟨[], "9223372036854775808".toList, [], by simp, by simp, by simp, by decide,
      List.all_eq_true.mp (by decide), by decide⟩
  exact ⟨hdenotes, by decide, RepeatCount.read_of_denotes hdenotes maxUnsigned⟩

end Scaffold

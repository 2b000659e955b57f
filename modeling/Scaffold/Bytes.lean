/-
Words in bytes.

A word of `width` bytes is written with its least significant byte first
(`little`) or last (`big`), and `little?` and `big?` read it at a place.
-/

namespace Scaffold.Bytes

/-- Byte strings are compared byte by byte. -/
instance decideEq : DecidableEq ByteArray := ByteArray.instDecidableEq

/-- The bytes of a number, least significant first. -/
def littleDigits : Nat → Nat → List UInt8
  | 0, _ => []
  | width + 1, n => UInt8.ofNat (n % 256) :: littleDigits width (n / 256)

/-- A word with its least significant byte first. -/
def little (width n : Nat) : ByteArray := ⟨(littleDigits width n).toArray⟩

/-- A word with its least significant byte last. -/
def big (width n : Nat) : ByteArray := ⟨(littleDigits width n).reverse.toArray⟩

/-- The number whose bytes are given, least significant first. -/
def valueOf : List UInt8 → Nat
  | [] => 0
  | b :: rest => b.toNat + 256 * valueOf rest

/-- Some bytes that start at a place, when there are as many. -/
def slice? (bytes : ByteArray) (start size : Nat) : Option ByteArray :=
  if start + size ≤ bytes.size then some (bytes.extract start (start + size)) else none

/-- The word at a place, least significant byte first. -/
def little? (bytes : ByteArray) (start width : Nat) : Option Nat :=
  (slice? bytes start width).map fun b => valueOf b.toList

/-- The word at a place, least significant byte last. -/
def big? (bytes : ByteArray) (start width : Nat) : Option Nat :=
  (slice? bytes start width).map fun b => valueOf b.toList.reverse

/-- Words one after the other, each given with its width. -/
def fields (words : List (Nat × Nat)) : ByteArray :=
  words.foldl (fun out (width, n) => out ++ little width n) .empty

/-- Reading the bytes of a number gives it back, up to what they can hold. -/
theorem valueOf_littleDigits (width n : Nat) :
    valueOf (littleDigits width n) = n % Nat.pow 256 width := by
  induction width generalizing n with
  | zero => simp [littleDigits, valueOf, Nat.mod_one]
  | succ w ih =>
    rw [littleDigits, valueOf, ih, show Nat.pow 256 (w + 1) = Nat.pow 256 w * 256 from rfl,
      Nat.mul_comm (Nat.pow 256 w) 256, Nat.mod_mul]
    simp

end Scaffold.Bytes

/-
Reading bytes as text when they need not be text.

* `nextChar` reads one character: a well-formed sequence gives its character,
  and a malformed one gives the replacement character for its longest start that
  a well-formed sequence could have;
* `ofBytes` reads all bytes in this way.
-/

namespace Scaffold.Text

/-- What stands for bytes that are no character. -/
def replacementChar : Char := '\uFFFD'

/-- The bounds of the second byte of a sequence by its first byte, and how many
bytes follow the second. -/
def sequenceShape (first : UInt8) : Option (UInt8 × UInt8 × Nat) :=
  if 0xC2 ≤ first && first ≤ 0xDF then some (0x80, 0xBF, 0)
  else if first == 0xE0 then some (0xA0, 0xBF, 1)
  else if first == 0xED then some (0x80, 0x9F, 1)
  else if 0xE1 ≤ first && first ≤ 0xEF then some (0x80, 0xBF, 1)
  else if first == 0xF0 then some (0x90, 0xBF, 2)
  else if 0xF1 ≤ first && first ≤ 0xF3 then some (0x80, 0xBF, 2)
  else if first == 0xF4 then some (0x80, 0x8F, 2)
  else none

/-- The number in the low bits of the first byte of a sequence. -/
def leadBits (first : UInt8) : Nat :=
  if first ≤ 0xDF then first.toNat % 0x20
  else if first ≤ 0xEF then first.toNat % 0x10
  else first.toNat % 0x08

/-- Reads `count` continuation bytes after a sequence worth `value`: the character,
or the replacement character at the first byte that does not continue. -/
def continuation (value : Nat) : Nat → List UInt8 → Char × List UInt8
  | 0, rest => (Char.ofNat value, rest)
  | _ + 1, [] => (replacementChar, [])
  | count + 1, b :: rest =>
    if 0x80 ≤ b && b ≤ 0xBF then continuation (value * 0x40 + b.toNat % 0x40) count rest
    else (replacementChar, b :: rest)

/-- The character at the start of some bytes, and the bytes after it. -/
def nextChar (first : UInt8) (rest : List UInt8) : Char × List UInt8 :=
  if first < 0x80 then (Char.ofNat first.toNat, rest)
  else match sequenceShape first with
    | none => (replacementChar, rest)
    | some (low, high, count) =>
      match rest with
      | [] => (replacementChar, [])
      | second :: tail =>
        if low ≤ second && second ≤ high then
          continuation (leadBits first * 0x40 + second.toNat % 0x40) count tail
        else (replacementChar, rest)

/-- Continuation bytes are only removed. -/
theorem length_continuation (value count : Nat) (bytes : List UInt8) :
    (continuation value count bytes).2.length ≤ bytes.length := by
  fun_induction continuation value count bytes <;> simp_all <;> omega

/-- What follows a character is no longer than what followed its first byte. -/
theorem length_nextChar (first : UInt8) (rest : List UInt8) :
    (nextChar first rest).2.length ≤ rest.length := by
  unfold nextChar
  split
  · simp
  · split
    · simp
    · split
      · simp
      · split
        · exact Nat.le_succ_of_le (length_continuation _ _ _)
        · simp

/-- The characters of some bytes. -/
def ofBytes : List UInt8 → List Char
  | [] => []
  | first :: rest => (nextChar first rest).1 :: ofBytes (nextChar first rest).2
termination_by bytes => bytes.length
decreasing_by
  have := length_nextChar first rest
  simp; omega

end Scaffold.Text

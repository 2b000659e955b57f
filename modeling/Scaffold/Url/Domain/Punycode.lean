/-
Labels of domain names in ASCII.

A label with other characters is written as its ASCII characters, a hyphen, and
the other characters as numbers: each is the distance to the last one, in the
order of code points and then of positions, in digits of base 36 whose weights
adapt to the distances seen.
* `encode` writes a label, `decode?` reads one.
-/

namespace Scaffold.Url.Domain.Punycode

/-- A digit of base 36: the letters, then the ten digits. -/
def digitChar (d : Nat) : Char :=
  if d < 26 then Char.ofNat ('a'.toNat + d) else Char.ofNat ('0'.toNat + (d - 26))

/-- The value of a digit. -/
def digitValue? (c : Char) : Option Nat :=
  if 'a' ≤ c ∧ c ≤ 'z' then some (c.toNat - 'a'.toNat)
  else if 'A' ≤ c ∧ c ≤ 'Z' then some (c.toNat - 'A'.toNat)
  else if '0' ≤ c ∧ c ≤ '9' then some (c.toNat - '0'.toNat + 26)
  else none

/-- The threshold of a digit: a smaller digit is the last one of a number. -/
def threshold (position bias : Nat) : Nat :=
  min 26 (max 1 (position - bias))

/-- The threshold lies between one and 26. -/
theorem threshold_bounds (position bias : Nat) :
    1 ≤ threshold position bias ∧ threshold position bias ≤ 26 := by
  unfold threshold
  omega

/-- How often a distance is divided until it is small, and what it is then. -/
def shrink (distance steps : Nat) : Nat × Nat :=
  if 455 < distance then shrink (distance / 35) (steps + 36) else (distance, steps)
termination_by distance
decreasing_by omega

/-- The bias after a distance, of which the first one counts less. -/
def adapt (distance count : Nat) (isFirst : Bool) : Nat :=
  let halved := if isFirst then distance / 700 else distance / 2
  let (small, steps) := shrink (halved + halved / count) 0
  steps + 36 * small / (small + 38)

/-- The digits of a distance. -/
def distanceDigits (bias position distance : Nat) : List Char :=
  let t := threshold position bias
  if distance < t then [digitChar distance]
  else digitChar (t + (distance - t) % (36 - t))
    :: distanceDigits bias (position + 36) ((distance - t) / (36 - t))
termination_by distance
decreasing_by
  have := threshold_bounds position bias
  exact Nat.lt_of_le_of_lt (Nat.div_le_self _ _) (by omega)

/-- What was written of a label: digits, the distance from the last character that
was written, the bias, and the number of characters. -/
structure Progress where
  digits : List Char
  distance : Nat
  bias : Nat
  count : Nat

/-- Passes a character of the label while the character `m` is written, where
`basic` characters were written in front. -/
def Progress.pass (basic m : Nat) (p : Progress) (c : Char) : Progress :=
  if c.toNat < m then { p with distance := p.distance + 1 }
  else if c.toNat = m then
    { digits := p.digits ++ distanceDigits p.bias 36 p.distance
      distance := 0
      bias := adapt p.distance (p.count + 1) (p.count == basic)
      count := p.count + 1 }
  else p

/-- Writes the characters with the given ascending codes, where all codes below
`next` are done. -/
def Progress.write (cs : List Char) (basic : Nat) : List Nat → Nat → Progress → Progress
  | [], _, p => p
  | m :: rest, next, p =>
    let start := { p with distance := p.distance + (m - next) * (p.count + 1) }
    let passed := cs.foldl (Progress.pass basic m) start
    Progress.write cs basic rest (m + 1) { passed with distance := passed.distance + 1 }

/-- The ASCII form of a label. -/
def encode (cs : List Char) : List Char :=
  let basic := cs.filter fun c => c.toNat < 0x80
  let codes := ((cs.filter fun c => 0x80 ≤ c.toNat).map Char.toNat).mergeSort.eraseDups
  let p := Progress.write cs basic.length codes 0x80 ⟨[], 0, 72, basic.length⟩
  basic ++ (if basic.isEmpty then [] else ['-']) ++ p.digits

/-- A distance at the start of a text, added to `sum`, and what follows it. -/
def distance? (bias position weight sum : Nat) : List Char → Option (Nat × List Char)
  | [] => none
  | c :: rest => do
    let d ← digitValue? c
    let t := threshold position bias
    let sum := sum + d * weight
    if d < t then some (sum, rest) else distance? bias (position + 36) (weight * (36 - t)) sum rest

/-- Reads further characters into those in front. The next character has a code
from `code` on, and stands at `position` or, with a greater code, anywhere. The
fuel is the number of digits that are left. -/
def insertAll (code position bias : Nat) (done : List Char) : Nat → List Char → Option (List Char)
  | _, [] => some done
  | 0, _ => none
  | fuel + 1, cs => do
    let (sum, rest) ← distance? bias 36 1 position cs
    let count := done.length + 1
    let next := code + sum / count
    let place := sum % count
    if 0x10FFFF < next ∨ (0xD800 ≤ next ∧ next ≤ 0xDFFF) then none
    else
      insertAll next (place + 1) (adapt (sum - position) count (position == 0))
        (done.take place ++ Char.ofNat next :: done.drop place) fuel rest

/-- The label of an ASCII form: what stands in front of the last hyphen are its
ASCII characters. -/
def decode? (cs : List Char) : Option (List Char) :=
  let tail := (cs.reverse.takeWhile (· != '-')).reverse
  let front := (cs.take (cs.length - tail.length)).dropLast
  if (cs.all fun c => c.toNat < 0x80) then
    insertAll 0x80 0 72 front tail.length tail
  else none

end Scaffold.Url.Domain.Punycode

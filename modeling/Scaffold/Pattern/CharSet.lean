/-
Sets of characters as lists of closed intervals of code points.

Every operation returns a list in normal form: ascending, with a gap between
neighbours. `CharSet.complement` and the binary operations are all defined from
`CharSet.normalize`, union and complement.
-/
import Scaffold.Text.Case.Fold
import Scaffold.Text.Ranges

namespace Scaffold.Pattern

open Text

/-- Closed intervals of code points. -/
abbrev CharSet := List (Nat × Nat)

namespace CharSet

/-- The greatest code point. -/
def maxCode : Nat := 0x10FFFF

/-- The greatest byte. -/
def maxByte : Nat := 0xFF

/-- Whether a code point belongs to the set. -/
def contains (s : CharSet) (n : Nat) : Bool :=
  s.any fun (a, b) => a ≤ n && n ≤ b

/-- Joins intervals that touch or overlap, given in ascending order. -/
def joinNeighbours : CharSet → CharSet
  | [] => []
  | span :: rest =>
    match joinNeighbours rest with
    | [] => [span]
    | next :: others =>
      if next.1 ≤ span.2 + 1 then (span.1, max span.2 next.2) :: others
      else span :: next :: others

/-- The same set with ascending intervals that do not touch. -/
def normalize (s : CharSet) : CharSet :=
  joinNeighbours (s.mergeSort fun a b => a.1 ≤ b.1)

/-- The characters of either set. -/
def union (s t : CharSet) : CharSet :=
  normalize (s ++ t)

/-- The gaps of ascending intervals from a lower to an upper bound. -/
def gaps (lower upper : Nat) : CharSet → CharSet
  | [] => if lower ≤ upper then [(lower, upper)] else []
  | (a, b) :: rest =>
    if lower < a then (lower, a - 1) :: gaps (b + 1) upper rest
    else gaps (b + 1) upper rest

/-- The code points up to a bound outside the set. -/
def complement (upper : Nat) (s : CharSet) : CharSet :=
  gaps 0 upper (normalize s)

/-- The characters of both sets, all of them up to a bound. -/
def inter (upper : Nat) (s t : CharSet) : CharSet :=
  complement upper (union (complement upper s) (complement upper t))

/-- The characters of the first set outside the second. -/
def diff (upper : Nat) (s t : CharSet) : CharSet :=
  inter upper s (complement upper t)

/-- The characters of exactly one of the sets. -/
def symmDiff (upper : Nat) (s t : CharSet) : CharSet :=
  union (diff upper s t) (diff upper t s)

/-- The set of all listed intervals. -/
def ofRanges (r : Ranges) : CharSet :=
  r.spans.toList

/-- The set written in hexadecimal. -/
def ofHex (text : String) : CharSet :=
  ofRanges (Ranges.ofHex text)

/-- One character. -/
def single (c : Char) : CharSet :=
  [(c.toNat, c.toNat)]

/-- The code points that share a folding pair with a member, added to the set. -/
def foldOnce (r : Ranges) : CharSet :=
  foldPairs.flatMap fun (a, b) =>
    if r.containsCode a || r.containsCode b then [(a, a), (b, b)] else []

/-- The set with all characters that differ from a member in case only. Letters
of three forms need a second round. -/
def fold (s : CharSet) : CharSet :=
  let first := union s (foldOnce ⟨s.toArray⟩)
  union first (foldOnce ⟨first.toArray⟩)

/-- The set with the other case of each of its ASCII letters. -/
def asciiFold (s : CharSet) : CharSet :=
  union s <| (List.range 26).flatMap fun k =>
    let small := 0x61 + k
    let capital := 0x41 + k
    if s.contains small || s.contains capital then [(small, small), (capital, capital)] else []

/-- Whether the set holds ASCII characters only. -/
def isAscii (s : CharSet) : Bool :=
  s.all fun (_, b) => b < 0x80

end CharSet

end Scaffold.Pattern

/-
Sets of code points, given as ascending disjoint closed intervals.

* `Ranges.ofHex` reads intervals written in hexadecimal, `41-5A 5F 61-7A`;
* `Ranges.contains` decides membership by bisection.
-/

namespace Scaffold.Text

/-- Closed intervals of code points, ascending and disjoint. -/
structure Ranges where
  spans : Array (Nat × Nat)
  deriving Inhabited

/-- The value of a hexadecimal digit. -/
def hexValue? (c : Char) : Option Nat :=
  if '0' ≤ c ∧ c ≤ '9' then some (c.toNat - '0'.toNat)
  else if 'a' ≤ c ∧ c ≤ 'f' then some (c.toNat - 'a'.toNat + 10)
  else if 'A' ≤ c ∧ c ≤ 'F' then some (c.toNat - 'A'.toNat + 10)
  else none

/-- The digits of a number in hexadecimal, most significant first. -/
def hexNumber (cs : List Char) : Nat :=
  cs.foldl (fun n c => 16 * n + (hexValue? c).getD 0) 0

/-- One interval written as `41-5A`, or as `5F` for a single code point. -/
def spanOfHex (word : List Char) : Nat × Nat :=
  let first := word.takeWhile (· != '-')
  match word.dropWhile (· != '-') with
  | [] => (hexNumber first, hexNumber first)
  | _ :: last => (hexNumber first, hexNumber last)

/-- The words of a text, as its longest pieces without the given separators. -/
def wordsBy (isSeparator : Char → Bool) (cs : List Char) : List (List Char) :=
  let step := fun (c : Char) (acc : List Char × List (List Char)) =>
    if isSeparator c then
      ([], if acc.1.isEmpty then acc.2 else acc.1 :: acc.2)
    else (c :: acc.1, acc.2)
  let last := cs.foldr step ([], [])
  if last.1.isEmpty then last.2 else last.1 :: last.2

/-- Reads intervals in hexadecimal, separated by spaces and line ends. -/
def Ranges.ofHex (text : String) : Ranges :=
  ⟨((wordsBy (fun c => c == ' ' || c == '\n') text.toList).map spanOfHex).toArray⟩

/-- Whether one of the intervals at positions `lo`, …, `hi - 1` holds `n`. -/
def searchSpans (spans : Array (Nat × Nat)) (n lo hi : Nat) : Bool :=
  if lo < hi then
    let mid := (lo + hi) / 2
    match spans[mid]? with
    | none => false
    | some (first, last) =>
      if n < first then searchSpans spans n lo mid
      else if last < n then searchSpans spans n (mid + 1) hi
      else true
  else false
termination_by hi - lo

/-- Whether a code point lies in one of the intervals. -/
def Ranges.containsCode (r : Ranges) (n : Nat) : Bool :=
  searchSpans r.spans n 0 r.spans.size

/-- Whether a character lies in one of the intervals. -/
def Ranges.contains (r : Ranges) (c : Char) : Bool :=
  r.containsCode c.toNat

end Scaffold.Text

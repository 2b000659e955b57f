/-
Whole numbers in decimal.

* `digits` writes a natural number, `padded` fills it with zeros on the left;
* `number?` reads one or more digits, and nothing else.
-/

namespace Scaffold.Text

/-- The decimal digits of a number. -/
def digits (n : Nat) : List Char :=
  Nat.toDigits 10 n

/-- The decimal digits of an integer, with a sign when it is negative. -/
def integerDigits (n : Int) : List Char :=
  if n < 0 then '-' :: digits n.natAbs else digits n.natAbs

/-- A text filled on the left to a width. -/
def padLeft (width : Nat) (fill : Char) (cs : List Char) : List Char :=
  List.replicate (width - cs.length) fill ++ cs

/-- A text filled on the right to a width. -/
def padRight (width : Nat) (fill : Char) (cs : List Char) : List Char :=
  cs ++ List.replicate (width - cs.length) fill

/-- A number with leading zeros up to a width. -/
def padded (width n : Nat) : List Char :=
  padLeft width '0' (digits n)

/-- The value of a decimal digit. -/
def digitValue (c : Char) : Nat :=
  c.toNat - '0'.toNat

/-- The number that decimal digits write, most significant first. -/
def decimalValue (cs : List Char) : Nat :=
  cs.foldl (fun n c => 10 * n + digitValue c) 0

/-- Whether a text is one or more decimal digits. -/
def isDigits (cs : List Char) : Bool :=
  !cs.isEmpty && cs.all Char.isDigit

/-- The number written by one or more decimal digits. -/
def number? (cs : List Char) : Option Nat :=
  if isDigits cs then some (decimalValue cs) else none

/-- The number written by decimal digits after an optional plus sign. -/
def unsigned? : List Char → Option Nat
  | '+' :: rest => number? rest
  | cs => number? cs

/-- The number written by decimal digits after an optional sign. -/
def signed? : List Char → Option Int
  | '-' :: rest => (number? rest).map fun n => -(n : Int)
  | '+' :: rest => (number? rest).map Int.ofNat
  | cs => (number? cs).map Int.ofNat

end Scaffold.Text

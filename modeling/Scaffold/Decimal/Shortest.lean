/-
The shortest decimal that reads back as a given number of 64 bits.

A finite positive number is `mantissa · 2 ^ exponent`, and it is what every
decimal of an interval around it reads as.
* `Binary.ofFloat?` takes a number apart;
* `Binary.reads` says which decimals lie in the interval;
* `Binary.shortest` is the coarsest decimal grid point in it, and the nearest one
  of those;
* `positional` writes a number without an exponent, `scientific` with one where
  it would have too many zeros.
-/
import Scaffold.Text.Decimal

namespace Scaffold.Decimal

open Text

/-- The positive number `mantissa · 2 ^ exponent`. Below a power of two the
neighbour is nearer by half, which `isEdge` notes. -/
structure Binary where
  mantissa : Nat
  exponent : Int
  isEdge : Bool
  deriving Repr, DecidableEq

/-- The number `units · 10 ^ scale`. -/
structure Point where
  units : Nat
  scale : Int
  deriving Repr, DecidableEq

/-- What a number of 64 bits is, sign apart. -/
inductive Magnitude where
  | zero
  | finite (b : Binary)
  | infinite
  | notANumber

/-- The sign and the magnitude of a number: one bit of sign, eleven of exponent,
and a fraction of 52. -/
def magnitude (x : Float) : Bool × Magnitude :=
  let bits := x.toBits.toNat
  let fraction := bits % Nat.pow 2 52
  let exponent : Nat := bits / Nat.pow 2 52 % Nat.pow 2 11
  (Nat.pow 2 63 ≤ bits,
    if exponent = 2047 then (if fraction = 0 then .infinite else .notANumber)
    else if exponent = 0 then
      (if fraction = 0 then .zero else .finite ⟨fraction, -1074, false⟩)
    else .finite ⟨Nat.pow 2 52 + fraction, Int.ofNat exponent - 1075, fraction = 0 && 1 < exponent⟩)

namespace Binary

/-- A power with an exponent that counts only when it is positive. -/
def power (base : Nat) (exponent : Int) : Nat :=
  Nat.pow base exponent.toNat

/-- Compares `quarters · 2 ^ (exponent - 2)` with a decimal, as two whole numbers
after both were multiplied alike. -/
def sides (b : Binary) (quarters : Nat) (p : Point) : Nat × Nat :=
  (quarters * power 2 b.exponent * power 10 (-p.scale),
    4 * p.units * power 10 p.scale * power 2 (-b.exponent))

/-- Whether a decimal reads as the number: it lies within half a unit of the last
place, ends included when the mantissa is even. -/
def reads (b : Binary) (p : Point) : Bool :=
  let low := b.sides (4 * b.mantissa - if b.isEdge then 1 else 2) p
  let high := b.sides (4 * b.mantissa + 2) p
  if b.mantissa % 2 = 0 then low.1 ≤ low.2 && high.2 ≤ high.1
  else low.1 < low.2 && high.2 < high.1

/-- The whole number of steps of `10 ^ scale` that fit into the number. -/
def floorAt (b : Binary) (scale : Int) : Nat :=
  b.mantissa * power 2 b.exponent * power 10 (-scale) / (power 10 scale * power 2 (-b.exponent))

/-- Whether the number is nearer to the point after `p` than to `p`. An even
distance goes to the even one. -/
def nearerAbove (b : Binary) (p : Point) : Bool :=
  let (double, point) := b.sides (8 * b.mantissa) ⟨2 * p.units + 1, p.scale⟩
  point < double || (point == double && p.units % 2 == 1)

/-- The grid point that reads as the number, where the steps of the grid are
`10 ^ scale`. -/
def onGrid? (b : Binary) (scale : Int) : Option Point :=
  let below : Point := ⟨b.floorAt scale, scale⟩
  let above : Point := ⟨below.units + 1, scale⟩
  match b.reads below && below.units != 0, b.reads above with
  | true, true => some (if b.nearerAbove below then above else below)
  | true, false => some below
  | false, true => some above
  | false, false => none

/-- A grid that is finer than any that a number needs comes after this many. -/
def maxGrids : Nat := 660

/-- The first grid with a point that reads as the number, from coarse to fine. -/
def shortest (b : Binary) : Point :=
  let coarsest : Int := (digits (b.floorAt 0)).length
  ((List.range maxGrids).findSome? fun (i : Nat) => b.onGrid? (coarsest - i)).getD ⟨0, 0⟩

end Binary

/-- The text of a decimal without an exponent, its fraction without zeros at the
end, and `whole` after a decimal that has no fraction. -/
def Point.positional (whole : List Char) (p : Point) : List Char :=
  let ds := digits p.units
  if 0 ≤ p.scale then ds ++ List.replicate p.scale.toNat '0' ++ whole
  else
    let places := (-p.scale).toNat
    let ds := padLeft (places + 1) '0' ds
    ds.take (ds.length - places) ++ '.' :: ds.drop (ds.length - places)

/-- The sign that is written. -/
def signText (isNegative : Bool) : List Char :=
  if isNegative then ['-'] else []

/-- A number without an exponent; a whole number has no point. -/
def positional (x : Float) : List Char :=
  match magnitude x with
  | (sign, .zero) => signText sign ++ ['0']
  | (sign, .finite b) => signText sign ++ b.shortest.positional []
  | (sign, .infinite) => signText sign ++ "inf".toList
  | (_, .notANumber) => "NaN".toList

/-- The text of a decimal that always has a point or an exponent: an exponent is
written outside `0.00001` up to `10 ^ 16`. -/
def Point.scientific (p : Point) : List Char :=
  let ds := digits p.units
  let top := (ds.length : Int) + p.scale
  if -5 < top ∧ top ≤ 16 then p.positional ".0".toList
  else match ds with
    | [] => []
    | d :: rest =>
      d :: (if rest.isEmpty then [] else '.' :: rest) ++ 'e' :: integerDigits (top - 1)

/-- A number that always has a point or an exponent. -/
def scientific (x : Float) : List Char :=
  match magnitude x with
  | (sign, .zero) => signText sign ++ "0.0".toList
  | (sign, .finite b) => signText sign ++ b.shortest.scientific
  | (sign, .infinite) => signText sign ++ "inf".toList
  | (_, .notANumber) => "NaN".toList

end Scaffold.Decimal

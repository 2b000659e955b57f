/-
Reading numbers with a fraction.

* `ofScale` is the number nearest to a decimal, without ever writing out a scale that
  is far out of range;
* `read?` reads a number that may lack the digits on one side of its point, and the
  names of infinity and of what is not a number, in any case.
-/
import Scaffold.Text.Case
import Scaffold.Text.Decimal
import Scaffold.Text.Split

namespace Scaffold.Decimal

open Text

/-- The power of ten above which there are no finite numbers. -/
def greatestTop : Int := 310

/-- The power of ten below which there is nothing but zero. -/
def leastTop : Int := -330

/-- The number nearest to `units · 10 ^ scale`. -/
def ofScale (units : Nat) (scale : Int) : Float :=
  let top := ((digits units).length : Int) + scale
  if units = 0 || top < leastTop then 0
  else if greatestTop < top then 1 / 0
  else Float.ofScientific units (scale < 0) scale.natAbs

/-- A number without a sign. -/
def unsignedFloat? (cs : List Char) : Option Float := do
  let isMark := fun c => c == 'e' || c == 'E'
  let front := cs.takeWhile (!isMark ·)
  let exponent ← match cs.dropWhile (!isMark ·) with
    | [] => some 0
    | _ :: rest => signed? rest
  let (whole, places) := (splitOnce '.' front).getD (front, [])
  if isDigits (whole ++ places) then
    some (ofScale (decimalValue (whole ++ places)) (exponent - places.length))
  else none

/-- A number. -/
def read? (cs : List Char) : Option Float :=
  let (isNegative, body) := match cs with
    | '-' :: rest => (true, rest)
    | '+' :: rest => (false, rest)
    | cs => (false, cs)
  let name := asciiLower body
  let x? : Option Float :=
    if name = "inf".toList ∨ name = "infinity".toList then some (1 / 0)
    else if name = "nan".toList then some (0 / 0)
    else unsignedFloat? body
  x?.map fun x => if isNegative then -x else x

end Scaffold.Decimal

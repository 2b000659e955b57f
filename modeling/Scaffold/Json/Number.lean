/-
Numbers.

A number is whole when it has neither a fraction nor an exponent and fits into
eight bytes. Any other number is a `Float`: at most nineteen or twenty digits
count, later ones only scale, and the scale is applied by one multiplication or
division.
* `Reader.number` reads a number after its sign;
* `Reader.skipNumber` passes over one.
-/
import Scaffold.Condition
import Scaffold.Json.Cursor
import Scaffold.Json.Value

namespace Scaffold.Json

open Text

/-- The number of the digits that fit into eight bytes, appended to the number in
front of them, and the digits that are left over. -/
def gather (value : Nat) : List Char → Nat × List Char
  | [] => (value, [])
  | d :: ds =>
    if maxUnsigned < 10 * value + digitValue d then (value, d :: ds)
    else gather (10 * value + digitValue d) ds

/-- The power of ten with an exponent up to 308. -/
def powerOfTen (n : Nat) : Float :=
  Float.ofScientific 1 false n

/-- A number with a scale, divided down in steps of `10 ^ 308`, of which four lead
to zero from any number of eight bytes. -/
def divideDown (x : Float) (scale : Nat) : Nat → Float
  | 0 => 0
  | steps + 1 =>
    if scale ≤ 308 then x / powerOfTen scale
    else divideDown (x / powerOfTen 308) (scale - 308) steps

/-- The number `significand · 10 ^ scale`, if it is not too large. -/
def scaled? (significand : Nat) (scale : Int) : Option Float :=
  let x := (UInt64.ofNat significand).toFloat
  if scale < 0 then some (divideDown x scale.natAbs 4)
  else if scale ≤ 308 then
    let y := x * powerOfTen scale.natAbs
    if y.isInf then none else some y
  else if significand = 0 then some 0 else none

/-- The greatest exponent that is read. -/
def maxExponent : Nat := 0x7FFFFFFF

namespace Reader

/-- The number with its sign. -/
def signed (isNegative : Bool) (x : Float) : Value :=
  .float (if isNegative then -x else x)

/-- The number `significand · 10 ^ scale` with its sign. -/
def scaledNumber (isNegative : Bool) (significand : Nat) (scale : Int) : Reader Value :=
  match scaled? significand scale with
  | some x => return signed isNegative x
  | none => failHere .numberRange

/-- The exponent of a number, from its letter on. -/
def exponent (isNegative : Bool) (significand : Nat) (scale : Int) : Reader Value := do
  skip
  let down ← match ← peek? with
    | some '+' => do skip; pure false
    | some '-' => do skip; pure true
    | _ => pure false
  match ← next? with
  | none => failHere .endInValue
  | some c =>
    if !c.isDigit then failHere .badNumber
    let digits ← takeWhile Char.isDigit
    let value := decimalValue (c :: digits)
    if maxExponent < value then
      if significand ≠ 0 && !down then failHere .numberRange
      return signed isNegative 0
    scaledNumber isNegative significand (if down then scale - value else scale + value)

/-- An exponent if there is one. -/
def maybeExponent (isNegative : Bool) (significand : Nat) (scale : Int) : Reader Value := do
  match ← peek? with
  | some 'e' | some 'E' => exponent isNegative significand scale
  | _ => scaledNumber isNegative significand scale

/-- The fraction of a number, from its point on. -/
def fraction (isNegative : Bool) (significand : Nat) (scale : Int) : Reader Value := do
  skip
  let digits ← takeWhile Char.isDigit
  if digits.isEmpty then
    if (← peek?).isNone then failHere .endInValue else failNext .badNumber
  let (value, dropped) := gather significand digits
  maybeExponent isNegative value (scale - (digits.length - dropped.length : Nat))

/-- What follows the whole part of a number: `dropped` digits of it were too many. -/
def afterWhole (isNegative : Bool) (significand dropped : Nat) : Reader Value := do
  match ← peek? with
  | some '.' => fraction isNegative significand dropped
  | some 'e' | some 'E' => exponent isNegative significand dropped
  | _ =>
    if dropped ≠ 0 then scaledNumber isNegative significand dropped
    else if !isNegative then return .natural significand
    else if significand = 0 || maxSigned + 1 < significand then
      return signed true (UInt64.ofNat significand).toFloat
    else return .integer (-significand)

/-- A number after its sign. -/
def number (isNegative : Bool) : Reader Value := do
  match ← next? with
  | none => failHere .endInValue
  | some '0' =>
    if (← peek?).any Char.isDigit then failNext .badNumber
    afterWhole isNegative 0 0
  | some c =>
    if !c.isDigit then failHere .badNumber
    let digits ← takeWhile Char.isDigit
    let (value, dropped) := gather (digitValue c) digits
    afterWhole isNegative value dropped.length

/-- Passes over an exponent, from its letter on. -/
def skipExponent : Reader Unit := do
  skip
  match ← peek? with
  | some '+' | some '-' => skip
  | _ => pure ()
  if !(← next?).any Char.isDigit then failHere .badNumber
  let _ ← takeWhile Char.isDigit

/-- Passes over a number after its sign. -/
def skipNumber : Reader Unit := do
  match ← next? with
  | some '0' => if (← peek?).any Char.isDigit then failNext .badNumber
  | c =>
    if !c.any Char.isDigit then failHere .badNumber
    let _ ← takeWhile Char.isDigit
  if (← peek?) = some '.' then
    skip
    if (← takeWhile Char.isDigit).isEmpty then failNext .badNumber
  match ← peek? with
  | some 'e' | some 'E' => skipExponent
  | _ => pure ()

end Reader

end Scaffold.Json

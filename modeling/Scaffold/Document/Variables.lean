/-
Documents of variables and of rules.

* `readVariables` reads a flat table whose values are texts, numbers or truth
  values;
* `readRules` reads a table of rules.
-/
import Scaffold.Decimal.Shortest
import Scaffold.Document.Format
import Scaffold.Json.Typed
import Scaffold.Rule

namespace Scaffold

open Json Document Text

/-- The text that a variable has for a value. A whole number of more than eight
bytes is rounded like any number with a fraction. -/
def scalarText? : Value → Option String
  | .bool b => some (if b then "true" else "false")
  | .natural n =>
    if n ≤ maxSigned then some (String.ofList (digits n))
    else some (String.ofList (Decimal.positional (UInt64.ofNat n).toFloat))
  | .integer i => some (String.ofList (integerDigits i))
  | .float x => some (String.ofList (Decimal.positional x))
  | .text s => some s
  | _ => none

/-- A variable's value inside a table. -/
def Json.Reader.scalarText : Reader String := do
  let v ← Reader.valueWithin (maxDepth - 1)
  match scalarText? v with
  | some s => return s
  | none => Reader.failUnplaced (.noAlternative "Scalar")

/-- Reads variables. Of two members with one name the last one counts. -/
def readVariables (format : Format) (text : String) :
    Except Document.Fault (Dictionary String String) :=
  match format with
  | .toml => readToml (tableOf scalarText?) text
  | .json => (readJson (Reader.table Reader.scalarText) text).map Dictionary.ofList

namespace Rule

/-- A rule while its parts are read: each part that was given, also as `null`. -/
structure Draft where
  required : Option Bool := none
  minLength : Option (Option Nat) := none
  maxLength : Option (Option Nat) := none
  pattern : Option (Option String) := none

/-- The rule of the parts that were given. -/
def Draft.rule (d : Draft) : Rule :=
  ⟨d.required.getD false, d.minLength.getD none, d.maxLength.getD none, d.pattern.getD none⟩

/-- Reads a part of a rule. -/
def readPart (name : String) (d : Draft) : Reader Draft := do
  match name with
  | "required" => return { d with required := ← Reader.part "required" d.required Reader.boolean }
  | "minLength" | "min_length" =>
    return { d with minLength := ← Reader.part "minLength" d.minLength (Reader.orNull Reader.size) }
  | "maxLength" | "max_length" =>
    return { d with maxLength := ← Reader.part "maxLength" d.maxLength (Reader.orNull Reader.size) }
  | "pattern" =>
    return { d with
      pattern := ← Reader.part "pattern" d.pattern (Reader.orNull (Reader.textOf "a string")) }
  | _ =>
    Reader.unknownPart
    return d

/-- Reads the parts of a rule in order; later ones may be missing. -/
def readInOrder : Reader Rule := do
  let required ← Reader.nextPart true Reader.boolean
  if required.isNone then return {}
  let minLength ← Reader.nextPart false (Reader.orNull Reader.size)
  if minLength.isNone then return Draft.rule { required }
  let maxLength ← Reader.nextPart false (Reader.orNull Reader.size)
  if maxLength.isNone then return Draft.rule { required, minLength }
  let pattern ← Reader.nextPart false (Reader.orNull (Reader.textOf "a string"))
  return Draft.rule { required, minLength, maxLength, pattern }

/-- Reads a rule. -/
def reader : Reader Rule :=
  Reader.record "struct ValidationRule" {} readPart (fun d => return d.rule) readInOrder

/-- A natural number of eight bytes. -/
def size? : Value → Option Nat
  | .natural n => some n
  | .integer i => if 0 ≤ i then some i.toNat else none
  | _ => none

/-- The rule of a value. -/
def ofValue? (v : Value) : Option Rule := do
  match ← parts? [["required"], ["minLength", "min_length"], ["maxLength", "max_length"],
      ["pattern"]] v with
  | [required, minLength, maxLength, pattern] =>
    return ⟨← orDefault false Value.bool? required, ← orNull size? minLength,
      ← orNull size? maxLength, ← orNull Value.text? pattern⟩
  | _ => none

/-- The value of a rule. -/
def toValue (r : Rule) : Value :=
  .object <| ("required", .bool r.required)
    :: Value.optional "minLength" (r.minLength.map .natural)
    ++ Value.optional "maxLength" (r.maxLength.map .natural)
    ++ Value.optional "pattern" (r.pattern.map .text)

end Rule

/-- Reads rules by the names of their variables. -/
def readRules (format : Format) (text : String) :
    Except Document.Fault (Dictionary String Rule) :=
  match format with
  | .toml => readToml (tableOf Rule.ofValue?) text
  | .json => (readJson (Reader.table Rule.reader) text).map Dictionary.ofList

end Scaffold

/-
Writing values.

* `Value.compact` writes a value without spaces;
* `Value.pretty` writes every item and member on a line of its own, indented by
  two spaces a level. Empty arrays and objects stay on one line.
-/
import Scaffold.Decimal.Shortest
import Scaffold.Json.Quoted
import Scaffold.Json.Value

namespace Scaffold.Json

open Text

/-- A number that is not whole; what is no number is written as `null`. -/
def floatText (x : Float) : List Char :=
  match Decimal.magnitude x with
  | (_, .infinite) | (_, .notANumber) => "null".toList
  | _ => Decimal.scientific x

namespace Value

mutual

/-- A value without spaces. -/
def compactChars : Value → List Char
  | null => "null".toList
  | bool b => (if b then "true" else "false").toList
  | natural n => digits n
  | integer i => integerDigits i
  | float x => floatText x
  | text s => quoted s.toList
  | array items => '[' :: compactItems true items
  | object members => '{' :: compactMembers true members

/-- Items up to their closing bracket. -/
def compactItems (isFirst : Bool) : List Value → List Char
  | [] => [']']
  | v :: rest =>
    (if isFirst then [] else [',']) ++ compactChars v ++ compactItems false rest

/-- Members up to their closing brace. -/
def compactMembers (isFirst : Bool) : List (String × Value) → List Char
  | [] => ['}']
  | (name, v) :: rest =>
    (if isFirst then [] else [',']) ++ quoted name.toList ++ ':' :: compactChars v
      ++ compactMembers false rest

end

/-- A line end, and the spaces in front of a line at a level. -/
def newLine (level : Nat) : List Char :=
  '\n' :: List.replicate (2 * level) ' '

mutual

/-- A value over several lines; its own lines begin at a level. -/
def prettyChars (level : Nat) : Value → List Char
  | null => "null".toList
  | bool b => (if b then "true" else "false").toList
  | natural n => digits n
  | integer i => integerDigits i
  | float x => floatText x
  | text s => quoted s.toList
  | array [] => "[]".toList
  | array (v :: rest) =>
    '[' :: newLine (level + 1) ++ prettyChars (level + 1) v ++ prettyItems level rest
  | object [] => "\x7b\x7d".toList
  | object ((name, v) :: rest) =>
    '{' :: newLine (level + 1) ++ quoted name.toList ++ ": ".toList
      ++ prettyChars (level + 1) v ++ prettyMembers level rest

/-- Further items, up to the closing bracket. -/
def prettyItems (level : Nat) : List Value → List Char
  | [] => newLine level ++ [']']
  | v :: rest =>
    ',' :: newLine (level + 1) ++ prettyChars (level + 1) v ++ prettyItems level rest

/-- Further members, up to the closing brace. -/
def prettyMembers (level : Nat) : List (String × Value) → List Char
  | [] => newLine level ++ ['}']
  | (name, v) :: rest =>
    ',' :: newLine (level + 1) ++ quoted name.toList ++ ": ".toList
      ++ prettyChars (level + 1) v ++ prettyMembers level rest

end

/-- A value without spaces. -/
def compact (v : Value) : String :=
  String.ofList v.compactChars

/-- A value over several lines. -/
def pretty (v : Value) : String :=
  String.ofList (v.prettyChars 0)

end Value

end Scaffold.Json

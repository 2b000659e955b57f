/-
Reading values of a known kind.

Each reader of this module asks for one kind of value, and finds a fault in a
value of another kind. `Reader.record` reads a value with named parts, which may
also be given in order as an array.
-/
import Scaffold.Decimal.Shortest
import Scaffold.Json.Reader
import Scaffold.Text.Literal

namespace Scaffold.Json

open Text

/-- How a value is named in a fault. -/
def Value.shown : Value → String
  | .null => "null"
  | .bool b => s!"boolean `{b}`"
  | .natural n => "integer `" ++ String.ofList (digits n) ++ "`"
  | .integer i => "integer `" ++ String.ofList (integerDigits i) ++ "`"
  | .float x => "floating point `" ++ String.ofList (Decimal.scientific x) ++ "`"
  | .text s => "string " ++ String.ofList (literal s.toList)
  | .array _ => "sequence"
  | .object _ => "map"

namespace Reader

/-- The fault of a value of a wrong kind, given its first character. The value is
taken, unless it is an array or an object. -/
def mismatch {α : Type} (expected : String) : Char → Reader α
  | '[' => failUnplaced (.wrongType (Value.array []).shown expected)
  | '\x7b' => failUnplaced (.wrongType (Value.object []).shown expected)
  | c => do
    let v ← scalar c
    failUnplaced (.wrongType v.shown expected)

/-- The first character of a value, which stays. -/
def firstChar : Reader Char := do
  match ← peekPastSpace? with
  | some c => return c
  | none => failNext .endInValue

/-- A text. -/
def textOf (expected : String) : Reader String :=
  placed do
    match ← firstChar with
    | '"' =>
      skip
      quotedRest
    | c => mismatch expected c

/-- A truth value. -/
def boolean : Reader Bool :=
  placed do
    match ← firstChar with
    | 't' =>
      wholeWord "rue"
      return true
    | 'f' =>
      wholeWord "alse"
      return false
    | c => mismatch "a boolean" c

/-- A natural number of eight bytes. -/
def size : Reader Nat :=
  placed do
    let c ← firstChar
    let v ← if c = '-' then do skip; number true
      else if c.isDigit then number false
      else mismatch "usize" c
    match v with
    | .natural n => return n
    | .integer _ => failUnplaced (.wrongValue v.shown "usize")
    | _ => failUnplaced (.wrongType v.shown "usize")

/-- A value that may be `null`. -/
def orNull {α : Type} (r : Reader α) : Reader (Option α) := do
  match ← peekPastSpace? with
  | some 'n' =>
    wholeWord "ull"
    return none
  | _ => some <$> r

/-- The value `null`. -/
def nothing : Reader Unit :=
  placed do
    match ← firstChar with
    | 'n' => wholeWord "ull"
    | c => mismatch "unit" c

/-- One of the given choices, by its name, or as the only member of an object
with the value `null`. -/
def choice {α : Type} (choices : List (String × α)) : Reader α := do
  match ← peekPastSpace? with
  | none => failNext .endInValue
  | some '"' => chosen
  | some '\x7b' =>
    skip
    let a ← chosen
    colon
    nothing
    match ← peekPastSpace? with
    | some '\x7d' =>
      skip
      return a
    | some _ => failHere .expectedValue
    | none => failHere .endInObject
  | some _ => failNext .expectedValue
where
  /-- The choice with the name that comes next. -/
  chosen : Reader α :=
    placed do
      let name ← textOf "variant identifier"
      match choices.find? fun c => c.1 == name with
      | some c => return c.2
      | none => failUnplaced (.unknownChoice name (choices.map Prod.fst))

/-- An array. -/
def list {α : Type} (item : Reader α) : Reader (List α) :=
  placed do
    match ← firstChar with
    | '[' => arrayOf item
    | c => mismatch "a sequence" c

/-- An object with members of any name. -/
def table {α : Type} (member : Reader α) : Reader (List (String × α)) :=
  placed do
    match ← firstChar with
    | '\x7b' => objectOf member
    | c => mismatch "a map" c

/-- Members of an object, each added to what was read before it. The reader of a
member begins at its colon. -/
def foldMembers {σ : Type} (member : String → σ → Reader σ) (isFirst : Bool) :
    Nat → σ → Reader σ
  | 0, _ => failHere .endInObject
  | fuel + 1, s => do
    if ← nextName isFirst then
      let name ← quotedRest
      foldMembers member false fuel (← member name s)
    else return s

/-- A value with named parts. An object gives them by name, starting from
`start`; `finish` asks for those that are needed. An array gives them in order. -/
def record {σ α : Type} (expected : String) (start : σ) (member : String → σ → Reader σ)
    (finish : σ → Reader α) (inOrder : Reader α) : Reader α :=
  placed do
    match ← firstChar with
    | '[' =>
      skip
      ending inOrder endArray
    | '\x7b' =>
      skip
      ending (do finish (← foldMembers member true (← fuel) start)) endObject
    | c => mismatch expected c

/-- The value of a part that may be given once. -/
def part {α : Type} (name : String) (given : Option α) (r : Reader α) : Reader (Option α) := do
  if given.isSome then failUnplaced (.repeated name)
  colon
  some <$> r

/-- The value of a part that nobody asks for. -/
def unknownPart : Reader Unit := do
  colon
  ignored

/-- A part that must be given. -/
def needed {α : Type} (name : String) : Option α → Reader α
  | some a => return a
  | none => failUnplaced (.missing name)

/-- The next part of an array that gives the parts in order, if there is one. -/
def nextPart {α : Type} (isFirst : Bool) (r : Reader α) : Reader (Option α) := do
  if ← nextItem isFirst then some <$> r else return none

/-- A part of an array that gives the parts in order, which must be there: `count`
parts stand in front of it. -/
def neededPart {α : Type} (expected : String) (count : Nat) (r : Reader α) : Reader α := do
  match ← nextPart (count == 0) r with
  | some a => return a
  | none => failUnplaced (.wrongLength count expected)

end Reader

end Scaffold.Json

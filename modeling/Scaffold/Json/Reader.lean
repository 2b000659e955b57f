/-
Reading values of any kind.

* `Reader.value` reads a value; arrays and objects nest at most `maxDepth` deep;
* `Reader.ignored` passes over a value without a bound on its depth;
* `Reader.nextItem` and `Reader.nextName` lead through an array and an object.
-/
import Scaffold.Json.Number
import Scaffold.Json.Quoted

namespace Scaffold.Json

/-- One more than the arrays and objects that may be open at a time. -/
def maxDepth : Nat := 128

namespace Reader

/-- The rest of a word whose first letter was seen; the word has the given other
letters. -/
def word : List Char → Reader Unit
  | [] => return ()
  | c :: rest => do
    match ← next? with
    | none => failHere .endInValue
    | some d => if d = c then word rest else failHere .expectedWord

/-- The rest of a word, with its first letter. -/
def wholeWord (rest : String) : Reader Unit := do
  skip
  word rest.toList

/-- Whether an array, whose bracket was taken, goes on. After the first item a
comma leads to the next. -/
def nextItem (isFirst : Bool) : Reader Bool := do
  match ← peekPastSpace? with
  | none => failNext .endInArray
  | some ']' => return false
  | some c =>
    if isFirst then return true
    else if c = ',' then
      skip
      match ← peekPastSpace? with
      | some ']' => failNext .trailingComma
      | some _ => return true
      | none => failNext .endInValue
    else failNext .expectedItemOrEnd

/-- Whether an object, whose brace was taken, goes on. Then its next name was
taken up to its first quotation mark. -/
def nextName (isFirst : Bool) : Reader Bool := do
  match ← peekPastSpace? with
  | none => failNext .endInObject
  | some '\x7d' => return false
  | some c =>
    if isFirst then opened (some c)
    else if c = ',' then
      skip
      opened (← peekPastSpace?)
    else failNext .expectedMemberOrEnd
where
  /-- Takes the quotation mark of a name. -/
  opened : Option Char → Reader Bool
    | some '"' => do
      skip
      return true
    | some '\x7d' => failNext .trailingComma
    | some _ => failNext .nameNotText
    | none => failNext .endInValue

/-- The colon after a name. -/
def colon : Reader Unit := do
  match ← peekPastSpace? with
  | some ':' => skip
  | some _ => failNext .expectedColon
  | none => failNext .endInObject

/-- The end of an array. -/
def endArray : Reader Unit := do
  match ← peekPastSpace? with
  | some ']' => skip
  | some ',' =>
    skip
    if (← peekPastSpace?) = some ']' then failNext .trailingComma else failNext .trailingText
  | some _ => failNext .trailingText
  | none => failNext .endInArray

/-- The end of an object. -/
def endObject : Reader Unit := do
  match ← peekPastSpace? with
  | some '\x7d' => skip
  | some ',' => failNext .trailingComma
  | some _ => failNext .trailingText
  | none => failNext .endInObject

/-- Items of an array, read by `item`, after `done` in reverse. -/
def itemsLoop {α : Type} (item : Reader α) : Nat → List α → Reader (List α)
  | 0, _ => failHere .endInArray
  | fuel + 1, done => do
    if ← nextItem done.isEmpty then
      let a ← item
      itemsLoop item fuel (a :: done)
    else return done.reverse

/-- Members of an object, whose values are read by `member`, after `done` in
reverse. -/
def membersLoop {α : Type} (member : Reader α) : Nat → List (String × α) →
    Reader (List (String × α))
  | 0, _ => failHere .endInObject
  | fuel + 1, done => do
    if ← nextName done.isEmpty then
      let name ← quotedRest
      colon
      let a ← member
      membersLoop member fuel ((name, a) :: done)
    else return done.reverse

/-- An array of items, from its bracket on. -/
def arrayOf {α : Type} (item : Reader α) : Reader (List α) := do
  skip
  ending (do itemsLoop item (← fuel) []) endArray

/-- An object of members, from its brace on. -/
def objectOf {α : Type} (member : Reader α) : Reader (List (String × α)) := do
  skip
  ending (do membersLoop member (← fuel) []) endObject

/-- A value that is no array and no object, given its first character. -/
def scalar : Char → Reader Value
  | 'n' => do
    wholeWord "ull"
    return .null
  | 't' => do
    wholeWord "rue"
    return .bool true
  | 'f' => do
    wholeWord "alse"
    return .bool false
  | '-' => do
    skip
    number true
  | '"' => do
    skip
    return .text (← quotedRest)
  | c => if c.isDigit then number false else failNext .expectedValue

/-- A value. One less than `depth` arrays and objects may be open in it. -/
def valueWithin : Nat → Reader Value
  | 0 => failNext .tooDeep
  | depth + 1 => do
    match ← peekPastSpace? with
    | none => failNext .endInValue
    | some '[' => if depth = 0 then failNext .tooDeep else .array <$> arrayOf (valueWithin depth)
    | some '\x7b' =>
      if depth = 0 then failNext .tooDeep else .object <$> objectOf (valueWithin depth)
    | some c => scalar c

/-- A value of any kind. -/
def value : Reader Value :=
  valueWithin maxDepth

/-! ### Passing over values -/

/-- The brackets of an array or an object. -/
inductive Bracket where
  | square
  | curly
  deriving DecidableEq

/-- Passes over a value that is no array and no object, given its first
character. -/
def skipScalar : Char → Reader Unit
  | 'n' => wholeWord "ull"
  | 't' => wholeWord "rue"
  | 'f' => wholeWord "alse"
  | '-' => do
    skip
    skipNumber
  | '"' => do
    skip
    skipQuotedRest
  | c => if c.isDigit then skipNumber else failNext .expectedValue

/-- Passes over the name of the next member, with its colon. -/
def skipName : Reader Unit := do
  match ← peekPastSpace? with
  | some '"' => skip
  | some _ => failNext .nameNotText
  | none => failNext .endInObject
  skipQuotedRest
  colon

mutual

/-- Passes over a value inside the given brackets, innermost first, and over all
that follows in them. -/
def ignoredValue (opened : List Bracket) : Nat → Reader Unit
  | 0 => failNext .endInValue
  | fuel + 1 => do
    match ← peekPastSpace? with
    | none => failNext .endInValue
    | some '[' =>
      skip
      ignoredRest (.square :: opened) false fuel
    | some '\x7b' =>
      skip
      ignoredRest (.curly :: opened) false fuel
    | some c =>
      skipScalar c
      ignoredRest opened true fuel

/-- Passes over the rest of the given brackets. A comma may come next when a value
stands in front. -/
def ignoredRest (opened : List Bracket) (comma : Bool) : Nat → Reader Unit
  | 0 => failNext .endInValue
  | fuel + 1 => do
    match opened with
    | [] => return ()
    | bracket :: outer =>
      match bracket, ← peekPastSpace? with
      | .square, none => failNext .endInArray
      | .curly, none => failNext .endInObject
      | .square, some ']' =>
        skip
        ignoredRest outer true fuel
      | .curly, some '\x7d' =>
        skip
        ignoredRest outer true fuel
      | b, some c =>
        if comma then
          if c = ',' then skip
          else failNext (if b = .square then .expectedItemOrEnd else .expectedMemberOrEnd)
        if b = .curly then skipName
        ignoredValue opened fuel

end

/-- Passes over a value of any kind. -/
def ignored : Reader Unit := do
  ignoredValue [] (2 * (← fuel))

end Reader

/-- The value that a text writes. -/
def read (text : String) : Except Fault Value :=
  Reader.run Reader.value text

end Scaffold.Json

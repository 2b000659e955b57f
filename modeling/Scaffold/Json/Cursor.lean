/-
Reading text from left to right, with a place in it for every fault.

* `Cursor` is what is left of a text, and the line and column where that starts;
  columns count bytes;
* `Fault` is what can be wrong with a text, by cause, with its place when it is
  known;
* `Reader` is a computation that takes from the front of a cursor.

A fault that a text shows is placed at once. A fault in what a value says is
placed by `placed`, at the cursor where the reader of the enclosing value stops.
-/
import Scaffold.Text.Decimal
import Scaffold.Text.Split

namespace Scaffold.Json

open Text

/-- A line from one, and the bytes in front on that line. -/
structure Place where
  line : Nat
  column : Nat
  deriving Repr, DecidableEq

/-- The place after a character. -/
def Place.after (p : Place) (c : Char) : Place :=
  if c = '\n' then ⟨p.line + 1, 0⟩ else ⟨p.line, p.column + c.utf8Size⟩

/-- The place one byte further. -/
def Place.afterByte (p : Place) (c : Char) : Place :=
  if c = '\n' then ⟨p.line + 1, 0⟩ else ⟨p.line, p.column + 1⟩

/-- The place after the first `n` bytes of a text. -/
def Place.afterBytes (p : Place) (n : Nat) : List Char → Place
  | [] => p
  | c :: rest =>
    if n = 0 then p
    else if n < c.utf8Size then ⟨p.line, p.column + n⟩
    else (p.after c).afterBytes (n - c.utf8Size) rest

/-- What is left of a text, and where that starts. -/
structure Cursor where
  rest : List Char
  place : Place
  deriving Repr, DecidableEq

/-- The start of a text. -/
def Cursor.ofText (text : String) : Cursor :=
  ⟨text.toList, ⟨1, 0⟩⟩

/-- What is wrong with a text, or with what it says. -/
inductive Cause where
  | endInArray
  | endInObject
  | endInText
  | endInValue
  | expectedColon
  | expectedItemOrEnd
  | expectedMemberOrEnd
  | expectedWord
  | expectedValue
  | badEscape
  | badNumber
  | numberRange
  | controlCharacter
  | nameNotText
  | loneSurrogate
  | halfSurrogate
  | trailingComma
  | trailingText
  | tooDeep
  | wrongType (found expected : String)
  | wrongValue (found expected : String)
  | wrongLength (length : Nat) (expected : String)
  | missing (name : String)
  | repeated (name : String)
  | unknownChoice (name : String) (known : List String)
  | noAlternative (name : String)
  deriving Repr, DecidableEq

/-- Names in a row: `a` or `b`, one of `a`, `b`, `c`. -/
def oneOf (names : List String) : String :=
  let quoted := names.map fun n => "`" ++ n ++ "`"
  match quoted with
  | [] => "nothing"
  | [a] => a
  | [a, b] => a ++ " or " ++ b
  | _ => "one of " ++ ", ".intercalate quoted

/-- The text of a cause. -/
def Cause.message : Cause → String
  | endInArray => "EOF while parsing a list"
  | endInObject => "EOF while parsing an object"
  | endInText => "EOF while parsing a string"
  | endInValue => "EOF while parsing a value"
  | expectedColon => "expected `:`"
  | expectedItemOrEnd => "expected `,` or `]`"
  | expectedMemberOrEnd => "expected `,` or `\x7d`"
  | expectedWord => "expected ident"
  | expectedValue => "expected value"
  | badEscape => "invalid escape"
  | badNumber => "invalid number"
  | numberRange => "number out of range"
  | controlCharacter => "control character (\\u0000-\\u001F) found while parsing a string"
  | nameNotText => "key must be a string"
  | loneSurrogate => "lone leading surrogate in hex escape"
  | halfSurrogate => "unexpected end of hex escape"
  | trailingComma => "trailing comma"
  | trailingText => "trailing characters"
  | tooDeep => "recursion limit exceeded"
  | wrongType found expected => "invalid type: " ++ found ++ ", expected " ++ expected
  | wrongValue found expected => "invalid value: " ++ found ++ ", expected " ++ expected
  | wrongLength length expected =>
    "invalid length " ++ toString length ++ ", expected " ++ expected
  | missing name => "missing field `" ++ name ++ "`"
  | repeated name => "duplicate field `" ++ name ++ "`"
  | unknownChoice name known =>
    "unknown variant `" ++ name ++ "`, " ++
      (if known.isEmpty then "there are no variants" else "expected " ++ oneOf known)
  | noAlternative name => "data did not match any variant of untagged enum " ++ name

/-- A cause, and the place of the fault where one is known. -/
structure Fault where
  cause : Cause
  place? : Option Place
  deriving Repr, DecidableEq

/-- The text of a fault. -/
def Fault.message (f : Fault) : String :=
  match f.place? with
  | none => f.cause.message
  | some p => s!"{f.cause.message} at line {p.line} column {p.column}"

/-- Computations that take from the front of a cursor, or find a fault. -/
abbrev Reader := ExceptT Fault (StateM Cursor)

namespace Reader

/-- A fault at the cursor. -/
def failHere {α : Type} (cause : Cause) : Reader α := do
  throw ⟨cause, some (← get).place⟩

/-- A fault at the first byte after the cursor. -/
def failNext {α : Type} (cause : Cause) : Reader α := do
  let c ← get
  throw ⟨cause, some (match c.rest with
    | [] => c.place
    | ch :: _ => c.place.afterByte ch)⟩

/-- A fault in what a value says, with no place yet. -/
def failUnplaced {α : Type} (cause : Cause) : Reader α :=
  throw ⟨cause, none⟩

/-- The next character, which stays. -/
def peek? : Reader (Option Char) := do
  return (← get).rest.head?

/-- Takes the next character. -/
def next? : Reader (Option Char) := do
  match ← get with
  | ⟨[], _⟩ => return none
  | ⟨c :: rest, place⟩ =>
    set (⟨rest, place.after c⟩ : Cursor)
    return some c

/-- Takes the next character and drops it. -/
def skip : Reader Unit := do
  let _ ← next?

/-- Takes the longest start whose characters satisfy `p`. -/
def takeWhile (p : Char → Bool) : Reader (List Char) := do
  let c ← get
  let taken := c.rest.takeWhile p
  set (⟨c.rest.dropWhile p, taken.foldl Place.after c.place⟩ : Cursor)
  return taken

/-- The four characters that may stand between the parts of a value. -/
def isSpace (c : Char) : Bool :=
  c == ' ' || c == '\n' || c == '\t' || c == '\r'

/-- Skips spaces, and shows the next character. -/
def peekPastSpace? : Reader (Option Char) := do
  let _ ← takeWhile isSpace
  peek?

/-- How many characters are left, and one more. -/
def fuel : Reader Nat := do
  return (← get).rest.length + 1

/-- Runs a reader and gives its fault, if it has none yet, the place where the
reader stopped. -/
def placed {α : Type} (r : Reader α) : Reader α := fun c =>
  match r c with
  | (.error ⟨cause, none⟩, c') => (.error ⟨cause, some c'.place⟩, c')
  | result => result

/-- Runs a reader, then the reader of an ending that runs in any case. Of two
faults the first counts. -/
def ending {α : Type} (r : Reader α) (close : Reader Unit) : Reader α := fun c =>
  match r c with
  | (.error e, c') => (.error e, (close c').2)
  | (.ok a, c') => match close c' with
    | (.ok (), c'') => (.ok a, c'')
    | (.error e, c'') => (.error e, c'')

/-- The result of a reader on a whole text, after which only spaces may follow. -/
def run {α : Type} (r : Reader α) (text : String) : Except Fault α :=
  let whole : Reader α := do
    let a ← r
    if (← peekPastSpace?).isSome then failNext .trailingText
    return a
  (whole (Cursor.ofText text)).1

end Reader

end Scaffold.Json

/-
The parts of a TOML text that hold no other values: blanks, comments, strings,
numbers, dates and keys.

A `Reader` takes from the front of a text, or fails. Wherever a text may stand,
its spelling is one of four: a basic or a literal string, on one line or several.
-/
import Scaffold.Calendar.Date
import Scaffold.Condition
import Scaffold.Decimal.Reader
import Scaffold.Json.Value
import Scaffold.Text.Ranges

namespace Scaffold.Toml

open Text Calendar

/-- Computations that take from the front of a text, or fail. -/
abbrev Reader := StateT (List Char) Option

namespace Reader

/-- The next character, which stays. -/
def peek? : Reader (Option Char) := do
  return (← get).head?

/-- Takes the next character. -/
def next : Reader Char := do
  match ← get with
  | [] => failure
  | c :: rest =>
    set rest
    return c

/-- Takes a given text. -/
def expect (text : List Char) : Reader Unit := do
  match after? text (← get) with
  | some rest => set rest
  | none => failure

/-- Takes a given text if it comes next, and says whether it did. -/
def accept (text : List Char) : Reader Bool := do
  match after? text (← get) with
  | some rest =>
    set rest
    return true
  | none => return false

/-- Takes the longest start whose characters satisfy `p`. -/
def takeWhile (p : Char → Bool) : Reader (List Char) := do
  let cs ← get
  set (cs.dropWhile p)
  return cs.takeWhile p

/-- Takes exactly `n` characters that all satisfy `p`. -/
def exactly (n : Nat) (p : Char → Bool) : Reader (List Char) := do
  let cs ← get
  let taken := cs.take n
  if taken.length < n || !taken.all p then failure
  set (cs.drop n)
  return taken

/-! ### Blanks and line ends -/

/-- Skips spaces and tabs. -/
def skipBlanks : Reader Unit := do
  let _ ← takeWhile fun c => c == ' ' || c == '\t'

/-- Characters that may stand in a comment or a literal string of one line. -/
def isPlain (c : Char) : Bool :=
  c == '\t' || (0x20 ≤ c.toNat && c.toNat != 0x7F)

/-- Skips a comment if one comes next. -/
def skipComment : Reader Unit := do
  if ← accept ['#'] then
    let _ ← takeWhile isPlain

/-- Takes a line end if one comes next, and says whether it did. -/
def lineEnd : Reader Bool := do
  if ← accept ['\n'] then return true else accept ['\r', '\n']

/-- Asks for the end of a line, after blanks and a comment. -/
def endOfLine : Reader Unit := do
  skipBlanks
  skipComment
  if (← get).isEmpty then return ()
  if !(← lineEnd) then failure

/-- Skips blanks, comments and line ends. -/
def skipSpace : Nat → Reader Unit
  | 0 => return ()
  | fuel + 1 => do
    skipBlanks
    skipComment
    if ← lineEnd then skipSpace fuel

/-- Skips blanks, comments and line ends as far as they go. -/
def skipAllSpace : Reader Unit := do
  skipSpace ((← get).length + 1)

/-! ### Strings -/

/-- The character of an escape with `n` digits of base sixteen. -/
def codePoint (n : Nat) : Reader Char := do
  let code := hexNumber (← exactly n fun c => (hexValue? c).isSome)
  if code < 0xD800 ∨ (0xDFFF < code ∧ code ≤ 0x10FFFF) then return Char.ofNat code else failure

/-- The character of an escape, after its backslash. -/
def escape : Reader Char := do
  match ← next with
  | 'b' => return '\x08'
  | 't' => return '\t'
  | 'n' => return '\n'
  | 'f' => return '\x0c'
  | 'r' => return '\r'
  | '"' => return '"'
  | '\\' => return '\\'
  | 'u' => codePoint 4
  | 'U' => codePoint 8
  | _ => failure

/-- The rest of a basic string on one line, after `done` in reverse. -/
def basicLoop : Nat → List Char → Reader (List Char)
  | 0, _ => failure
  | fuel + 1, done => do
    match ← next with
    | '"' => return done.reverse
    | '\\' => basicLoop fuel ((← escape) :: done)
    | c => if isPlain c then basicLoop fuel (c :: done) else failure

/-- The quotation marks of a row that belong to a string over several lines, when
the row ends it. -/
def closingMarks (mark : Char) : Reader (Option Nat) := do
  let row := ((← get).takeWhile (· == mark)).length
  if row < 3 then return none
  let row := min row 5
  set ((← get).drop row)
  return some (row - 3)

/-- Whether only blanks stand in front of the next line end. -/
def atLineEnd : Reader Bool := do
  match (← get).dropWhile fun c => c == ' ' || c == '\t' with
  | '\n' :: _ | '\r' :: '\n' :: _ => return true
  | _ => return false

/-- Skips blanks and line ends. -/
def skipLines : Nat → Reader Unit
  | 0 => return ()
  | fuel + 1 => do
    skipBlanks
    if ← lineEnd then skipLines fuel

/-- The rest of a basic string over several lines, after `done` in reverse. A
backslash at the end of a line joins it to the next text. -/
def basicLinesLoop : Nat → List Char → Reader (List Char)
  | 0, _ => failure
  | fuel + 1, done => do
    match ← closingMarks '"' with
    | some n => return done.reverse ++ List.replicate n '"'
    | none =>
      if ← lineEnd then basicLinesLoop fuel ('\n' :: done)
      else match ← next with
        | '\\' =>
          if ← atLineEnd then
            skipLines fuel
            basicLinesLoop fuel done
          else basicLinesLoop fuel ((← escape) :: done)
        | c => if isPlain c then basicLinesLoop fuel (c :: done) else failure

/-- The rest of a literal string over several lines, after `done` in reverse. -/
def literalLinesLoop : Nat → List Char → Reader (List Char)
  | 0, _ => failure
  | fuel + 1, done => do
    match ← closingMarks '\'' with
    | some n => return done.reverse ++ List.replicate n '\''
    | none =>
      if ← lineEnd then literalLinesLoop fuel ('\n' :: done)
      else
        let c ← next
        if isPlain c then literalLinesLoop fuel (c :: done) else failure

/-- A literal string on one line, after its first mark. -/
def literalRest : Reader (List Char) := do
  let cs ← takeWhile fun c => isPlain c && c != '\''
  expect ['\'']
  return cs

/-- A basic string on one line, after its first mark. -/
def basicRest : Reader (List Char) := do
  basicLoop ((← get).length + 1) []

/-- The characters of a string in any spelling. A line end right after three marks
does not belong to the string. -/
def characters : Reader (List Char) := do
  if ← accept ['"', '"', '"'] then
    let _ ← lineEnd
    basicLinesLoop ((← get).length + 1) []
  else if ← accept ['\'', '\'', '\''] then
    let _ ← lineEnd
    literalLinesLoop ((← get).length + 1) []
  else if ← accept ['"'] then basicRest
  else
    expect ['\'']
    literalRest

/-- A string in any spelling. -/
def string : Reader String := do
  return String.ofList (← characters)

/-! ### Keys -/

/-- Characters of a key without quotation marks. -/
def isBare (c : Char) : Bool :=
  c.isAlphanum || c == '_' || c == '-'

/-- One name of a key. -/
def simpleKey : Reader String := do
  match ← peek? with
  | some '"' =>
    expect ['"']
    return String.ofList (← basicRest)
  | some '\'' =>
    expect ['\'']
    return String.ofList (← literalRest)
  | _ =>
    let cs ← takeWhile isBare
    if cs.isEmpty then failure
    return String.ofList cs

/-- Further names of a key with points, after `done` in reverse. -/
def keyLoop : Nat → List String → Reader (List String)
  | 0, _ => failure
  | fuel + 1, done => do
    skipBlanks
    if ← accept ['.'] then
      skipBlanks
      keyLoop fuel ((← simpleKey) :: done)
    else return done.reverse

/-- A key: one or more names with points between them. -/
def key : Reader (List String) := do
  skipBlanks
  keyLoop ((← get).length + 1) [← simpleKey]

end Reader

/-! ### Numbers and dates -/

/-- The digits of a number, in which single underscores may stand between two
digits. -/
def joinedDigits? (isDigit : Char → Bool) (cs : List Char) : Option (List Char) :=
  let groups := splitOn '_' cs
  if groups.all fun g => !g.isEmpty && g.all isDigit then some groups.flatten else none

/-- The value of a whole number: texts of more than eight bytes are refused. -/
def wholeNumber? (i : Int) : Option Json.Value :=
  if -(maxSigned + 1 : Nat) ≤ i ∧ i ≤ maxSigned then some (.integer i)
  else if 0 ≤ i ∧ i ≤ maxUnsigned then some (.natural i.toNat)
  else none

/-- The digits and the base of a whole number with a base in front. -/
def based? (cs : List Char) : Option Nat :=
  match cs with
  | '0' :: 'x' :: rest =>
    (joinedDigits? (fun c => (hexValue? c).isSome) rest).map hexNumber
  | '0' :: 'o' :: rest =>
    (joinedDigits? (fun c => '0' ≤ c && c ≤ '7') rest).map fun ds =>
      ds.foldl (fun n c => 8 * n + digitValue c) 0
  | '0' :: 'b' :: rest =>
    (joinedDigits? (fun c => c == '0' || c == '1') rest).map fun ds =>
      ds.foldl (fun n c => 2 * n + digitValue c) 0
  | _ => none

/-- The digits of a number in base ten, without a needless zero in front. -/
def decimalDigits? (cs : List Char) : Option (List Char) :=
  (joinedDigits? Char.isDigit cs).filter fun ds => ds.length = 1 || ds.head? != some '0'

/-- The sign of a number, and what follows it. -/
def splitSign : List Char → Bool × List Char
  | '-' :: rest => (true, rest)
  | '+' :: rest => (false, rest)
  | cs => (false, cs)

/-- The exponent of a number, after its letter. -/
def exponent? (cs : List Char) : Option Int :=
  let (down, body) := splitSign cs
  (joinedDigits? Char.isDigit body).map fun ds =>
    if down then -(decimalValue ds : Int) else decimalValue ds

/-- A number with a fraction or an exponent, sign apart. -/
def unsignedFloat? (cs : List Char) : Option Float := do
  let isMark := fun c => c == 'e' || c == 'E'
  let front := cs.takeWhile (!isMark ·)
  let exponent ← match cs.dropWhile (!isMark ·) with
    | [] => some 0
    | _ :: rest => exponent? rest
  let (whole, places) ← match splitOnce '.' front with
    | none => if front.length = cs.length then none else some (front, [])
    | some (whole, places) => (joinedDigits? Char.isDigit places).map fun ds => (whole, ds)
  let whole ← decimalDigits? whole
  let mantissa := decimalValue (whole ++ places)
  let scale := exponent - places.length
  some (Decimal.ofScale mantissa scale)

/-- A number with a sign, a fraction, an exponent, or a name. -/
def float? (cs : List Char) : Option Float :=
  let (isNegative, body) := splitSign cs
  let x? : Option Float :=
    if body = "inf".toList then some (1 / 0)
    else if body = "nan".toList then some (0 / 0)
    else unsignedFloat? body
  x?.map fun x => if isNegative then -x else x

/-- A number of any kind. -/
def number? (cs : List Char) : Option Json.Value :=
  match based? cs with
  | some n => wholeNumber? n
  | none =>
    let (isNegative, body) := splitSign cs
    match decimalDigits? body with
    | some ds =>
      wholeNumber? (if isNegative then -(decimalValue ds : Int) else decimalValue ds)
    | none => (float? cs).map .float

/-- A number of two digits up to a bound. -/
def twoDigits? (low high : Nat) : List Char → Option (List Char)
  | a :: b :: rest =>
    if a.isDigit && b.isDigit && low ≤ decimalValue [a, b] && decimalValue [a, b] ≤ high then
      some rest
    else none
  | _ => none

/-- What follows a day. -/
def afterDate? (cs : List Char) : Option (List Char) :=
  match cs with
  | a :: b :: c :: d :: '-' :: e :: f :: '-' :: g :: h :: rest =>
    if [a, b, c, d, e, f, g, h].all Char.isDigit
        && isDate (decimalValue [a, b, c, d]) (decimalValue [e, f]) (decimalValue [g, h]) then
      some rest
    else none
  | _ => none

/-- What follows a time of day. -/
def afterTime? (cs : List Char) : Option (List Char) := do
  let cs ← after? [':'] (← twoDigits? 0 23 cs)
  let cs ← after? [':'] (← twoDigits? 0 59 cs)
  let cs ← twoDigits? 0 60 cs
  match cs with
  | '.' :: rest =>
    if rest.head?.any Char.isDigit then some (rest.dropWhile Char.isDigit) else none
  | _ => some cs

/-- What follows the distance from the universal time. -/
def afterOffset? : List Char → Option (List Char)
  | 'Z' :: rest | 'z' :: rest => some rest
  | '+' :: rest | '-' :: rest => do
    twoDigits? 0 59 (← after? [':'] (← twoDigits? 0 23 rest))
  | _ => none

/-- Whether a text is a day, a time, or both. -/
def isDateTime (cs : List Char) : Bool :=
  match afterDate? cs with
  | some [] => true
  | some (c :: rest) =>
    (c == 'T' || c == 't' || c == ' ') &&
      match afterTime? rest with
      | some [] => true
      | some tail => afterOffset? tail == some []
      | none => false
  | none => afterTime? cs == some []

/-- The only name of the object that a day or a time is given as. -/
def dateTimeName : String := "$__toml_private_datetime"

/-- A day or a time, as an object with its text. -/
def dateTime (cs : List Char) : Json.Value :=
  .object [(dateTimeName, .text (String.ofList cs))]

/-- Characters of a number, a date or a word. -/
def isAtom (c : Char) : Bool :=
  c.isAlphanum || c == '_' || c == '-' || c == '+' || c == '.' || c == ':'

/-- A day is followed by a time after one space, if digits come after the space. -/
def atomOf (cs : List Char) : List Char :=
  let word := cs.takeWhile isAtom
  match afterDate? word, cs.dropWhile isAtom with
  | some [], ' ' :: d :: rest =>
    if d.isDigit then word ++ ' ' :: (d :: rest).takeWhile isAtom else word
  | _, _ => word

/-- A truth value, a number or a date. -/
def Reader.atom : Reader Json.Value := do
  let cs ← get
  let word := atomOf cs
  set (cs.drop word.length)
  if word = "true".toList then return .bool true
  else if word = "false".toList then return .bool false
  else if isDateTime word then return dateTime word
  else match number? word with
    | some v => return v
    | none => failure

end Scaffold.Toml

/-
Quoted text: how characters are written between quotation marks, and read again.

* `escaped` is how one character is written: the quotation mark, the backslash
  and the control characters are escaped, all others stand for themselves;
* `quoted` writes a text with its quotation marks;
* `Reader.quotedRest` reads a text after its first quotation mark;
* `Reader.skipQuotedRest` passes over one, and asks less of its escapes.
-/
import Scaffold.Json.Cursor
import Scaffold.Text.Ranges

namespace Scaffold.Json

open Text

/-! ### Writing -/

/-- A digit of base sixteen. -/
def hexDigit (n : Nat) : Char :=
  (Nat.toDigits 16 n).headD '0'

/-- How a character is written inside quotation marks. -/
def escaped (c : Char) : List Char :=
  if c = '"' then ['\\', '"']
  else if c = '\\' then ['\\', '\\']
  else if c = '\x08' then ['\\', 'b']
  else if c = '\t' then ['\\', 't']
  else if c = '\n' then ['\\', 'n']
  else if c = '\x0c' then ['\\', 'f']
  else if c = '\r' then ['\\', 'r']
  else if c.toNat < 0x20 then
    ['\\', 'u', '0', '0', hexDigit (c.toNat / 16), hexDigit (c.toNat % 16)]
  else [c]

/-- A text in quotation marks. -/
def quoted (cs : List Char) : List Char :=
  '"' :: cs.flatMap escaped ++ ['"']

/-! ### Reading -/

namespace Reader

/-- The character that a letter after a backslash stands for. -/
def simpleEscape? : Char → Option Char
  | '"' => some '"'
  | '\\' => some '\\'
  | '/' => some '/'
  | 'b' => some '\x08'
  | 'f' => some '\x0c'
  | 'n' => some '\n'
  | 'r' => some '\r'
  | 't' => some '\t'
  | _ => none

/-- The number of four digits of base sixteen. Fewer than four bytes are the end
of the text, and four bytes of another kind are a bad escape. -/
def hexEscape : Reader Nat := do
  let c ← get
  match c.rest with
  | a :: b :: d :: e :: rest =>
    match hexValue? a, hexValue? b, hexValue? d, hexValue? e with
    | some a', some b', some d', some e' =>
      set (⟨rest, [a, b, d, e].foldl Place.after c.place⟩ : Cursor)
      return ((a' * 16 + b') * 16 + d') * 16 + e'
    | _, _, _, _ => bad c
  | _ => bad c
where
  /-- The fault of something that is not four digits. -/
  bad (c : Cursor) : Reader Nat :=
    let bytes := c.rest.foldl (fun n d => n + d.utf8Size) 0
    if bytes < 4 then throw ⟨.endInText, some (c.place.afterBytes bytes c.rest)⟩
    else throw ⟨.badEscape, some (c.place.afterBytes 4 c.rest)⟩

/-- Takes a character that the second half of a pair of escapes must have. -/
def pairMark (mark : Char) : Reader Unit := do
  match ← peek? with
  | none => failHere .endInText
  | some c =>
    if c = mark then skip
    else failNext .halfSurrogate

/-- The character of an escape with digits, after its `u`. A character beyond
the first 65536 is written as a pair of escapes. -/
def unicodeEscape : Reader Char := do
  let high ← hexEscape
  if 0xDC00 ≤ high && high ≤ 0xDFFF then failHere .loneSurrogate
  if high < 0xD800 || 0xDBFF < high then return Char.ofNat high
  pairMark '\\'
  pairMark 'u'
  let low ← hexEscape
  if low < 0xDC00 || 0xDFFF < low then failHere .loneSurrogate
  return Char.ofNat ((high - 0xD800) * 0x400 + (low - 0xDC00) + 0x10000)

/-- The character of an escape, after its backslash. -/
def escape : Reader Char := do
  let c ← get
  match c.rest with
  | [] => failHere .endInText
  | 'u' :: _ =>
    skip
    unicodeEscape
  | e :: _ =>
    match simpleEscape? e with
    | some value =>
      skip
      return value
    | none => failNext .badEscape

/-- The rest of a quoted text, after `done` in reverse. The fuel is above the
number of characters that are left. -/
def quotedLoop : Nat → List Char → Reader (List Char)
  | 0, _ => failHere .endInText
  | fuel + 1, done => do
    match ← peek? with
    | none => failHere .endInText
    | some '"' =>
      skip
      return done.reverse
    | some '\\' =>
      skip
      let c ← escape
      quotedLoop fuel (c :: done)
    | some c =>
      if c.toNat < 0x20 then failNext .controlCharacter
      skip
      quotedLoop fuel (c :: done)

/-- The rest of a quoted text, after its first quotation mark. -/
def quotedRest : Reader String := do
  return String.ofList (← quotedLoop (← fuel) [])

/-- Passes over the rest of a quoted text; halves of pairs may stand alone. -/
def skipQuotedLoop : Nat → Reader Unit
  | 0 => failHere .endInText
  | fuel + 1 => do
    match ← peek? with
    | none => failHere .endInText
    | some '"' => skip
    | some '\\' =>
      skip
      match (← get).rest with
      | 'u' :: _ =>
        skip
        let _ ← hexEscape
      | _ =>
        let _ ← escape
      skipQuotedLoop fuel
    | some c =>
      if c.toNat < 0x20 then failNext .controlCharacter
      skip
      skipQuotedLoop fuel

/-- Passes over the rest of a quoted text, after its first quotation mark. -/
def skipQuotedRest : Reader Unit := do
  skipQuotedLoop (← fuel)

end Reader

end Scaffold.Json

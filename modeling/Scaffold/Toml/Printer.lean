/-
Texts as TOML documents write them.

A text stands in double quotes if nothing in it needs an escape, else in single ones
if it holds none, else in three of either kind on lines of its own, and with escapes
if nothing else is left.
-/
import Scaffold.Text.Ranges
import Scaffold.Text.Decimal
import Scaffold.Text.Split

namespace Scaffold.Toml

open Text

/-- The length of the longest row of a character. -/
def longestRow (c : Char) (cs : List Char) : Nat :=
  (cs.foldl (fun (best, now) d =>
    let now := if d = c then now + 1 else 0
    (max best now, now)) (0, 0)).1

/-- Whether a character has to be written by its code. -/
def needsCode (c : Char) : Bool :=
  (c.toNat < 0x20 && c != '\t' && c != '\n') || c.toNat = 0x7F

/-- A character by its code, of four digits. -/
def codeText (c : Char) : List Char :=
  '\\' :: 'u' :: padLeft 4 '0' ((Nat.toDigits 16 c.toNat).map Char.toUpper)

/-- The text of a character between double quotes. -/
def escapedChar (c : Char) : List Char :=
  match c with
  | '"' => ['\\', '"']
  | '\\' => ['\\', '\\']
  | '\t' => ['\\', 't']
  | '\n' => ['\\', 'n']
  | '\r' => ['\\', 'r']
  | '\x08' => ['\\', 'b']
  | '\x0c' => ['\\', 'f']
  | _ => if needsCode c then codeText c else [c]

/-- The text between three double quotes, of which at most two may stand in a row. -/
def escapedLines (row : Nat) : List Char → List Char
  | [] => []
  | '"' :: rest =>
    if row < 2 then '"' :: escapedLines (row + 1) rest else '\\' :: '"' :: escapedLines 0 rest
  | '\n' :: rest => '\n' :: escapedLines 0 rest
  | c :: rest => escapedChar c ++ escapedLines 0 rest

/-- A text as it is written. -/
def quoted (cs : List Char) : List Char :=
  let double := ['"']
  let lines (mark body : List Char) := mark ++ '\n' :: body ++ mark
  let hasCodes := cs.any needsCode
  let hasLines := cs.contains '\n'
  let doubles := longestRow '"' cs
  let singles := longestRow '\'' cs
  let plain := !hasCodes && !cs.contains '\\'
  if plain && doubles = 0 && !hasLines then double ++ cs.flatMap escapedChar ++ double
  else if !hasCodes && singles = 0 && !hasLines then '\'' :: cs ++ ['\'']
  else if plain && doubles ≤ 2 then lines (repeated 3 double) (escapedLines 0 cs)
  else if !hasCodes && singles ≤ 2 then lines (repeated 3 ['\'']) cs
  else if hasLines then lines (repeated 3 double) (escapedLines 0 cs)
  else double ++ cs.flatMap escapedChar ++ double

end Scaffold.Toml

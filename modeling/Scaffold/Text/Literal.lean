/-
Text as a literal: in quotation marks, with escapes for what cannot be seen.

`literal` is used where a message shows a value, so that blanks, control
characters and marks without a letter of their own can be told apart.
-/
import Scaffold.Pattern.Property

namespace Scaffold.Text

open Pattern

/-- Characters that show nothing or combine with the one in front: controls,
formats, unassigned and private ones, separators other than the space, and
marks that extend a letter. -/
def hiddenSet : CharSet :=
  CharSet.union
    (((generalCategory? "c").getD []) ++ categoriesSet ["zl", "zp", "zs"])
    ((binaryProperty? "grext").getD [])

/-- Whether a character can be seen by itself. -/
def isVisible (c : Char) : Bool :=
  c == ' ' || !(CharSet.contains hiddenSet c.toNat)

/-- How a character is written in a literal. -/
def literalChar (c : Char) : List Char :=
  if c = '\x00' then ['\\', '0']
  else if c = '\t' then ['\\', 't']
  else if c = '\r' then ['\\', 'r']
  else if c = '\n' then ['\\', 'n']
  else if c = '"' then ['\\', '"']
  else if c = '\\' then ['\\', '\\']
  else if 0x20 ≤ c.toNat ∧ c.toNat < 0x7F then [c]
  else if isVisible c then [c]
  else ['\\', 'u', '{'] ++ Nat.toDigits 16 c.toNat ++ ['}']

/-- A text as a literal. -/
def literal (cs : List Char) : List Char :=
  '"' :: cs.flatMap literalChar ++ ['"']

end Scaffold.Text

/-
Letters and numerals, by their Unicode properties.
-/
import Scaffold.Text.Letter.Table

namespace Scaffold.Text

/-- The property Alphabetic. -/
def isAlphabetic (c : Char) : Bool :=
  if c.toNat < 0x80 then c.isAlpha else alphabeticRanges.contains c

/-- A decimal digit, a letter numeral or another numeral. -/
def isNumeric (c : Char) : Bool :=
  if c.toNat < 0x80 then c.isDigit else numericRanges.contains c

/-- A letter or a numeral. -/
def isAlphanumeric (c : Char) : Bool :=
  isAlphabetic c || isNumeric c

/-- A letter of ASCII or an underscore: what an identifier may start with. -/
def isIdentStart (c : Char) : Bool :=
  c.isAlpha || c == '_'

/-- A letter or digit of ASCII, or an underscore: what an identifier goes on with. -/
def isIdentRest (c : Char) : Bool :=
  c.isAlphanum || c == '_'

end Scaffold.Text

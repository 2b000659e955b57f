/-
Capital and small letters.

* `upper` and `lower` map a whole text, one character at a time, where a
  character may become several;
* a capital sigma becomes the final small sigma where a word ends;
* the ASCII mappings touch ASCII letters only.
-/
import Scaffold.Text.Case.Table
import Scaffold.Text.Letter

namespace Scaffold.Text

/-- The property Lowercase. -/
def isLowercase (c : Char) : Bool :=
  if c.toNat < 0x80 then c.isLower else lowercaseRanges.contains c

/-- The property Uppercase. -/
def isUppercase (c : Char) : Bool :=
  if c.toNat < 0x80 then c.isUpper else uppercaseRanges.contains c

/-- The image of a character under the first shift that covers it. -/
def shiftBy (shifts : List Shift) (c : Char) : Char :=
  match shifts.findSome? (·.image? c.toNat) with
  | some n => Char.ofNat n
  | none => c

/-- The characters that a character becomes under expansions and shifts. -/
def mapCase (expansions : List (Nat × List Nat)) (shifts : List Shift) (c : Char) :
    List Char :=
  match expansions.lookup c.toNat with
  | some codes => codes.map Char.ofNat
  | none => [shiftBy shifts c]

/-- The capital form of a character. -/
def upperChar (c : Char) : List Char :=
  if c.toNat < 0x80 then [c.toUpper] else mapCase upperExpansions upperShifts c

/-- The small form of a character, away from its neighbours. -/
def lowerChar (c : Char) : List Char :=
  if c.toNat < 0x80 then [c.toLower] else mapCase lowerExpansions lowerShifts c

/-- The text in capital letters. -/
def upper (cs : List Char) : List Char :=
  cs.flatMap upperChar

/-- Whether the first character that is not ignorable for casing is cased. -/
def startsCased (cs : List Char) : Bool :=
  match cs.dropWhile caseIgnorableRanges.contains with
  | [] => false
  | c :: _ => casedRanges.contains c

/-- The text in small letters, where `before` holds the preceding text backwards. -/
def lowerAfter (before : List Char) : List Char → List Char
  | [] => []
  | c :: rest =>
    let small :=
      if c == 'Σ' then
        [if startsCased before && !startsCased rest then 'ς' else 'σ']
      else lowerChar c
    small ++ lowerAfter (c :: before) rest

/-- The text in small letters. -/
def lower (cs : List Char) : List Char :=
  lowerAfter [] cs

/-- The text with its ASCII letters made small. -/
def asciiLower (cs : List Char) : List Char :=
  cs.map Char.toLower

/-- Whether two texts differ in the case of ASCII letters only. -/
def eqIgnoringCase (a b : List Char) : Bool :=
  asciiLower a == asciiLower b

/-- The capital form of a text is that of its parts, joined. -/
theorem upper_append (a b : List Char) : upper (a ++ b) = upper a ++ upper b := by
  simp [upper]

end Scaffold.Text

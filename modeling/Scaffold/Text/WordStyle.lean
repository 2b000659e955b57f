/-
Writing a phrase as one identifier.

* `camel` and `pascal` run the words together and mark each by a capital;
* `kebab` and `snake` put a separator between words and use small letters only.

Characters that are neither letters nor numerals separate words. Letters of
ASCII change case, other letters keep theirs.
-/
import Scaffold.Text.Blank
import Scaffold.Text.Case

namespace Scaffold.Text

/-- Words run together. At a `boundary` the next letter is a capital; a capital
after a letter that was left small begins a word too, where `last` is the letter
that was last written small, as it stood in the text. A numeral ends a word. -/
def runTogether (boundary : Bool) (last : Char) : List Char → List Char
  | [] => []
  | c :: rest =>
    if !isAlphanumeric c then runTogether true last rest
    else if isNumeric c then c :: runTogether true last rest
    else if boundary || (isLowercase last && isUppercase c) then
      c.toUpper :: runTogether false last rest
    else c.toLower :: runTogether false c rest

/-- The text between its first and last letter or numeral. -/
def trimToWords (cs : List Char) : List Char :=
  trimBy (fun c => !isAlphanumeric c) cs

/-- Words run together, the first one starting small: `myVar`. -/
def camel (cs : List Char) : List Char :=
  runTogether false ' ' (trimToWords cs)

/-- Words run together, each starting with a capital: `MyVar`. -/
def pascal (cs : List Char) : List Char :=
  runTogether true ' ' (trimToWords cs)

/-- Whether the character at a position of the whole text is a small letter. -/
def smallAt (whole : Array Char) (position : Nat) : Bool :=
  match whole[position]? with
  | some c => isLowercase c
  | none => false

/-- Small words with a separator between them. A character that is no small
ASCII letter begins a word when a small letter stands one position before or
after it. Positions in `whole` count the bytes of the text already read, so in
a text that is not ASCII the letter consulted lies further on. `fresh` holds at
the start and after a separator. -/
def separated (separator : Char) (whole : Array Char) (offset : Nat) (fresh : Bool) :
    List Char → List Char
  | [] => []
  | c :: rest =>
    let next := offset + c.utf8Size
    if !isAlphanumeric c then
      if fresh then separated separator whole next true rest
      else separator :: separated separator whole next true rest
    else
      let tail := c.toLower :: separated separator whole next false rest
      if !fresh && c == c.toUpper
          && (smallAt whole (offset + 1) || smallAt whole (offset - 1)) then
        separator :: tail
      else tail

/-- The words of a text with a separator between them. -/
def separateWords (separator : Char) (cs : List Char) : List Char :=
  separated separator cs.toArray 0 true (dropEndWhile (fun c => !isAlphanumeric c) cs)

/-- Small words with hyphens: `my-var`. -/
def kebab (cs : List Char) : List Char :=
  separateWords '-' cs

/-- Small words with underscores: `my_var`. -/
def snake (cs : List Char) : List Char :=
  separateWords '_' cs

end Scaffold.Text

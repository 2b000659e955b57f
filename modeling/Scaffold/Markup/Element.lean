/-
Elements and attributes in loosely written markup.

* `attributes` finds the pairs `key = value` of a text; a value stands in double
  or single quotes, or is a word of its own;
* `tagAt?` reads an opening tag;
* `elements` finds the elements of a name with the text inside them.
-/
import Scaffold.Pattern.Property
import Scaffold.Text.Blank
import Scaffold.Text.Case
import Scaffold.Text.Scan

namespace Scaffold.Markup

open Text

/-- A letter, mark, digit or connector of any script. -/
def isWordChar (c : Char) : Bool :=
  if c.toNat < 0x80 then c.isAlphanum || c == '_' else Pattern.wordSet.contains c.toNat

/-! ### Attributes -/

/-- A character of a value without quotes. -/
def isBareChar (c : Char) : Bool :=
  !isBlank c && c != '"' && c != '\'' && c != '/' && c != '>'

/-- A value in quotes or bare, and what follows it. -/
def valueAt? (cs : List Char) : Option (List Char × List Char) :=
  match cs with
  | '"' :: rest => splitOnce '"' rest
  | '\'' :: rest => splitOnce '\'' rest
  | cs =>
    match cs.takeWhile isBareChar with
    | [] => none
    | value => some (value, cs.dropWhile isBareChar)

/-- The key, in small letters of ASCII, and the value of an attribute, and what
follows it. -/
def attributeAt? (cs : List Char) : Option ((List Char × List Char) × List Char) :=
  if !cs.head?.any Char.isAlpha then none
  else
    let isKeyChar := fun c => isWordChar c || c == '-'
    match trimStart (cs.dropWhile isKeyChar) with
    | '=' :: rest =>
      (valueAt? (trimStart rest)).map fun (value, tail) =>
        ((asciiLower (cs.takeWhile isKeyChar), value), tail)
    | _ => none

/-- The attributes of a text, from left to right. -/
def attributes (cs : List Char) : List (List Char × List Char) :=
  findAll attributeAt? cs

/-- The first value of a key. -/
def valueOf? (key : String) (pairs : List (List Char × List Char)) : Option (List Char) :=
  pairs.lookup key.toList

/-! ### Elements -/

/-- An opening tag after its name: the text of its attributes, and whether it closes
itself. -/
structure Tag where
  attributes : List Char
  isClosed : Bool

/-- The opening tag of a name, and what follows it. -/
def tagAt? (name cs : List Char) : Option (Tag × List Char) :=
  match after? ('<' :: name) cs with
  | none => none
  | some body =>
    if body.head?.any isWordChar then none
    else (splitOnce '>' body).map fun (inside, rest) =>
      match before? ['/'] inside with
      | some inside => (⟨inside, true⟩, rest)
      | none => (⟨inside, false⟩, rest)

/-- The text of an element that was opened, up to its closing tag, and what follows
it; nothing is inside a tag that closes itself. -/
def bodyAt? (name : List Char) (tag : Tag) (cs : List Char) :
    Option (List Char × List Char) :=
  if tag.isClosed then some ([], cs)
  else cutAt? ('<' :: '/' :: name ++ ['>']) cs

/-- The elements of a name: their tags and the text inside them. -/
def elements (name : String) (cs : List Char) : List (Tag × List Char) :=
  findAll (fun cs => do
    let (tag, rest) ← tagAt? name.toList cs
    let (body, rest) ← bodyAt? name.toList tag rest
    return ((tag, body), rest)) cs

/-- The opening tags of a name. -/
def tags (name : String) (cs : List Char) : List Tag :=
  findAll (tagAt? name.toList) cs

/-- The texts between the tags of a name without attributes. -/
def plainBodies (name : String) (cs : List Char) : List (List Char) :=
  findAll (fun cs => do
    let rest ← after? ('<' :: name.toList ++ ['>']) cs
    cutAt? ("</".toList ++ name.toList ++ ['>']) rest) cs

end Scaffold.Markup

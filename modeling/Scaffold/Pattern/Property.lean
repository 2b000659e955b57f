/-
Named sets of characters: the classes of a single letter, the bracketed ASCII
classes, and the Unicode properties by any of their names.
-/
import Scaffold.Pattern.CharSet
import Scaffold.Pattern.Property.Binary
import Scaffold.Pattern.Property.Category
import Scaffold.Pattern.Property.Script
import Scaffold.Text.Case
import Scaffold.Text.Split

namespace Scaffold.Pattern

open Text

/-- The entry of a table that has a given name. -/
def namedSet? (table : List (List String × String)) (name : String) : Option CharSet :=
  (table.find? fun e => e.1.contains name).map fun e => CharSet.ofHex e.2

/-- The characters of one general category. -/
def categorySet (name : String) : CharSet :=
  (namedSet? categoryTable name).getD []

/-- The general categories that a group of categories consists of. -/
def categoryGroups : List (List String × List String) :=
  [(["lc", "casedletter"], ["lu", "ll", "lt"]),
   (["l", "letter"], ["lu", "ll", "lt", "lm", "lo"]),
   (["m", "mark", "combiningmark"], ["mn", "mc", "me"]),
   (["n", "number"], ["nd", "nl", "no"]),
   (["p", "punctuation", "punct"], ["pc", "pd", "ps", "pe", "pi", "pf", "po"]),
   (["s", "symbol"], ["sm", "sc", "sk", "so"]),
   (["z", "separator"], ["zs", "zl", "zp"])]

/-- The characters of several categories. -/
def categoriesSet (names : List String) : CharSet :=
  CharSet.normalize (names.flatMap categorySet)

/-- The characters that have a category. -/
def assignedSet : CharSet :=
  CharSet.normalize (categoryTable.flatMap fun e => CharSet.ofHex e.2)

/-- The characters of a general category, a group of categories, or one of the
sets that are named like a category. -/
def generalCategory? (name : String) : Option CharSet :=
  match name with
  | "any" => some [(0, CharSet.maxCode)]
  | "ascii" => some [(0, 0x7F)]
  | "assigned" => some assignedSet
  | "cn" | "unassigned" => some (CharSet.complement CharSet.maxCode assignedSet)
  | "c" | "other" =>
    some (CharSet.union (CharSet.complement CharSet.maxCode assignedSet)
      (categoriesSet ["cc", "cf", "co", "cs"]))
  | _ =>
    match categoryGroups.find? fun e => e.1.contains name with
    | some e => some (categoriesSet e.2)
    | none => namedSet? categoryTable name

/-- The characters with a property that holds or does not hold. -/
def binaryProperty? (name : String) : Option CharSet :=
  match name with
  | "alpha" | "alphabetic" => some (CharSet.ofRanges alphabeticRanges)
  | "lower" | "lowercase" => some (CharSet.ofRanges lowercaseRanges)
  | "upper" | "uppercase" => some (CharSet.ofRanges uppercaseRanges)
  | "whitespace" | "wspace" | "space" =>
    some (CharSet.ofHex "9-D 20 85 A0 1680 2000-200A 2028-2029 202F 205F 3000")
  | _ => namedSet? binaryTable name

/-- A property name in small letters without spaces, hyphens and underscores, and
without `is` in front of it. -/
def normalizedName (name : List Char) : String :=
  let bare := name.filter fun c => c != ' ' && c != '_' && c != '-'
  let small := asciiLower (bare.filter fun c => c.toNat < 0x80)
  match after? "is".toList small with
  | some rest => if rest = ['c'] then String.ofList small else String.ofList rest
  | none => String.ofList small

/-- The characters with a property given by one name. -/
def property? (name : List Char) : Option CharSet :=
  let name := normalizedName name
  if name = "cf" || name = "sc" || name = "lc" then generalCategory? name
  else (binaryProperty? name).or <| (generalCategory? name).or (namedSet? scriptTable name)

/-- The characters with a property given by the name of a kind and of a value. -/
def propertyValue? (kind value : List Char) : Option CharSet :=
  match normalizedName kind with
  | "gc" | "generalcategory" => generalCategory? (normalizedName value)
  | "sc" | "script" | "scx" | "scriptextensions" => namedSet? scriptTable (normalizedName value)
  | _ => none

/-! ### Classes of a single letter -/

/-- Decimal digits. -/
def digitSet : CharSet := categorySet "nd"

/-- Blank characters. -/
def blankSet : CharSet := (binaryProperty? "space").getD []

/-- Letters, marks, decimal digits, connecting punctuation and joiners. -/
def wordSet : CharSet :=
  CharSet.normalize (CharSet.ofRanges alphabeticRanges
    ++ ["mn", "mc", "me", "nd", "pc"].flatMap categorySet ++ [(0x200C, 0x200D)])

/-- The ASCII letters and digits and the underscore. -/
def asciiWordSet : CharSet := CharSet.ofHex "30-39 41-5A 5F 61-7A"

/-- The characters of a bracketed ASCII class. -/
def asciiClass? : String → Option CharSet
  | "alnum" => some (CharSet.ofHex "30-39 41-5A 61-7A")
  | "alpha" => some (CharSet.ofHex "41-5A 61-7A")
  | "ascii" => some (CharSet.ofHex "0-7F")
  | "blank" => some (CharSet.ofHex "9 20")
  | "cntrl" => some (CharSet.ofHex "0-1F 7F")
  | "digit" => some (CharSet.ofHex "30-39")
  | "graph" => some (CharSet.ofHex "21-7E")
  | "lower" => some (CharSet.ofHex "61-7A")
  | "print" => some (CharSet.ofHex "20-7E")
  | "punct" => some (CharSet.ofHex "21-2F 3A-40 5B-60 7B-7E")
  | "space" => some (CharSet.ofHex "9-D 20")
  | "upper" => some (CharSet.ofHex "41-5A")
  | "word" => some asciiWordSet
  | "xdigit" => some (CharSet.ofHex "30-39 41-46 61-66")
  | _ => none

/-- The characters of `d`, `s` or `w` after a backslash. -/
def shorthandClass (unicode : Bool) (letter : Char) : CharSet :=
  match letter, unicode with
  | 'd', true => digitSet
  | 's', true => blankSet
  | 'w', true => wordSet
  | 'd', false => CharSet.ofHex "30-39"
  | 's', false => CharSet.ofHex "9-D 20"
  | _, _ => asciiWordSet

end Scaffold.Pattern

/-
Transforms of variable values.

A transform is written as a name with an optional argument in parentheses.
* `Transform.ofText` reads one; a name that is not known changes nothing;
* `Transform.apply` applies it to a value;
* `pluralize` is the English plural by spelling rules.
-/
import Scaffold.Calendar.Date
import Scaffold.Text.WordStyle

namespace Scaffold

open Calendar Text

/-- What can be done to a value before it is inserted. -/
inductive Transform where
  | upper
  | lower
  | camel
  | pascal
  | kebab
  | snake
  | plural
  | length
  | format (pattern : List Char)
  | keep
  deriving Repr, DecidableEq

/-- The plural of a word: `es` after `s`, `x`, `z`, `ch` and `sh`, `ies` for a `y`
after a character that is no vowel, and `s` after all else. Case is ignored in
the comparison, and the plural ending is small. -/
def pluralize (word : List Char) : List Char :=
  if word.isEmpty then []
  else
    let small := lower word
    if ["s", "x", "z", "ch", "sh"].any fun ending => endsWith ending.toList small then
      word ++ "es".toList
    else match small.reverse with
      | 'y' :: before :: _ =>
        if "aeiou".toList.contains before then word ++ ['s']
        else word.dropLast ++ "ies".toList
      | _ => word ++ ['s']

/-- The pattern that a name such as `iso` stands for; other patterns stand for
themselves, without blanks at their ends. -/
def datePattern (pattern : List Char) : List Char :=
  let bare := trim pattern
  let name := asciiLower bare
  if name = "iso".toList then "YYYY-MM-DD".toList
  else if name = "us".toList then "MM/DD/YYYY".toList
  else if name = "eu".toList then "DD/MM/YYYY".toList
  else bare

/-- The day that a value names: `today` and `now` in any case, or a written date. -/
def dayOf? (today : Date) (value : List Char) : Option Date :=
  let bare := trim value
  let name := asciiLower bare
  if name = "today".toList ∨ name = "now".toList then some today else Date.read? bare

/-- A date value written after a pattern; a value that is no date stays as it is. -/
def formatDate (today : Date) (value pattern : List Char) : List Char :=
  match dayOf? today value with
  | some date => date.render (datePattern pattern)
  | none => value

namespace Transform

/-- Reads a transform. The argument starts after the first opening parenthesis
and loses all closing ones at its end; `format` without argument is `iso`. -/
def ofText (cs : List Char) : Transform :=
  let (name, argument) := match splitOnce '(' cs with
    | some (name, rest) => (name, dropEndWhile (· == ')') rest)
    | none => (cs, "iso".toList)
  match String.ofList (asciiLower name) with
  | "uppercase" | "upper" => .upper
  | "lowercase" | "lower" => .lower
  | "camelcase" | "camel" => .camel
  | "pascalcase" | "pascal" => .pascal
  | "kebab-case" | "kebabcase" | "kebab" => .kebab
  | "snake_case" | "snakecase" | "snake" => .snake
  | "plural" | "pluralize" => .plural
  | "length" | "len" => .length
  | "format" => .format argument
  | _ => .keep

/-- Applies a transform; `today` is the day that a date value may refer to. -/
def apply (today : Date) (value : List Char) : Transform → List Char
  | .upper => Text.upper value
  | .lower => Text.lower value
  | .camel => Text.camel value
  | .pascal => Text.pascal value
  | .kebab => Text.kebab value
  | .snake => Text.snake value
  | .plural => pluralize value
  | .length => digits value.length
  | .format pattern => formatDate today value pattern
  | .keep => value

/-- The steps of a chain: it is cut at every bar that stands outside parentheses,
where `depth` parentheses are open. -/
def splitChain (depth : Nat) : List Char → List (List Char)
  | [] => [[]]
  | c :: rest =>
    if c == '|' && depth == 0 then [] :: splitChain depth rest
    else
      let depth := if c == '(' then depth + 1 else if c == ')' then depth - 1 else depth
      match splitChain depth rest with
      | [] => [[c]]
      | piece :: pieces => (c :: piece) :: pieces

/-- Applies the steps of a chain from left to right. -/
def applyChain (today : Date) (value chain : List Char) : List Char :=
  (splitChain 0 chain).foldl (fun value step => (ofText step).apply today value) value

end Transform

end Scaffold

/-
Patterns for names.

A character of a pattern counts as itself if it stood in quotes. Otherwise a star
stands for any text, a question mark for any character, and brackets for the characters
between them.

* `Wildcard.read` reads a pattern, `Wildcard.accepts` matches a whole text;
* `withoutStart` and `withoutEnd` cut off what a pattern matches.
-/

namespace Scaffold.Shell

/-- A mark of a pattern. -/
inductive Mark where
  | many
  | one
  | char (c : Char)
  | among (isNegated : Bool) (ranges : List (Char × Char))
  deriving Repr, DecidableEq

/-- A pattern for names. -/
abbrev Wildcard := List Mark

/-- A character of a field, and whether it may be a mark of a pattern. -/
abbrev FieldChar := Char × Bool

namespace Wildcard

/-- The classes of characters that have names. -/
def classes : List (List Char × List (Char × Char)) :=
  [("alpha".toList, [('a', 'z'), ('A', 'Z')]), ("digit".toList, [('0', '9')]),
   ("alnum".toList, [('a', 'z'), ('A', 'Z'), ('0', '9')]), ("lower".toList, [('a', 'z')]),
   ("upper".toList, [('A', 'Z')]), ("space".toList, [(' ', ' '), ('\t', '\r')]),
   ("blank".toList, [(' ', ' '), ('\t', '\t')]),
   ("xdigit".toList, [('a', 'f'), ('A', 'F'), ('0', '9')]),
   ("punct".toList, [('!', '/'), (':', '@'), ('[', '\x60'), ('\x7b', '~')])]

/-- The ranges of characters up to a closing bracket, and what follows it. The first
character is never the bracket. -/
def ranges (isFirst : Bool) : List FieldChar → Option (List (Char × Char) × List FieldChar)
  | [] => none
  | ('[', _) :: (':', _) :: rest =>
    let name := (rest.map Prod.fst).takeWhile (· != ':')
    match classes.find? fun entry => entry.1 = name with
    | some (_, found) =>
      (ranges false (rest.drop (name.length + 2))).map fun (more, tail) => (found ++ more, tail)
    | none => none
  | (a, _) :: ('-', true) :: (']', true) :: rest => some ([(a, a), ('-', '-')], rest)
  | (a, active) :: ('-', true) :: (b, _) :: rest =>
    if a == ']' && active && !isFirst then some ([], ('-', true) :: (b, false) :: rest)
    else (ranges false rest).map fun (more, tail) => ((a, b) :: more, tail)
  | (a, active) :: rest =>
    if a == ']' && active && !isFirst then some ([], rest)
    else (ranges false rest).map fun (more, tail) => ((a, a) :: more, tail)
termination_by cs => cs.length
decreasing_by
  all_goals simp_wf
  all_goals omega

/-- The pattern of a field, in at most `bound` steps. -/
def readFrom : Nat → List FieldChar → Wildcard
  | 0, _ | _, [] => []
  | bound + 1, ('*', true) :: rest => .many :: readFrom bound rest
  | bound + 1, ('?', true) :: rest => .one :: readFrom bound rest
  | bound + 1, ('[', true) :: rest =>
    let (isNegated, inner) := match rest with
      | ('!', true) :: inner => (true, inner)
      | inner => (false, inner)
    match ranges true inner with
    | some (found, tail) => .among isNegated found :: readFrom bound tail
    | none => .char '[' :: readFrom bound rest
  | bound + 1, (c, _) :: rest => .char c :: readFrom bound rest

/-- The pattern of a field. -/
def read (field : List FieldChar) : Wildcard :=
  readFrom field.length field

/-- Whether a pattern matches a whole text. -/
def accepts : Wildcard → List Char → Bool
  | [], cs => cs.isEmpty
  | .many :: rest, [] => accepts rest []
  | .many :: rest, c :: cs => accepts rest (c :: cs) || accepts (.many :: rest) cs
  | _ :: _, [] => false
  | .one :: rest, _ :: cs => accepts rest cs
  | .char d :: rest, c :: cs => c == d && accepts rest cs
  | .among isNegated found :: rest, c :: cs =>
    (found.any fun (a, b) => a ≤ c && c ≤ b) != isNegated && accepts rest cs
termination_by marks cs => marks.length + cs.length

/-- Whether a field stands for more than itself. -/
def isNeeded (field : List FieldChar) : Bool :=
  field.any fun (c, active) => active && (c == '*' || c == '?' || c == '[')

/-- A text without the part at its start that a pattern matches. -/
def withoutStart (w : Wildcard) (longest : Bool) (cs : List Char) : List Char :=
  let sizes := List.range (cs.length + 1)
  match (if longest then sizes.reverse else sizes).find? fun n => accepts w (cs.take n) with
  | some n => cs.drop n
  | none => cs

/-- A text without the part at its end that a pattern matches. -/
def withoutEnd (w : Wildcard) (longest : Bool) (cs : List Char) : List Char :=
  let sizes := List.range (cs.length + 1)
  match (if longest then sizes else sizes.reverse).find? fun n => accepts w (cs.drop n) with
  | some n => cs.take n
  | none => cs

end Wildcard

end Scaffold.Shell

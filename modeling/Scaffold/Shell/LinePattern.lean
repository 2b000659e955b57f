/-
Patterns for parts of a line, in a plain spelling and in an extended one.

In the plain spelling the signs of groups, counts and alternatives stand behind a
backslash, in the extended one without it.

* `LinePattern.read?` reads a pattern;
* `LinePattern.find?` is the first place of a line that a pattern matches, taken as
  far as the repetitions in front reach;
* `LinePattern.replace` puts other text in the place of matches.
-/
import Scaffold.Shell.Wildcard
import Scaffold.Text.Decimal
import Scaffold.Text.Letter

namespace Scaffold.Shell

open Text

/-- A pattern for a part of a line. -/
inductive LinePattern where
  | empty
  | among (isNegated : Bool) (ranges : List (Char × Char))
  | sequence (first second : LinePattern)
  | either (first second : LinePattern)
  | repeated (body : LinePattern) (min : Nat) (max : Option Nat)
  | group (number : Nat) (body : LinePattern)
  | again (number : Nat)
  | atStart
  | atEnd
  | atWordEdge
  deriving Repr, Inhabited

/-- A place in a line: what stands in front of it, last character first, what stands
behind it, and what the groups matched on the way. -/
structure Place where
  before : List Char
  rest : List Char
  groups : List (Nat × List Char) := []
  deriving Repr

namespace LinePattern

/-! ### Reading -/

/-- The characters of words. -/
def wordRanges : List (Char × Char) := [('a', 'z'), ('A', 'Z'), ('0', '9'), ('_', '_')]

/-- The characters that are blank. -/
def blankRanges : List (Char × Char) := [(' ', ' '), ('\t', '\r')]

/-- The sign at the start of a text, which a backslash makes one in the plain spelling,
and what follows it. -/
def sign? (isExtended : Bool) : List Char → Option (Char × List Char)
  | '\\' :: c :: rest =>
    if !isExtended && ['(', ')', '\x7b', '\x7d', '|', '+', '?'].contains c then some (c, rest)
    else none
  | c :: rest =>
    if isExtended && ['(', ')', '\x7b', '|', '+', '?'].contains c then some (c, rest) else none
  | [] => none

/-- How often a body is repeated, as a count in braces says, and what follows it. -/
def counts? (isExtended : Bool) (cs : List Char) : Option (Nat × Option Nat × List Char) :=
  let low := cs.takeWhile Char.isDigit
  let rest := cs.dropWhile Char.isDigit
  let (high, rest) := match rest with
    | ',' :: rest => (number? (rest.takeWhile Char.isDigit), rest.dropWhile Char.isDigit)
    | _ => (number? low, rest)
  match isExtended, rest with
  | true, '\x7d' :: rest | false, '\\' :: '\x7d' :: rest =>
    some (decimalValue low, high, rest)
  | _, _ => none

/-- A single mark at the start of a text, and what follows it. -/
def atom? : List Char → Option (LinePattern × List Char)
  | '.' :: rest => some (among true [], rest)
  | '[' :: rest =>
    let (isNegated, rest) := match rest with
      | '^' :: rest => (true, rest)
      | _ => (false, rest)
    (Wildcard.ranges true (rest.map fun c => (c, true))).map fun (found, tail) =>
      (among isNegated found, tail.map Prod.fst)
  | '\\' :: 'w' :: rest => some (among false wordRanges, rest)
  | '\\' :: 'W' :: rest => some (among true wordRanges, rest)
  | '\\' :: 's' :: rest => some (among false blankRanges, rest)
  | '\\' :: 'S' :: rest => some (among true blankRanges, rest)
  | '\\' :: 'b' :: rest => some (atWordEdge, rest)
  | '\\' :: 'n' :: rest => some (among false [('\n', '\n')], rest)
  | '\\' :: 't' :: rest => some (among false [('\t', '\t')], rest)
  | '\\' :: c :: rest =>
    if c.isDigit && c != '0' then some (again (digitValue c), rest)
    else some (among false [(c, c)], rest)
  | c :: rest => some (among false [(c, c)], rest)
  | [] => none

mutual

/-- Alternatives up to the end of their group, with the number of groups read so far. -/
def readEither (isExtended : Bool) : Nat → Nat → List Char →
    Option (LinePattern × Nat × List Char)
  | 0, _, _ => none
  | bound + 1, groups, cs => do
    let (first, groups, rest) ← readSequence isExtended bound groups true cs
    match sign? isExtended rest with
    | some ('|', rest) =>
      let (second, groups, rest) ← readEither isExtended bound groups rest
      return (either first second, groups, rest)
    | _ => return (first, groups, rest)

/-- Marks one after the other. -/
def readSequence (isExtended : Bool) : Nat → Nat → Bool → List Char →
    Option (LinePattern × Nat × List Char)
  | 0, _, _, _ => none
  | bound + 1, groups, isFirst, cs => do
    let sign := sign? isExtended cs
    let isOver := cs.isEmpty || sign.any fun (c, _) => c == '|' || c == ')'
    if isOver then return (empty, groups, cs)
    match cs, sign with
    | '^' :: rest, _ =>
      if isFirst || isExtended then
        let (more, groups, rest) ← readSequence isExtended bound groups true rest
        return (sequence atStart more, groups, rest)
      readRest isExtended bound (among false [('^', '^')]) groups rest
    | '$' :: rest, _ =>
      let isLast := rest.isEmpty || (sign? isExtended rest).any fun (c, _) => c == '|' || c == ')'
      if isLast || isExtended then
        let (more, groups, rest) ← readSequence isExtended bound groups false rest
        return (sequence atEnd more, groups, rest)
      readRest isExtended bound (among false [('$', '$')]) groups rest
    | _, some ('(', rest) =>
      let number := groups + 1
      let (body, groups, rest) ← readEither isExtended bound number rest
      match sign? isExtended rest with
      | some (')', rest) => readRest isExtended bound (group number body) groups rest
      | _ => none
    | '*' :: rest, _ =>
      if isFirst then readRest isExtended bound (among false [('*', '*')]) groups rest else none
    | cs, _ =>
      let (mark, rest) ← atom? cs
      readRest isExtended bound mark groups rest

/-- The repetitions of a mark and what follows it. -/
def readRest (isExtended : Bool) : Nat → LinePattern → Nat → List Char →
    Option (LinePattern × Nat × List Char)
  | 0, _, _, _ => none
  | bound + 1, mark, groups, cs => do
    match cs, sign? isExtended cs with
    | '*' :: rest, _ => readRest isExtended bound (repeated mark 0 none) groups rest
    | _, some ('+', rest) => readRest isExtended bound (repeated mark 1 none) groups rest
    | _, some ('?', rest) => readRest isExtended bound (repeated mark 0 (some 1)) groups rest
    | _, some ('\x7b', rest) =>
      let (low, high, rest) ← counts? isExtended rest
      readRest isExtended bound (repeated mark low high) groups rest
    | _, _ =>
      let (more, groups, rest) ← readSequence isExtended bound groups false cs
      return (sequence mark more, groups, rest)

end

/-- The pattern of a text. -/
def read? (isExtended : Bool) (cs : List Char) : Option LinePattern :=
  match readEither isExtended (4 * cs.length + 4) 0 cs with
  | some (pattern, _, []) => some pattern
  | _ => none

/-! ### Matching -/

/-- A body as often as it may follow, tried longest first. -/
def repeatedly (body : Place → (Place → Option Place) → Option Place) :
    Nat → Nat → Option Nat → Place → (Place → Option Place) → Option Place
  | 0, low, _, p, next => if low = 0 then next p else none
  | bound + 1, low, high, p, next =>
    if high = some 0 then next p
    else
      let longer := body p fun q =>
        if low = 0 && q.rest.length == p.rest.length then none
        else repeatedly body bound (low - 1) (high.map (· - 1)) q next
      match longer with
      | some q => some q
      | none => if low = 0 then next p else none

/-- Whether a character is one of a word. -/
def isOfWord (c : Char) : Bool := isIdentRest c

/-- Moves a place behind a match, if the rest of the pattern matches there. -/
def from? : LinePattern → Place → (Place → Option Place) → Option Place
  | empty, p, next => next p
  | among isNegated ranges, p, next =>
    match p.rest with
    | c :: rest =>
      if (ranges.any fun (a, b) => a ≤ c && c ≤ b) != isNegated then
        next { p with before := c :: p.before, rest }
      else none
    | [] => none
  | sequence first second, p, next => first.from? p fun q => second.from? q next
  | either first second, p, next =>
    match first.from? p next with
    | some q => some q
    | none => second.from? p next
  | repeated body low high, p, next =>
    repeatedly (fun q next => body.from? q next) (p.rest.length + low + 1) low high p next
  | group number body, p, next =>
    body.from? p fun q =>
      let text := p.rest.take (p.rest.length - q.rest.length)
      next { q with groups := (number, text) :: q.groups }
  | again number, p, next =>
    let text := (p.groups.lookup number).getD []
    if p.rest.take text.length = text then
      next { p with before := text.reverse ++ p.before, rest := p.rest.drop text.length }
    else none
  | atStart, p, next => if p.before.isEmpty then next p else none
  | atEnd, p, next => if p.rest.isEmpty then next p else none
  | atWordEdge, p, next =>
    if (p.before.head?.any isOfWord) != (p.rest.head?.any isOfWord) then next p else none

/-- The first match at or behind a place: where it begins, and where it ends. -/
def findFrom? (pattern : LinePattern) : Nat → Place → Option (Place × Place)
  | bound, p =>
    match pattern.from? p some with
    | some q => some (p, q)
    | none =>
      match bound, p.rest with
      | bound + 1, c :: rest => findFrom? pattern bound ⟨c :: p.before, rest, []⟩
      | _, _ => none

/-- The first match in a line. -/
def find? (pattern : LinePattern) (line : List Char) : Option (Place × Place) :=
  findFrom? pattern line.length ⟨[], line, []⟩

/-- Whether a pattern matches a part of a line. -/
def occursIn (pattern : LinePattern) (line : List Char) : Bool :=
  (find? pattern line).isSome

/-! ### Replacing -/

/-- The text for a match: `&` stands for the match, and numbers behind a backslash for
its groups. -/
def filled (found : List Char) (groups : List (Nat × List Char)) : List Char → List Char
  | [] => []
  | '&' :: rest => found ++ filled found groups rest
  | '\\' :: 'n' :: rest => '\n' :: filled found groups rest
  | '\\' :: 't' :: rest => '\t' :: filled found groups rest
  | '\\' :: c :: rest =>
    (if c == '0' then found
      else if c.isDigit then (groups.lookup (digitValue c)).getD [] else [c])
      ++ filled found groups rest
  | c :: rest => c :: filled found groups rest

/-- The text behind a place with its matches replaced, from the match of a number on,
and only that one unless all are asked for; and whether there was one. Right behind a
match there is no empty one. -/
def replaceFrom (pattern : LinePattern) (new : List Char) (all : Bool) :
    Nat → Nat → Bool → Place → List Char × Bool
  | 0, _, _, p => (p.rest, false)
  | bound + 1, skipped, isBehind, p =>
    match findFrom? pattern p.rest.length p with
    | none => (p.rest, false)
    | some (start, finish) =>
      let size := start.rest.length - finish.rest.length
      let front := p.rest.take (p.rest.length - start.rest.length)
      let isEmpty := size = 0
      let counts := !(isEmpty && front.isEmpty && isBehind)
      let found := start.rest.take size
      let text := if counts && skipped = 0 then filled found finish.groups new else found
      if counts && skipped = 0 && !all then (front ++ text ++ finish.rest, true)
      else
        let done := counts && skipped = 0
        let left := if counts then skipped - 1 else skipped
        if isEmpty then
          match finish.rest with
          | [] => (front ++ text, done)
          | c :: rest =>
            let (more, others) :=
              replaceFrom pattern new all bound left false ⟨c :: finish.before, rest, []⟩
            (front ++ text ++ c :: more, done || others)
        else
          let (more, others) :=
            replaceFrom pattern new all bound left true { finish with groups := [] }
          (front ++ text ++ more, done || others)

/-- A line with matches replaced, and whether there was one. -/
def replace (pattern : LinePattern) (new : List Char) (all : Bool) (skipped : Nat)
    (line : List Char) : List Char × Bool :=
  replaceFrom pattern new all (2 * line.length + 2) skipped false ⟨[], line, []⟩

end LinePattern

end Scaffold.Shell

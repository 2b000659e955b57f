/-
The screen for patterns that are slow on purpose.

Some ways of matching take time exponential in the text when a repeated group
holds a repetition or a choice of its own. Patterns of such a shape are refused
before they are read. The screen looks at the text of the pattern only: escapes
and classes are single atoms to it, and it knows no errors.

* `hazard?` names the first hazard of a pattern;
* `checkSafety` refuses patterns that are too long or hazardous.
-/
import Scaffold.Error
import Scaffold.Text.Blank
import Scaffold.Text.Decimal
import Scaffold.Text.Split

namespace Scaffold.Pattern

open Text

/-- A shape that the screen refuses. -/
inductive Hazard where
  | nestedQuantifiers
  | quantifiedAlternation
  | backreference
  deriving Repr, DecidableEq

/-- How a hazard is called. -/
def Hazard.name : Hazard → String
  | nestedQuantifiers => "nested quantifiers"
  | quantifiedAlternation => "quantified alternation"
  | backreference => "backreference to a quantified group"

/-- What an open group was seen to hold, at any depth. -/
structure GroupContent where
  quantifier : Bool
  alternation : Bool
  deriving Repr, DecidableEq

/-- The rest of a class after the characters that may be literal at its start,
up to and with its closing bracket. -/
def skipClassBody : List Char → List Char
  | [] => []
  | '\\' :: _ :: rest => skipClassBody rest
  | c :: rest => if c == ']' then rest else skipClassBody rest

/-- The rest of a pattern after a class whose opening bracket was read. -/
def skipClass (cs : List Char) : List Char :=
  let cs := match cs with
    | '^' :: rest => rest
    | _ => cs
  match cs with
  | ']' :: rest => skipClassBody rest
  | _ => skipClassBody cs

/-- The rest of a text after the first occurrence of a character. -/
def skipPast (mark : Char) (cs : List Char) : List Char :=
  (cs.dropWhile (· != mark)).tail

/-- The rest of a text after a colon, or from a closing parenthesis on. -/
def skipModes : List Char → List Char
  | [] => []
  | c :: rest => if c == ')' then c :: rest else if c == ':' then rest else skipModes rest

/-- The rest of a pattern after what a question mark begins at the start of a
group: a name, modes, or a sign of looking around. -/
def skipGroupPrefix (cs : List Char) : List Char :=
  match cs with
  | [] => []
  | c :: rest =>
    if c == ':' || c == '=' || c == '!' then rest
    else if c == 'P' then skipPast '>' rest
    else if c == '<' then
      match rest with
      | '=' :: tail | '!' :: tail => tail
      | _ => skipPast '>' rest
    else skipModes rest

/-- A number that fits four bytes. -/
def smallNumber? (cs : List Char) : Option Nat :=
  (unsigned? cs).filter (· < 0x100000000)

/-- Whether the counts in braces allow more than one repetition. -/
def countsAreMany (body : List Char) : Bool :=
  match splitOnce ',' body with
  | some (_, []) => true
  | some (_, high) => ((smallNumber? (trim high)).map fun m => decide (1 < m)).getD false
  | none => ((smallNumber? (trim body)).map fun n => decide (1 < n)).getD false

/-- The text in braces whose opening brace was read, and what follows them. -/
def readBraces (cs : List Char) : List Char × List Char :=
  (cs.takeWhile (· != '}'), skipPast '}' cs)

/-- Whether a group is followed by a repetition of more than one, and the rest
of the pattern. -/
def readGroupQuantifier (cs : List Char) : Bool × List Char :=
  match cs with
  | '*' :: rest | '+' :: rest => (true, rest)
  | '{' :: rest => (countsAreMany (readBraces rest).1, (readBraces rest).2)
  | _ => (false, cs)

/-- Changes the innermost open group. -/
def onTop (change : GroupContent → GroupContent) : List GroupContent → List GroupContent
  | [] => []
  | g :: outer => change g :: outer

/-- Marks a repetition in the innermost open group. -/
def markQuantifier (groups : List GroupContent) : List GroupContent :=
  onTop (fun g => { g with quantifier := true }) groups

/-- The first hazard of a pattern. `groups` are the open groups, innermost
first, and `repeated` holds once a repeated group was closed. The fuel is the
number of characters that may be left. -/
def hazardFrom (groups : List GroupContent) (repeated : Bool) :
    Nat → List Char → Option Hazard
  | 0, _ => none
  | _, [] => none
  | fuel + 1, c :: rest =>
    if c == '\\' then
      match rest with
      | [] => none
      | d :: rest =>
        if d.isDigit && d != '0' && repeated then some .backreference
        else hazardFrom groups repeated fuel rest
    else if c == '[' then hazardFrom groups repeated fuel (skipClass rest)
    else if c == '(' then
      let rest := match rest with
        | '?' :: tail => skipGroupPrefix tail
        | _ => rest
      hazardFrom (⟨false, false⟩ :: groups) repeated fuel rest
    else if c == ')' then
      let (group, outer) := match groups with
        | [] => ((⟨false, false⟩ : GroupContent), [])
        | g :: outer => (g, outer)
      let (many, rest) := readGroupQuantifier rest
      if many && group.quantifier then some .nestedQuantifiers
      else if many && group.alternation then some .quantifiedAlternation
      else
        let outer := onTop (fun g =>
          ⟨g.quantifier || group.quantifier || many, g.alternation || group.alternation⟩) outer
        hazardFrom outer (repeated || many) fuel rest
    else if c == '|' then
      hazardFrom (onTop (fun g => { g with alternation := true }) groups) repeated fuel rest
    else if c == '*' || c == '+' then hazardFrom (markQuantifier groups) repeated fuel rest
    else if c == '{' then
      let (body, rest) := readBraces rest
      hazardFrom (if countsAreMany body then markQuantifier groups else groups) repeated fuel rest
    else hazardFrom groups repeated fuel rest

/-- The first hazard of a pattern. -/
def hazard? (cs : List Char) : Option Hazard :=
  hazardFrom [] false cs.length cs

/-- Refuses a pattern that is longer than a number of bytes or that has a
hazard. The message shows the first 80 characters. -/
def checkSafety (pattern : String) (maxLength : Nat) : Except Violation Unit :=
  let refuse := fun reason =>
    Except.error (.invalidPattern (String.ofList (pattern.toList.take 80)) reason)
  if maxLength < pattern.utf8ByteSize then refuse s!"pattern exceeds {maxLength} characters"
  else match hazard? pattern.toList with
    | some h => refuse s!"{h.name}; rejected for security reasons"
    | none => .ok ()

end Scaffold.Pattern

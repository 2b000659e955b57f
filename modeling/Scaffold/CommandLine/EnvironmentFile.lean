/-
Files that set environment variables.

* A line of a file may go on over several lines of text while a quote is open
  (`logicalLines`);
* `readAssignment` reads a line: `NAME=VALUE`, perhaps after `export`, with quotes,
  escapes, a comment at the end, and `$NAME` for the value of another variable;
* `addVariables` adds the variables of a file to an environment, up to the first line
  that is wrong. Variables that are already set stay as they are.
-/
import Scaffold.Text.Blank
import Scaffold.Text.Letter
import Scaffold.Text.Split

namespace Scaffold.CommandLine.EnvironmentFile

open Text

/-- The variables of an environment. -/
abbrev Variables := List (String × String)

/-! ### Lines -/

/-- Where in a line a character stands. -/
inductive Place where
  | free
  | escape
  | blank
  | double
  | doubleEscape
  | single
  | singleEscape
  deriving Repr, DecidableEq

/-- The place behind a character; at the start of a comment there is none. -/
def Place.next? : Place → Char → Option Place
  | free, c | blank, c =>
    match c with
    | '\\' => some escape
    | '"' => some double
    | '\'' => some single
    | _ => some free
  | escape, _ => some free
  | double, '\\' => some doubleEscape
  | double, '"' => some free
  | double, _ | doubleEscape, _ => some double
  | single, '\\' => some singleEscape
  | single, '\'' => some free
  | single, _ | singleEscape, _ => some single

/-- The place behind a character. Blanks count inside of a line, and a comment starts
only behind one. -/
def Place.step? (p : Place) (c : Char) : Option Place :=
  if p = blank ∧ c = '#' then none
  else if p = free ∧ isBlank c ∧ c ≠ '\n' ∧ c ≠ '\r' then some blank
  else p.next? c

/-- What stands in front of the comment of a line, and the place at its end. -/
def scanLine (p : Place) : List Char → List Char × Option Place
  | [] => ([], some p)
  | c :: rest =>
    match p.step? c with
    | none => ([], none)
    | some p =>
      let (text, place) := scanLine p rest
      (c :: text, place)

/-- The lines of a text, each with its end. -/
def textLines (cs : List Char) : List (List Char) :=
  cs.foldr (fun c lines =>
    match lines with
    | line :: rest => if c = '\n' then [c] :: line :: rest else (c :: line) :: rest
    | [] => [[c]]) []

/-- The lines of a file, put together where a quote is open. The last one may be
cut off. -/
def logicalLines (p : Place) (before : List Char) : List (List Char) → List (Option (List Char))
  | [] => if p = .free then [] else [none]
  | line :: rest =>
    let whole := before ++ line
    if (trimStart whole).head? = some '#' then logicalLines .free [] rest
    else
      match scanLine p line with
      | (text, none) => some (before ++ text) :: logicalLines .free [] rest
      | (_, some .free) => some whole :: logicalLines .free [] rest
      | (_, some place) => logicalLines place whole rest

/-! ### Values -/

/-- How the name of another variable is being read: up to the first other character,
or up to a brace. -/
inductive Naming where
  | bare
  | braced
  deriving Repr, DecidableEq

/-- A value while it is read. -/
structure Draft where
  text : List Char := []
  place : Place := .free
  naming : Option Naming := none
  name : List Char := []

/-- The draft with the value of the named variable. -/
def Draft.putValue (known : Variables) (d : Draft) : Draft :=
  { d with
    text := d.text ++ ((known.lookup (String.ofList d.name)).getD "").toList
    name := [] }

/-- Reads a character that stands for itself, opens something or closes it. -/
def Draft.readPlain (d : Draft) (c : Char) : Draft :=
  match d.place, c with
  | .double, '"' => { d with place := .free }
  | .double, '\\' => { d with place := .doubleEscape }
  | .double, c => { d with text := d.text ++ [c] }
  | _, '\'' => { d with place := .single }
  | _, '"' => { d with place := .double }
  | _, '\\' => { d with place := .escape }
  | _, c => if c = ' ' || c = '\t' then { d with place := .blank } else { d with text := d.text ++ [c] }

/-- Reads a character of the name of another variable. -/
def Draft.readName (known : Variables) (d : Draft) (naming : Naming) (c : Char) : Draft :=
  if isAlphanumeric c then { d with name := d.name ++ [c] }
  else
    match naming with
    | .braced =>
      if c = '\x7d' then { d.putValue known with naming := none }
      else { d with name := d.name ++ [c] }
    | .bare =>
      if c = '\x7b' && d.name.isEmpty then { d with naming := some .braced }
      else
        let d := d.putValue known
        if c = '$' then { d with naming := some .bare }
        else { d with naming := none, text := d.text ++ [c] }

/-- Reads a character of a value; nothing comes behind a value but a comment. -/
def Draft.read (known : Variables) (d : Draft) (c : Char) : Option Draft :=
  match d.place with
  | .blank => if c = ' ' || c = '\t' then some d else none
  | .escape | .doubleEscape =>
    let place := if d.place = .escape then Place.free else .double
    if c = 'n' then some { d with text := d.text ++ ['\n'], place }
    else if ['\\', '\'', '"', '$', ' '].contains c then
      some { d with text := d.text ++ [c], place }
    else none
  | .single | .singleEscape =>
    if c = '\'' then some { d with place := .free } else some { d with text := d.text ++ [c] }
  | .free | .double =>
    match d.naming with
    | some naming => some (d.readName known naming c)
    | none =>
      if c = '$' then some { d with naming := some .bare } else some (d.readPlain c)

/-- Reads the characters of a value, up to a comment. -/
def readValue? (known : Variables) (d : Draft) : List Char → Option String
  | [] =>
    if d.naming = some .braced || d.place = .single || d.place = .double then none
    else some (String.ofList (d.putValue known).text)
  | c :: rest =>
    if d.place = .blank && c = '#' then readValue? known d []
    else (d.read known c).bind fun d => readValue? known d rest

/-! ### Assignments -/

/-- The name at the start of a text, and what follows it. -/
def readName? (cs : List Char) : Option (String × List Char) :=
  let isPart := fun c : Char => c.isAlphanum || c = '_' || c = '.'
  match cs with
  | c :: _ =>
    if c.isAlpha || c = '_' then
      some (String.ofList (cs.takeWhile isPart), trimStart (cs.dropWhile isPart))
    else none
  | [] => none

/-- What follows an equals sign. -/
def afterEquals? : List Char → Option (List Char)
  | '=' :: rest => some (trimStart rest)
  | _ => none

/-- Reads a line. A line without an assignment may be blank or a comment. -/
def readAssignment (known : Variables) (line : List Char) :
    Option (Option (String × String)) := do
  let line := trim line
  if line.isEmpty || line.head? = some '#' then return none
  let (name, rest) ← readName? line
  let (name, rest) ←
    if name = "export" && (afterEquals? rest).isNone then readName? rest else some (name, rest)
  let value ← afterEquals? rest
  if value.isEmpty || value.head? = some '#' then return some (name, "")
  return some (name, ← readValue? known {} value)

/-- Adds the variables of some lines. -/
def addLines (known : Variables) : List (Option (List Char)) → Variables
  | some line :: rest =>
    match readAssignment known line with
    | some (some (name, value)) =>
      if (known.lookup name).isSome then addLines known rest
      else addLines (known ++ [(name, value)]) rest
    | some none => addLines known rest
    | none => known
  | _ => known

/-- Adds the variables of a file. -/
def addVariables (known : Variables) (text : String) : Variables :=
  let cs := text.toList
  let cs := if cs.head? = some '\uFEFF' then cs.drop 1 else cs
  addLines known (logicalLines .free [] (textLines cs))

end Scaffold.CommandLine.EnvironmentFile

/-
What words stand for.

* `expand` puts values in the place of a word's parts and keeps what stood in quotes
  apart;
* `fieldsOf` cuts the result at the separators that values brought;
* `wordFields` goes on to the names of files that a field matches, and `wordText` is the
  text of a word that is not cut.
-/
import Scaffold.Shell.Arithmetic
import Scaffold.Shell.Session
import Scaffold.Shell.Wildcard

namespace Scaffold.Shell

open Text

/-- Where a character of a word comes from: from quotes, from the script, or from a
value. -/
inductive Source where
  | quotes
  | script
  | value
  deriving Repr, DecidableEq

/-- A piece of a word: a character, the mark that there were quotes, the mark that there
were no arguments, or the end of an argument. -/
inductive Piece where
  | char (c : Char) (source : Source)
  | present
  | absent
  | cut
  deriving Repr, DecidableEq

/-- A text as pieces. -/
def pieces (source : Source) (cs : List Char) : List Piece :=
  cs.map fun c => .char c source

/-- The text of pieces. -/
def Piece.textOf (ps : List Piece) : List Char :=
  ps.flatMap fun
    | .char c _ => [c]
    | .cut => [' ']
    | _ => []

/-- The pattern that pieces spell. -/
def Piece.wildcardOf (ps : List Piece) : Wildcard :=
  .read (ps.flatMap fun
    | .char c source => [(c, decide (source ≠ .quotes))]
    | .cut => [(' ', false)]
    | _ => [])

/-! ### Values -/

/-- The value of a sum. -/
def sumValue (text : List Char) : ShellM (List Char) := do
  let shown := String.ofList text
  let s ← get
  let unread := fun (name : String) => match s.value? name with
    | some value => !value.isEmpty && (numberOf value).isNone
    | none => false
  match Sum.read text with
  | .error fault => abort (fault.message shown)
  | .ok sum =>
    match (namesIn sum).find? unread with
    | some name =>
      let given := (s.value? name).getD ""
      abort s!"Illegal number: {given}"
    | none =>
      match (sum.value fun name => ((s.value? name).bind numberOf).getD 0).run [] with
      | .error fault => abort (fault.message shown)
      | .ok (n, settings) =>
        settings.reverse.forM fun (name, value) =>
          setVariable name (String.ofList (integerDigits value))
        return integerDigits n
where
  /-- The number of a value. -/
  numberOf (value : String) : Option Int :=
    match value.toList with
    | '-' :: cs => (Sum.literal? cs).bind fun (n, rest) => if rest.isEmpty then some (-n) else none
    | cs => (Sum.literal? cs).bind fun (n, rest) => if rest.isEmpty then some n else none
  /-- The variables of a sum. -/
  namesIn : Sum → List String
    | .number _ => []
    | .named name => [name]
    | .unary _ a => namesIn a
    | .binary _ a b => namesIn a ++ namesIn b
    | .choice a b c => namesIn a ++ namesIn b ++ namesIn c
    | .set name sign a => if sign.isSome then name :: namesIn a else namesIn a

/-- The pieces of all arguments, each on its own. -/
def argumentPieces (isQuoted : Bool) (arguments : List String) : List Piece :=
  let source := if isQuoted then Source.quotes else .value
  let each := arguments.map fun a =>
    (if isQuoted then [Piece.present] else []) ++ pieces source a.toList
  match each with
  | [] => if isQuoted then [.absent] else []
  | first :: rest => first ++ rest.flatMap fun ps => .cut :: ps

/-- The pieces of a word. `run` gives what a script writes; a value's own words are
looked at in at most `bound` steps. -/
def expand (run : List Char → ShellM ByteArray) : Nat → Word → ShellM (List Piece)
  | 0, _ | _, [] => return []
  | bound + 1, part :: rest => do
    let first ← match part with
      | .plain text => pure (pieces .script text)
      | .quoted text => pure (.present :: pieces .quotes text)
      | .output script isQuoted =>
        let text := textOf (← run script)
        let kept := (text.toList.reverse.dropWhile (· == '\n')).reverse
        pure (pieces (if isQuoted then .quotes else .value) kept)
      | .number expression isQuoted =>
        let word := match Word.readQuoted expression with
          | .ok word => word
          | .error _ => [.plain expression]
        let text := Piece.textOf (← expand run bound word)
        pure (pieces (if isQuoted then .quotes else .value) (← sumValue text))
      | .value name change isQuoted =>
        let s ← get
        let value := s.value? name
        let source := if isQuoted then Source.quotes else .value
        let shown (text : String) : List Piece :=
          if name == "@" || name == "*" && !isQuoted then argumentPieces isQuoted s.arguments
          else pieces source text.toList
        let inner (text : List Char) : ShellM (List Piece) := do
          let word := if isQuoted then Word.readQuoted text
            else (Word.read (fun _ => false) text).map Prod.fst
          match word with
          | .ok word =>
            return (← expand run bound word).map fun
              | .char c .script => .char c source
              | piece => piece
          | .error fault => abort fault.message
        let lacks (alsoEmpty : Bool) : Bool := value.isNone || alsoEmpty && value == some ""
        match change with
        | .unreadable => abort "Bad substitution"
        | .asIs =>
          if value.isNone && s.stopsOnUnset && name != "@" && name != "*" then
            abort s!"{name}: parameter not set"
          pure (shown (value.getD ""))
        | .size => pure (pieces source (digits (value.getD "").length))
        | .orElse alsoEmpty text =>
          if lacks alsoEmpty then inner text else pure (shown (value.getD ""))
        | .instead alsoEmpty text => if lacks alsoEmpty then pure [] else inner text
        | .orSet alsoEmpty text =>
          if lacks alsoEmpty then
            let new := String.ofList (Piece.textOf (← inner text))
            setVariable name new
            pure (pieces source new.toList)
          else pure (shown (value.getD ""))
        | .orFail alsoEmpty text =>
          if lacks alsoEmpty then
            let reason := String.ofList (Piece.textOf (← inner text))
            let usual := if alsoEmpty then "parameter not set or null" else "parameter not set"
            abort s!"{name}: {if reason.isEmpty then usual else reason}"
          else pure (shown (value.getD ""))
        | .withoutStart longest pattern =>
          let word := (Word.read (fun _ => false) pattern).toOption.map Prod.fst
          let ps ← expand run bound (word.getD [.quoted pattern])
          pure (pieces source ((Piece.wildcardOf ps).withoutStart longest (value.getD "").toList))
        | .withoutEnd longest pattern =>
          let word := (Word.read (fun _ => false) pattern).toOption.map Prod.fst
          let ps ← expand run bound (word.getD [.quoted pattern])
          pure (pieces source ((Piece.wildcardOf ps).withoutEnd longest (value.getD "").toList))
    return first ++ (← expand run (bound + 1) rest)
termination_by bound word => (bound, word.length)

/-- How deep the words of values are looked into. -/
def maxWordDepth : Nat := 64

/-! ### Fields -/

/-- The field that is being built: its characters, and whether it stays when it has
none. -/
structure Growing where
  chars : List FieldChar := []
  isPresent : Bool := false
  isAbsent : Bool := false

/-- The field of what was built, if it is one. -/
def Growing.field? (g : Growing) : Option (List FieldChar) :=
  if g.chars.isEmpty && !(g.isPresent && !g.isAbsent) then none else some g.chars.reverse

/-- The fields of pieces: values are cut at separators, of which blank ones count once
and are nothing at an end. -/
def fieldsFrom (separators : List Char) : Growing → List Piece → List (List FieldChar)
  | g, [] => g.field?.toList
  | g, .present :: rest => fieldsFrom separators { g with isPresent := true } rest
  | g, .absent :: rest => fieldsFrom separators { g with isAbsent := true } rest
  | g, .cut :: rest => g.field?.toList ++ fieldsFrom separators {} rest
  | g, .char c source :: rest =>
    if source = .value && separators.contains c then
      if c == ' ' || c == '\t' || c == '\n' then
        g.field?.toList ++ fieldsFrom separators {} rest
      else g.chars.reverse :: fieldsFrom separators {} rest
    else
      fieldsFrom separators { g with chars := (c, decide (source ≠ .quotes)) :: g.chars } rest

/-- The fields of pieces. -/
def fieldsOf (separators : List Char) (ps : List Piece) : List (List FieldChar) :=
  fieldsFrom separators {} ps

/-- The parts of a path between slashes. -/
def pathParts (field : List FieldChar) : List (List FieldChar) :=
  field.foldr (fun c parts =>
      match parts with
      | part :: others => if c.1 == '/' then [] :: parts else (c :: part) :: others
      | [] => [[c]])
    [[]]

/-- The text of a field. -/
def fieldText (field : List FieldChar) : String :=
  String.ofList (field.map Prod.fst)

/-- The paths that the parts of a pattern match behind a start. -/
def pathsFrom (start : String) : List (List FieldChar) → ShellM (List String)
  | [] => return []
  | part :: rest => do
    let found ← if !Wildcard.isNeeded part then pure [fieldText part]
      else do
        match ← ask (.list (← located (if start.isEmpty then "." else start))) with
        | .error _ => pure []
        | .ok names =>
          let pattern := Wildcard.read part
          let showsHidden := part.head?.any fun c => c.1 == '.'
          pure ((names.filter fun name =>
            (showsHidden || !name.startsWith ".") && pattern.accepts name.toList).mergeSort
              fun a b => decide (a ≤ b))
    if rest.isEmpty then
      found.filterMapM fun name => do
        let path := start ++ name
        let isThere ← if name.isEmpty then isFolderAt start else Option.isSome <$> entryAt path
        return if isThere then some path else none
    else found.flatMapM fun name => pathsFrom (start ++ name ++ "/") rest

/-- The texts of a field: the paths that it matches, or its own. -/
def fieldTexts (field : List FieldChar) : ShellM (List String) := do
  if !Wildcard.isNeeded field then return [fieldText field]
  match ← pathsFrom "" (pathParts field) with
  | [] => return [fieldText field]
  | paths => return paths

/-- The texts that a word stands for. -/
def wordFields (run : List Char → ShellM ByteArray) (w : Word) : ShellM (List String) := do
  let ps ← expand run maxWordDepth w
  (fieldsOf (← get).separators ps).flatMapM fieldTexts

/-- The text that a word stands for where it is not cut. -/
def wordText (run : List Char → ShellM ByteArray) (w : Word) : ShellM String := do
  return String.ofList (Piece.textOf (← expand run maxWordDepth w))

end Scaffold.Shell

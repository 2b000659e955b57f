/-
Tokens of a script.

* A `Token` is a word, an operator, or a redirection without the word that follows it;
* `Token.read` cuts a script into tokens with their lines. The last token is the end of
  the script, or the fault that hides the rest of it.
-/
import Scaffold.Shell.Word
import Scaffold.Text.Decimal

namespace Scaffold.Shell

open Text

/-- What stands between commands. -/
inductive Operator where
  | line
  | next
  | background
  | whenOk
  | whenFailed
  | pipe
  | opening
  | closing
  | endBranch
  | finish
  deriving Repr, DecidableEq

/-- The name of an operator in messages. -/
def Operator.name : Operator → String
  | line => "newline"
  | next => "\";\""
  | background => "\"&\""
  | whenOk => "\"&&\""
  | whenFailed => "\"||\""
  | pipe => "\"|\""
  | opening => "\"(\""
  | closing => "\")\""
  | endBranch => "\";;\""
  | finish => "end of file"

/-- Where a stream goes to or comes from. The text of a document stands in the script. -/
inductive Redirection where
  | toFile (append : Bool)
  | fromFile
  | toStream
  | document (text : Word)
  deriving Repr, DecidableEq

/-- A token of a script. A redirection that is no document is followed by the word of its
file or stream. -/
inductive Token where
  | word (w : Word)
  | operator (o : Operator)
  | redirection (stream : Nat) (r : Redirection)
  | broken (fault : Fault)
  deriving Repr, DecidableEq

/-- Whether a character outside quotes ends a word. -/
def endsWord (c : Char) : Bool :=
  [' ', '\t', '\n', ';', '&', '|', '<', '>', '(', ')'].contains c

namespace Token

/-- The operator at the start of a text, and what follows it. -/
def operator? : List Char → Option (Operator × List Char)
  | '\n' :: rest => some (.line, rest)
  | ';' :: ';' :: rest => some (.endBranch, rest)
  | ';' :: rest => some (.next, rest)
  | '&' :: '&' :: rest => some (.whenOk, rest)
  | '&' :: rest => some (.background, rest)
  | '|' :: '|' :: rest => some (.whenFailed, rest)
  | '|' :: rest => some (.pipe, rest)
  | '(' :: rest => some (.opening, rest)
  | ')' :: rest => some (.closing, rest)
  | _ => none

/-- The redirection at the start of a text, the stream that it is for when none is
named, and what follows it. -/
def redirection? : List Char → Option (Redirection × Nat × List Char)
  | '>' :: '>' :: rest => some (.toFile true, 1, rest)
  | '>' :: '&' :: rest => some (.toStream, 1, rest)
  | '>' :: '|' :: rest => some (.toFile false, 1, rest)
  | '>' :: rest => some (.toFile false, 1, rest)
  | '<' :: '&' :: rest => some (.toStream, 0, rest)
  | '<' :: '>' :: rest => some (.fromFile, 0, rest)
  | '<' :: rest => some (.fromFile, 0, rest)
  | _ => none

/-- The lines in front of one that stands for the end, and those behind it if it is
there. -/
def linesBefore (stop : List Char) (dropsTabs : Bool) :
    List (List Char) → List (List Char) × Option (List (List Char))
  | [] => ([], none)
  | line :: rest =>
    let line := if dropsTabs then line.dropWhile (· == '\t') else line
    if line = stop then ([], some rest)
    else
      let (body, tail) := linesBefore stop dropsTabs rest
      (line :: body, tail)

/-- The document whose end is named at the start of a text, and the text without the
name and without the document, which begins on the next line. -/
def document (dropsTabs : Bool) (cs : List Char) : Except Fault (Word × List Char) := do
  let cs := cs.dropWhile fun c => c == ' ' || c == '\t'
  let (stop, rest) ← Word.read endsWord cs
  if stop.isEmpty then
    throw (.unexpected (if cs.isEmpty then Operator.finish else Operator.line).name none)
  let thisLine := rest.takeWhile (· != '\n')
  let (body, tail) := linesBefore stop.literal dropsTabs (splitOn '\n' (rest.drop (thisLine.length + 1)))
  let text := match tail with
    | some _ => body.flatMap (· ++ ['\n'])
    | none => join ['\n'] body
  let word ← if stop.hasQuotes then pure [Part.quoted text] else Word.readQuoted text
  let after := match tail with
    | some lines => '\n' :: join ['\n'] lines
    | none => []
  return (word, thisLine ++ after)

/-- The tokens of a text from a line on, in at most `bound` steps. -/
def readFrom : Nat → Nat → List Char → List (Token × Nat)
  | 0, line, _ | _, line, [] => [(.operator .finish, line)]
  | bound + 1, line, c :: rest =>
    let lineAt (tail : List Char) : Nat :=
      line + ((c :: rest).take (rest.length + 1 - tail.length)).count '\n'
    let goOn (token : Token) (tail : List Char) : List (Token × Nat) :=
      (token, lineAt tail) :: readFrom bound (lineAt tail) tail
    let (named, text) := match rest with
      | d :: _ => if c.isDigit && (d == '<' || d == '>') then (some (digitValue c), rest)
        else (none, c :: rest)
      | [] => (none, c :: rest)
    if c == ' ' || c == '\t' then readFrom bound line rest
    else if c == '#' then readFrom bound line (rest.dropWhile (· != '\n'))
    else if c == '\\' && rest.head? = some '\n' then readFrom bound (line + 1) (rest.drop 1)
    else match text with
      | '<' :: '<' :: tail =>
        let (dropsTabs, tail) := match tail with
          | '-' :: tail => (true, tail)
          | tail => (false, tail)
        match document dropsTabs tail with
        | .ok (text, tail) => goOn (.redirection (named.getD 0) (.document text)) tail
        | .error fault => [(.broken fault, line)]
      | _ =>
        match redirection? text, operator? text with
        | some (r, usual, tail), _ => goOn (.redirection (named.getD usual) r) tail
        | none, some (o, tail) => goOn (.operator o) tail
        | none, none =>
          match Word.read endsWord (c :: rest) with
          | .ok (w, tail) => goOn (.word w) tail
          | .error fault => [(.broken fault, line + rest.count '\n')]

/-- The tokens of a script, each with the line on which it ends. Each takes at least one
character. -/
def read (cs : List Char) : List (Token × Nat) :=
  readFrom (cs.length + 1) 1 cs

end Token

end Scaffold.Shell

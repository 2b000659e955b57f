/-
Words of a script.

* A `Part` of a word is text as it stands, text in quotes, the value of a variable,
  what a script writes, or the value of a sum;
* `enclosed` finds the end of what a bracket opened;
* `Word.read` reads a word up to the first character outside quotes that ends one;
* `Word.readQuoted` reads text as if it stood in double quotes.
-/
import Scaffold.Text.Letter
import Scaffold.Text.Split

namespace Scaffold.Shell

open Text

/-- Why a script cannot be read. -/
inductive Fault where
  | openQuote
  | openBackquote
  | openBrace
  | openSum
  | loopVariable
  | functionName
  | unexpected (token : String) (expected : Option String)
  deriving Repr, DecidableEq

/-- The text of a fault. -/
def Fault.message : Fault → String
  | openQuote => "Syntax error: Unterminated quoted string"
  | openBackquote => "Syntax error: EOF in backquote substitution"
  | openBrace => "Syntax error: Missing '\x7d'"
  | openSum => "Syntax error: Missing '))'"
  | loopVariable => "Syntax error: Bad for loop variable"
  | functionName => "Syntax error: Bad function name"
  | unexpected token none => s!"Syntax error: {token} unexpected"
  | unexpected token (some expected) => s!"Syntax error: {token} unexpected (expecting {expected})"

/-- What is done with the value of a variable. Where `alsoEmpty` is set, an empty value
counts as none. -/
inductive Change where
  | asIs
  | size
  | orElse (alsoEmpty : Bool) (text : List Char)
  | orSet (alsoEmpty : Bool) (text : List Char)
  | orFail (alsoEmpty : Bool) (text : List Char)
  | instead (alsoEmpty : Bool) (text : List Char)
  | withoutStart (longest : Bool) (pattern : List Char)
  | withoutEnd (longest : Bool) (pattern : List Char)
  | unreadable
  deriving Repr, DecidableEq

/-- A part of a word. -/
inductive Part where
  | plain (text : List Char)
  | quoted (text : List Char)
  | value (name : String) (change : Change) (isQuoted : Bool)
  | output (script : List Char) (isQuoted : Bool)
  | number (expression : List Char) (isQuoted : Bool)
  deriving Repr, DecidableEq

/-- A word of a script. -/
abbrev Word := List Part

/-- The quote that begins the text of a script. -/
def backquote : Char := '\x60'

/-- The brace that ends the name of a variable. -/
def closingBrace : Char := '\x7d'

/-! ### Brackets -/

/-- Text up to the last of some closing characters, and what follows it. What stands in
quotes closes nothing, and what is opened on the way has to be closed first. Otherwise
the first character that was to come. -/
def enclosed (inQuotes : Bool) (pending : List Char) (previous : Char) :
    List Char → Except Char (List Char × List Char)
  | [] => .error (pending.headD ' ')
  | c :: rest =>
    match pending with
    | [] => .ok ([], c :: rest)
    | close :: outer =>
      let goOn (pending : List Char) (previous : Char) :=
        (enclosed inQuotes pending previous rest).map fun found => (c :: found.1, found.2)
      if close == '\'' then goOn (if c == close then outer else pending) c
      else if previous == '\\' then goOn pending ' '
      else if c == close then if outer.isEmpty then .ok ([], rest) else goOn outer c
      else if c == '(' && (close == ')' || previous == '$') then goOn (')' :: pending) c
      else if c == '\x7b' && previous == '$' then goOn (closingBrace :: pending) c
      else if c == '"' && close != backquote then goOn (c :: pending) c
      else if c == '\'' && (close == ')' || close == closingBrace && !inQuotes) then
        goOn (c :: pending) c
      else goOn pending c

/-- The fault of a script in which a character should have come. -/
def Fault.ofMissing (c : Char) (usual : Fault) : Fault :=
  if c == '\'' || c == '"' then openQuote else usual

/-- The text of a script in backquotes, where a backslash hides itself, a dollar sign
and a backquote, and what follows it. -/
def backquoted? (inQuotes : Bool) : List Char → Option (List Char × List Char)
  | [] => none
  | '\\' :: c :: rest =>
    let isHidden := c == '\\' || c == '$' || c == backquote || inQuotes && c == '"'
    (backquoted? inQuotes rest).map fun found =>
      (if isHidden then (c :: found.1, found.2) else ('\\' :: c :: found.1, found.2))
  | c :: rest =>
    if c == backquote then some ([], rest)
    else (backquoted? inQuotes rest).map fun found => (c :: found.1, found.2)

/-! ### Values -/

/-- The names of the values that the shell keeps itself. -/
def isSpecial (c : Char) : Bool :=
  ['?', '$', '#', '@', '*', '!', '-', '0'].contains c

/-- The name of a variable at the start of a text, and what follows it. -/
def variableAt? : List Char → Option (String × List Char)
  | [] => none
  | c :: rest =>
    if isIdentStart c then
      some (String.ofList (c :: rest.takeWhile isIdentRest), rest.dropWhile isIdentRest)
    else if isSpecial c || c.isDigit then some (c.toString, rest)
    else none

/-- What is to be done with a value, as it stands behind a name. -/
def Change.read : List Char → Change
  | [] => asIs
  | ':' :: '-' :: text => orElse true text
  | '-' :: text => orElse false text
  | ':' :: '=' :: text => orSet true text
  | '=' :: text => orSet false text
  | ':' :: '?' :: text => orFail true text
  | '?' :: text => orFail false text
  | ':' :: '+' :: text => instead true text
  | '+' :: text => instead false text
  | '#' :: '#' :: pattern => withoutStart true pattern
  | '#' :: pattern => withoutStart false pattern
  | '%' :: '%' :: pattern => withoutEnd true pattern
  | '%' :: pattern => withoutEnd false pattern
  | _ => unreadable

/-- The value that a text in braces stands for. -/
def braced (isQuoted : Bool) (text : List Char) : Part :=
  let sized := match text with
    | '#' :: name => (variableAt? name).bind fun (name, rest) =>
      if rest.isEmpty then some (Part.value name .size isQuoted) else none
    | _ => none
  let name := match text with
    | c :: _ => if c.isDigit then
        some (String.ofList (text.takeWhile Char.isDigit), text.dropWhile Char.isDigit)
      else variableAt? text
    | [] => none
  match sized, name with
  | some part, _ => part
  | none, some (name, rest) => .value name (.read rest) isQuoted
  | none, none => .value "" .unreadable isQuoted

/-- What a dollar sign in front of a text stands for, and what follows it. -/
def valueAt (isQuoted : Bool) (cs : List Char) : Except Fault (Part × List Char) :=
  match cs with
  | '(' :: '(' :: rest =>
    match enclosed false [')', ')'] ' ' rest with
    | .ok (text, tail) =>
      if text.getLast? = some ')' then .ok (.number text.dropLast isQuoted, tail)
      else .error .openSum
    | .error _ => .error .openSum
  | '(' :: rest =>
    match enclosed false [')'] ' ' rest with
    | .ok (text, tail) => .ok (.output text isQuoted, tail)
    | .error c => .error (.ofMissing c (.unexpected "end of file" (some "\")\"")))
  | '\x7b' :: rest =>
    match enclosed isQuoted [closingBrace] ' ' rest with
    | .ok (text, tail) => .ok (braced isQuoted text, tail)
    | .error c => .error (if isQuoted then .openQuote else .ofMissing c .openBrace)
  | _ =>
    match variableAt? cs with
    | some (name, rest) => .ok (.value name .asIs isQuoted, rest)
    | none => .ok (if isQuoted then .quoted ['$'] else .plain ['$'], cs)

/-! ### Words -/

/-- A part in front of a word. Neighbours of one kind become one part. -/
def Word.cons : Part → Word → Word
  | .plain a, .plain b :: rest => .plain (a ++ b) :: rest
  | .quoted a, .quoted b :: rest => .quoted (a ++ b) :: rest
  | part, rest => part :: rest

/-- The parts of a text in double quotes and what follows it, in at most `bound` steps.
An open text goes on to its end, and a quote in it is a character. -/
def Word.quotedFrom (isOpen : Bool) : Nat → List Char → Except Fault (Word × List Char)
  | 0, _ => .error .openQuote
  | _, [] => if isOpen then .ok ([], []) else .error .openQuote
  | bound + 1, c :: rest =>
    let goOn (part : Part) (rest : List Char) : Except Fault (Word × List Char) := do
      let (parts, tail) ← quotedFrom isOpen bound rest
      return (Word.cons part parts, tail)
    if c == '"' && !isOpen then .ok ([], rest)
    else if c == '\\' then
      match rest with
      | '\n' :: rest => quotedFrom isOpen bound rest
      | e :: rest =>
        if e == '\\' || e == '$' || e == backquote || e == '"' && !isOpen then
          goOn (.quoted [e]) rest
        else goOn (.quoted [c, e]) rest
      | [] => goOn (.quoted [c]) []
    else if c == backquote then
      match backquoted? true rest with
      | some (script, rest) => goOn (.output script true) rest
      | none => .error .openBackquote
    else if c == '$' then do
      let (part, rest) ← valueAt true rest
      goOn part rest
    else goOn (.quoted [c]) rest

/-- The word of a text that stands in double quotes. -/
def Word.readQuoted (text : List Char) : Except Fault Word := do
  return (← Word.quotedFrom true (text.length + 1) text).1

/-- The parts of a word and what follows it, in at most `bound` steps. -/
def Word.readFrom (ends : Char → Bool) : Nat → List Char → Except Fault (Word × List Char)
  | 0, cs => .ok ([], cs)
  | _, [] => .ok ([], [])
  | bound + 1, c :: rest =>
    let goOn (part : Part) (rest : List Char) : Except Fault (Word × List Char) := do
      let (parts, tail) ← readFrom ends bound rest
      return (Word.cons part parts, tail)
    if ends c then .ok ([], c :: rest)
    else if c == '\'' then
      match splitOnce '\'' rest with
      | some (text, rest) => goOn (.quoted text) rest
      | none => .error .openQuote
    else if c == '"' then do
      let (quoted, rest) ← Word.quotedFrom false (rest.length + 1) rest
      let (parts, tail) ← readFrom ends bound rest
      return ((Part.quoted [] :: quoted).foldr Word.cons parts, tail)
    else if c == '\\' then
      match rest with
      | '\n' :: rest => readFrom ends bound rest
      | e :: rest => goOn (.quoted [e]) rest
      | [] => goOn (.plain [c]) []
    else if c == backquote then
      match backquoted? false rest with
      | some (script, rest) => goOn (.output script false) rest
      | none => .error .openBackquote
    else if c == '$' then do
      let (part, rest) ← valueAt false rest
      goOn part rest
    else goOn (.plain [c]) rest

/-- A word at the start of a text, up to a character that ends it, and what follows. -/
def Word.read (ends : Char → Bool) (cs : List Char) : Except Fault (Word × List Char) :=
  Word.readFrom ends (cs.length + 1) cs

/-- The text of a word that has no other part. -/
def Word.bare? : Word → Option (List Char)
  | [.plain text] => some text
  | _ => none

/-- Whether some part of a word stands in quotes. -/
def Word.hasQuotes (w : Word) : Bool :=
  w.any fun
    | .quoted _ => true
    | _ => false

/-- The text of a word before its values are known. -/
def Word.literal (w : Word) : List Char :=
  w.flatMap fun
    | .plain text | .quoted text => text
    | _ => []

/-- The variable that a word sets, and the word of its value. -/
def Word.assignment? : Word → Option (String × Word)
  | .plain text :: rest =>
    (splitOnce '=' text).bind fun (name, value) =>
      if name.head?.any isIdentStart && name.all isIdentRest then
        some (String.ofList name, if value.isEmpty then rest else .plain value :: rest)
      else none
  | _ => none

end Scaffold.Shell

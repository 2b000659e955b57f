/-
Scripts as trees of commands.

* A `Command` is a simple command or is made of others;
* `Reader` is a reading of tokens, and its functions follow the grammar: lists of
  conditional rows of pipelines of commands;
* `Script.read` reads a script line by line, so that the lines in front of a fault can
  be run before it is told.
-/
import Scaffold.Shell.Token

namespace Scaffold.Shell

open Text

/-- A command that runs a program or a function, or sets variables. -/
structure Simple where
  line : Nat
  assignments : List (String × Word) := []
  words : List Word := []
  redirections : List (Nat × Redirection × Word) := []
  deriving Repr, DecidableEq

/-- A command. A choice without a second branch has `nothing` there, and a walk without
words is over the arguments. -/
inductive Command where
  | simple (s : Simple)
  | nothing
  | redirected (body : Command) (redirections : List (Nat × Redirection × Word))
  | apart (body : Command)
  | background (body : Command)
  | pipe (first second : Command)
  | negated (body : Command)
  | both (first second : Command)
  | either (first second : Command)
  | sequence (first second : Command)
  | choice (test yes no : Command)
  | loop (ends : Bool) (test body : Command)
  | walk (name : String) (words : Option (List Word)) (body : Command)
  | cases (subject : Word) (branches : List (List Word × Command))
  | define (name : String) (body : Command)
  deriving Inhabited

/-- Reading tokens, up to a fault on a line. -/
abbrev Reader := StateT (List (Token × Nat)) (Except (Nat × Fault))

namespace Reader

/-- The words that are no commands. -/
def reserved : List String :=
  ["!", "\x7b", "\x7d", "case", "do", "done", "elif", "else", "esac", "fi", "for", "if",
   "in", "then", "until", "while"]

/-- The words that end a list of commands. -/
def closers : List String :=
  ["\x7d", "do", "done", "elif", "else", "esac", "fi", "then"]

/-- The next token and its line. -/
def look : Reader (Token × Nat) := do
  match (← get).head? with
  | some (.broken fault, line) => throw (line, fault)
  | some next => return next
  | none => return (.operator .finish, 1)

/-- Goes behind the next token. -/
def skip : Reader Unit := modify List.tail

/-- The reserved word that a token is. -/
def reserved? : Token → Option String
  | .word w =>
    w.bare?.bind fun text =>
      let name := String.ofList text
      if reserved.contains name then some name else none
  | _ => none

/-- The name of a token in messages. -/
def nameOf (knowsReserved : Bool) : Token → String
  | .operator o => o.name
  | .redirection _ _ => "redirection"
  | t =>
    match if knowsReserved then reserved? t else none with
    | some name => s!"\"{name}\""
    | none => "word"

/-- Refuses the next token. -/
def refuse {α : Type} (knowsReserved : Bool) (expected : Option String) : Reader α := do
  let (token, line) ← look
  throw (line, .unexpected (nameOf knowsReserved token) expected)

/-- Whether the next token is an operator; if so, it is taken. -/
def takes (o : Operator) : Reader Bool := do
  if (← look).1 = .operator o then
    skip
    return true
  return false

/-- Takes a reserved word. -/
def expect (name : String) : Reader Unit := do
  if reserved? (← look).1 = some name then skip
  else refuse true (some s!"\"{name}\"")

/-- Takes an operator. -/
def expectOperator (o : Operator) : Reader Unit := do
  if !(← takes o) then refuse true (some o.name)

/-- Goes over line ends, `bound` of them at most. -/
def skipLines : Nat → Reader Unit
  | 0 => return
  | bound + 1 => do
    if ← takes .line then skipLines bound

/-- The words in front of the next token that is none. -/
def words : Nat → Reader (List Word)
  | 0 => return []
  | bound + 1 => do
    match (← look).1 with
    | .word w =>
      skip
      return w :: (← words bound)
    | _ => return []

/-- A redirection with the word of its file or stream. -/
def redirection (stream : Nat) (r : Redirection) : Reader (Nat × Redirection × Word) := do
  match r with
  | .document _ => return (stream, r, [])
  | _ =>
    match (← look).1 with
    | .word w =>
      skip
      return (stream, r, w)
    | _ => refuse false none

/-- The redirections behind a command. -/
def redirections : Nat → Reader (List (Nat × Redirection × Word))
  | 0 => return []
  | bound + 1 => do
    match (← look).1 with
    | .redirection stream r =>
      skip
      let first ← redirection stream r
      return first :: (← redirections bound)
    | _ => return []

/-- The name that a word is. -/
def name? (w : Word) : Option String :=
  w.bare?.bind fun text =>
    if text.head?.any isIdentStart && text.all isIdentRest then some (String.ofList text)
    else none

/-- The rest of a simple command, which may turn out to define a function: then its name
is told. -/
def simpleRest : Nat → Simple → Reader (Simple × Option String)
  | 0, s => return (s, none)
  | bound + 1, s => do
    match (← look).1 with
    | .word w =>
      skip
      match if s.words.isEmpty then w.assignment? else none with
      | some a => simpleRest bound { s with assignments := s.assignments ++ [a] }
      | none => simpleRest bound { s with words := s.words ++ [w] }
    | .redirection stream r =>
      skip
      let new ← redirection stream r
      simpleRest bound { s with redirections := s.redirections ++ [new] }
    | .operator .opening =>
      match s.words, s.assignments, s.redirections with
      | [w], [], [] =>
        skip
        if !(← takes .closing) then refuse false (some Operator.closing.name)
        match name? w with
        | some name => return (s, some name)
        | none => throw ((← look).2, .functionName)
      | _, _, _ => return (s, none)
    | _ => return (s, none)

mutual

/-- Commands up to a token that ends their list. There has to be one, unless the list
may be empty. The lists of a script end at a line end, too. -/
def list : Nat → Bool → Bool → Reader Command
  | 0, _, _ => return .nothing
  | bound + 1, isLine, mayBeEmpty => do
    let size := (← get).length
    if !isLine then skipLines size
    let (token, _) ← look
    let isOver := token = .operator .finish || (mayBeEmpty &&
      (token = .operator .closing || token = .operator .endBranch || token = .operator .line ||
        (reserved? token).any closers.contains))
    if isOver then return .nothing
    let first ← row bound
    let (token, _) ← look
    if token = .operator .next then
      skip
      return .sequence first (← list bound isLine true)
    else if token = .operator .background then
      skip
      return .sequence (.background first) (← list bound isLine true)
    else if token = .operator .line && !isLine then
      return .sequence first (← list bound isLine true)
    else return first

/-- Pipelines, each of which depends on the one in front. -/
def row : Nat → Reader Command
  | 0 => return .nothing
  | bound + 1 => do rowRest bound (← pipeline bound)

/-- The rest of a row whose first pipelines are given. -/
def rowRest : Nat → Command → Reader Command
  | 0, first => return first
  | bound + 1, first => do
    if ← takes .whenOk then
      skipLines (← get).length
      rowRest bound (.both first (← pipeline bound))
    else if ← takes .whenFailed then
      skipLines (← get).length
      rowRest bound (.either first (← pipeline bound))
    else return first

/-- Commands, each of which reads what the one in front writes. -/
def pipeline : Nat → Reader Command
  | 0 => return .nothing
  | bound + 1 => do
    if reserved? (← look).1 = some "!" then
      skip
      return .negated (← pipes bound)
    else pipes bound

/-- A command, and those that its output goes to. -/
def pipes : Nat → Reader Command
  | 0 => return .nothing
  | bound + 1 => do
    let first ← command bound
    if ← takes .pipe then
      skipLines (← get).length
      return .pipe first (← pipes bound)
    else return first

/-- A command with its redirections. -/
def command : Nat → Reader Command
  | 0 => return .nothing
  | bound + 1 => do
    let (token, line) ← look
    match token with
    | .operator .opening =>
      skip
      let body ← list bound false false
      expectOperator .closing
      wrapped (.apart body)
    | .operator _ => refuse true none
    | token =>
      match reserved? token with
      | some "if" =>
        skip
        let body ← choice bound
        wrapped body
      | some "while" =>
        skip
        let body ← loop bound false
        wrapped body
      | some "until" =>
        skip
        let body ← loop bound true
        wrapped body
      | some "for" =>
        skip
        let body ← walk bound
        wrapped body
      | some "case" =>
        skip
        match (← look).1 with
        | .word subject =>
          skip
          skipLines (← get).length
          expect "in"
          let found ← branches bound
          wrapped (.cases subject found)
        | _ => refuse false (some "word")
      | some "\x7b" =>
        skip
        let body ← list bound false false
        expect "\x7d"
        wrapped body
      | some _ => refuse true none
      | none =>
        match ← simpleRest ((← get).length + 1) { line } with
        | (_, some name) =>
          skipLines (← get).length
          return .define name (← command bound)
        | (s, none) => return .simple s
where
  /-- A command made of others, with the redirections behind it. -/
  wrapped (body : Command) : Reader Command := do
    match ← redirections ((← get).length + 1) with
    | [] => return body
    | found => return .redirected body found

/-- What stands behind `if`. -/
def choice : Nat → Reader Command
  | 0 => return .nothing
  | bound + 1 => do
    let test ← list bound false false
    expect "then"
    let yes ← list bound false false
    match reserved? (← look).1 with
    | some "elif" =>
      skip
      return .choice test yes (← choice bound)
    | some "else" =>
      skip
      let no ← list bound false false
      expect "fi"
      return .choice test yes no
    | _ =>
      expect "fi"
      return .choice test yes .nothing

/-- What stands behind `while` or `until`. -/
def loop : Nat → Bool → Reader Command
  | 0, _ => return .nothing
  | bound + 1, ends => do
    let test ← list bound false false
    expect "do"
    let body ← list bound false false
    expect "done"
    return .loop ends test body

/-- What stands behind `for`. -/
def walk : Nat → Reader Command
  | 0 => return .nothing
  | bound + 1 => do
    let (token, line) ← look
    let named := match token with
      | .word w => name? w
      | _ => none
    match named with
    | none => throw (line, .loopVariable)
    | some name =>
      skip
      skipLines (← get).length
      let found ← if reserved? (← look).1 = some "in" then do
          skip
          let found ← words (← get).length
          if !(← takes .next) then
            if !(← takes .line) then refuse false none
          pure (some found)
        else do
          let _ ← takes .next
          pure none
      skipLines (← get).length
      expect "do"
      let body ← list bound false false
      expect "done"
      return .walk name found body

/-- What stands behind `in` of a choice by patterns, its end included. -/
def branches : Nat → Reader (List (List Word × Command))
  | 0 => return []
  | bound + 1 => do
    skipLines (← get).length
    if reserved? (← look).1 = some "esac" then
      skip
      return []
    let _ ← takes .opening
    let patterns ← alternatives ((← get).length + 1)
    expectOperator .closing
    let body ← list bound false true
    skipLines (← get).length
    if ← takes .endBranch then return (patterns, body) :: (← branches bound)
    if reserved? (← look).1 = some "esac" then
      skip
      return [(patterns, body)]
    refuse true (some Operator.endBranch.name)
where
  /-- Patterns with bars between them. -/
  alternatives : Nat → Reader (List Word)
    | 0 => return []
    | bound + 1 => do
      match (← look).1 with
      | .word w =>
        skip
        if ← takes .pipe then return w :: (← alternatives bound)
        return [w]
      | .operator .finish => return []
      | _ =>
        skip
        return []

end

end Reader

/-- The commands of a script line by line, and the fault that hides the rest with its
line. -/
structure Script where
  lines : List Command
  fault : Option (Nat × Fault) := none

namespace Script

/-- The script of some tokens, of which each line takes at least one. -/
def ofTokens : Nat → List (Token × Nat) → Script
  | 0, _ => ⟨[], none⟩
  | bound + 1, tokens =>
    let readLine : Reader Command := do
      let line ← Reader.list (8 * tokens.length + 8) true true
      let (token, _) ← Reader.look
      if token = .operator .line then Reader.skip
      else if token ≠ .operator .finish then Reader.refuse true none
      return line
    match tokens with
    | [] | [(.operator .finish, _)] => ⟨[], none⟩
    | tokens =>
      match readLine tokens with
      | .error fault => ⟨[], some fault⟩
      | .ok (line, rest) =>
        let others := ofTokens bound rest
        ⟨line :: others.lines, others.fault⟩

/-- The script of a text. -/
def read (cs : List Char) : Script :=
  let tokens := Token.read cs
  ofTokens (tokens.length + 1) tokens

end Script

end Scaffold.Shell

/-
A small shell: what the commands of a schema are run by.

* `Shell.exec` runs a command of a script;
* `Shell.invoke` runs what a word names: a function, a command of the shell itself, a
  program, or a script in a file;
* `Shell.run` runs a text in a folder;
* `Host.withShell` runs the commands of a host.

A command that is not known fails with status 127, and the file system is only touched
through calls.
-/
import Scaffold.Shell.Expansion
import Scaffold.Shell.Programs

namespace Scaffold.Shell

open Text

/-! ### Commands of the shell itself -/

/-- A path without its parts that lead up again. -/
def straight (path : String) : String :=
  Path.ofComponents ((Path.components path).foldl (fun done c =>
    match c, done.getLast? with
    | .up, some (.name _) => done.dropLast
    | c, _ => done ++ [c]) [])

/-- Goes to another folder. -/
def changeFolder (words : List String) : ShellM Nat := do
  let s ← get
  let goTo (path : String) : ShellM Nat := do
    if ← isFolderAt path then
      let place := straight (← located path)
      modify fun s => { s with
        folder := place
        values := s.values.insert "OLDPWD" s.place }
      return 0
    else faulty 2 s!"cd: can't cd to {path}"
  match words with
  | [] => return 0
  | "-" :: _ =>
    let status ← goTo ((s.values.get? "OLDPWD").getD s.place)
    write ((← get).place ++ "\n")
    return status
  | "--" :: path :: _ | path :: _ => goTo path

/-- The signals, by their numbers and names. -/
def signals : List (String × String) :=
  [("0", "EXIT"), ("1", "HUP"), ("2", "INT"), ("3", "QUIT"), ("9", "KILL"), ("13", "PIPE"),
   ("14", "ALRM"), ("15", "TERM"), ("17", "CHLD"), ("18", "CONT"), ("23", "URG"),
   ("28", "WINCH")]

/-- The name of a signal. -/
def signalName (word : String) : String :=
  let cs := word.toList
  let name := String.ofList ((after? "SIG".toList cs).getD cs)
  (signals.lookup name).getD name

/-- The signals that end no program. -/
def harmlessSignals : List String := ["EXIT", "CHLD", "CONT", "URG", "WINCH"]

/-- The values of the words that `read` takes from a line: the last one takes the rest. -/
def readValues (separators : List Char) : Nat → List Char → List String
  | 0, _ => []
  | 1, cs =>
    let isBlank (c : Char) : Bool := separators.contains c && (c == ' ' || c == '\t')
    [String.ofList (((cs.dropWhile isBlank).reverse.dropWhile isBlank).reverse)]
  | n + 2, cs =>
    let isBlank (c : Char) : Bool := separators.contains c && (c == ' ' || c == '\t')
    let cs := cs.dropWhile isBlank
    let value := cs.takeWhile fun c => !separators.contains c
    let rest := (cs.drop value.length).dropWhile isBlank
    let rest := match rest with
      | c :: tail =>
        if separators.contains c && (cs.drop value.length).length = rest.length then tail else rest
      | [] => []
    String.ofList value :: readValues separators (n + 1) rest

/-- A line of a text without the backslashes in it, and what follows it. A backslash in
front of the end of the line joins the next one. -/
def joinedLine : List Char → List Char × List Char × Bool
  | [] => ([], [], false)
  | '\n' :: rest => ([], rest, true)
  | '\\' :: '\n' :: rest => joinedLine rest
  | '\\' :: c :: rest => let (line, tail, isWhole) := joinedLine rest; (c :: line, tail, isWhole)
  | c :: rest => let (line, tail, isWhole) := joinedLine rest; (c :: line, tail, isWhole)

/-- Whether a text is a name of variables. -/
def isName (text : String) : Bool :=
  text.toList.head?.any isIdentStart && text.toList.all isIdentRest

/-- Sets variables to the words of a line. -/
def readLine (words : List String) : ShellM Nat := do
  let isPlain := words.head? = some "-r"
  let names := if isPlain then words.tail else words
  if names.isEmpty then faulty 2 "read: arg count"
  else match names.find? fun n => !isName n with
    | some name => faulty 2 s!"read: {name}: bad variable name"
    | none =>
      let s ← get
      let bytes := rawText s.input.bytes
      let (line, rest, isWhole) := if isPlain then
          let line := bytes.takeWhile (· != '\n')
          (line, bytes.drop (line.length + 1), decide (line.length < bytes.length))
        else joinedLine bytes
      set { s with input := { s.input with bytes := rawBytes rest } }
      let text := (textOf (rawBytes line)).toList
      (names.zip (readValues s.separators names.length text)).forM fun (name, value) =>
        setVariable name value
      return if isWhole then 0 else 1

/-- What an argument of `export` or `readonly` names, and the value that it gives. -/
def declaration (word : String) : String × Option String :=
  match splitOnce '=' word.toList with
  | some (name, value) => (String.ofList name, some (String.ofList value))
  | none => (word, none)

/-- Sets variables and marks them. -/
def declare (command : String) (words : List String) (mark : String → Session → Session) :
    ShellM Nat := do
  words.forM fun word => do
    let (name, value) := declaration word
    if !isName name then
      tell s!"{command}: {name}: bad variable name"
      endWith 2
    if let some value := value then setVariable name value
    modify (mark name)
  return 0

/-- The options of the shell by their names. -/
def optionNames : List (String × Char) :=
  [("errexit", 'e'), ("nounset", 'u'), ("noglob", 'f'), ("verbose", 'v'), ("xtrace", 'x'),
   ("allexport", 'a'), ("noexec", 'n'), ("monitor", 'm'), ("noclobber", 'C')]

/-- Switches options of the shell. -/
def switchOption (isOn : Bool) (c : Char) : ShellM Unit :=
  modify fun s => match c with
    | 'e' => { s with stopsOnFailure := isOn }
    | 'u' => { s with stopsOnUnset := isOn }
    | _ => s

/-- Switches options, and sets the arguments. -/
def setOptions : List String → ShellM Nat
  | [] => return 0
  | "--" :: rest => do
    modify fun s => { s with arguments := rest }
    return 0
  | "-o" :: name :: rest | "+o" :: name :: rest => do
    match optionNames.lookup name with
    | some c =>
      switchOption true c
      setOptions rest
    | none =>
      tell s!"set: Illegal option -o {name}"
      endWith 2
  | word :: rest => do
    match word.toList with
    | sign :: c :: cs =>
      if sign == '-' || sign == '+' then
        match (c :: cs).find? fun c => !(optionNames.map Prod.snd).contains c with
        | some c =>
          tell s!"set: Illegal option {sign}{c}"
          endWith 2
        | none =>
          (c :: cs).forM (switchOption (sign == '-'))
          setOptions rest
      else
        modify fun s => { s with arguments := word :: rest }
        return 0
    | _ =>
      modify fun s => { s with arguments := word :: rest }
      return 0

/-- The count that a command takes, one if none is given. -/
def countOf (command : String) (words : List String) (usual : Nat) : ShellM Nat :=
  match words with
  | [] => return usual
  | word :: _ =>
    match number? word.toList with
    | some n => return n
    | none => do
      tell s!"{command}: Illegal number: {word}"
      endWith 2

/-- The words that begin commands made of others. -/
def keywords : List String := Reader.reserved

/-- The commands of the shell itself. -/
def ownCommands : List String :=
  [":", ".", "[", "alias", "bg", "break", "cd", "command", "continue", "echo", "eval", "exec",
   "exit", "export", "false", "fg", "getopts", "hash", "jobs", "kill", "local", "printf", "pwd",
   "read", "readonly", "return", "set", "shift", "test", "times", "trap", "true", "type",
   "ulimit", "umask", "unalias", "unset", "wait"]

/-- The commands of the shell whose faults end it, and whose variables stay set. -/
def lastingCommands : List String :=
  [":", ".", "break", "continue", "eval", "exec", "exit", "export", "readonly", "return", "set",
   "shift", "times", "trap", "unset"]

/-- The commands that come with the shell and run others. -/
def carriers : List String := ["sh", "dash", "env", "xargs"]

/-- The path that a program is found at. -/
def programPath? (name : String) : Option String :=
  if (program name []).isSome || carriers.contains name then some s!"/usr/bin/{name}" else none

/-- Tells what words name. -/
def describe (words : List String) : ShellM Nat :=
  each words fun word => do
    let s ← get
    let tellIt (what : String) : ShellM Nat := do
      write s!"{word} {what}\n"
      return 0
    if keywords.contains word then tellIt "is a shell keyword"
    else if s.functions.contains word then tellIt "is a shell function"
    else if lastingCommands.contains word then tellIt "is a special shell builtin"
    else if ownCommands.contains word then tellIt "is a shell builtin"
    else match programPath? word with
      | some path => tellIt s!"is {path}"
      | none =>
        write s!"{word}: not found\n"
        return 127

/-- Writes how a word would be run. -/
def locate (word : String) : ShellM Nat := do
  let s ← get
  if keywords.contains word || s.functions.contains word || ownCommands.contains word then
    write (word ++ "\n")
    return 0
  else match programPath? word with
    | some path =>
      write (path ++ "\n")
      return 0
    | none => return 127

/-- Writes the paths of programs. -/
def locatePrograms (words : List String) : ShellM Nat :=
  each words fun word => do
    match programPath? word with
    | some path =>
      write (path ++ "\n")
      return 0
    | none => return 1

/-- Writes words with escapes. -/
def echo (words : List String) : ShellM Nat := do
  match (← get).streams.lookup 1 with
  | none => faulty 1 "echo: echo: I/O error"
  | some _ =>
    emit 1 ⟨(echoed words).toArray⟩
    return 0

/-- Writes words in a format. -/
def printFormat (words : List String) : ShellM Nat := do
  match if words.head? = some "--" then words.tail else words with
  | [] => faulty 2 "printf: usage: printf format [arg ...]"
  | format :: words =>
    let f := formatted format.toList (words.length + 1) words
    f.faults.forM fun fault => tell s!"printf: {fault}"
    emit 1 ⟨f.bytes.toArray⟩
    return if f.isOver && !f.faults.isEmpty then 2 else if f.faults.isEmpty then 0 else 1

/-- A command of the shell itself that runs no other. -/
def ownCommand (name : String) (words : List String) : Option (ShellM Nat) :=
  match name with
  | ":" | "true" | "wait" | "ulimit" | "times" | "hash" | "alias" | "unalias" | "fg"
  | "bg" | "jobs" => some (return 0)
  | "false" => some (return 1)
  | "umask" => some do
    if words.isEmpty then write "0022\n"
    return 0
  | "getopts" => some (return 1)
  | "echo" => some (echo words)
  | "printf" => some (printFormat words)
  | "pwd" => some do
    write ((← get).place ++ "\n")
    return 0
  | "cd" => some (changeFolder words)
  | "test" => some (decideWords name words)
  | "[" => some do
    if words.getLast? = some "]" then decideWords name words.dropLast
    else faulty 2 "[: missing ]"
  | "read" => some (readLine words)
  | "type" => some (describe words)
  | "exit" => some do endWith ((← countOf name words (← get).status) % 256)
  | "return" => some do
    let status ← countOf name words (← get).status
    modify fun s => { s with status }
    throw .function
  | "break" | "continue" => some do
    let count ← countOf name words 1
    let depth := (← get).loopDepth
    if depth = 0 then return 0
    else throw (if name == "break" then .loops (min count depth) else .rounds (min count depth))
  | "export" => some (declare name (words.filter (· != "-p")) fun name s =>
      { s with passedOn := name :: s.passedOn.erase name })
  | "readonly" => some (declare name (words.filter (· != "-p")) fun name s =>
      { s with fixed := name :: s.fixed.erase name })
  | "local" => some do
    match (← get).locals with
    | none =>
      tell "local: not in a function"
      endWith 2
    | some _ =>
      words.forM fun word => do
        let (name, _) := declaration word
        modify fun s => { s with
          locals := s.locals.map fun kept => (name, s.values.get? name) :: kept }
      declare name words fun _ s => s
  | "unset" => some do
    match words.find? fun w => !isName w && w != "-f" && w != "-v" with
    | some word =>
      tell s!"unset: {word}: bad variable name"
      endWith 2
    | none =>
      let isOfFunctions := words.head? = some "-f"
      words.forM fun word => modify fun s =>
        if isOfFunctions then { s with functions := s.functions.erase word }
        else { s with values := s.values.erase word, passedOn := s.passedOn.erase word }
      return 0
  | "set" => some (setOptions words)
  | "shift" => some do
    let count ← countOf name words 1
    let s ← get
    if s.arguments.length < count then
      tell "shift: can't shift that many"
      endWith 2
    set { s with arguments := s.arguments.drop count }
    return 0
  | "trap" => some do
    match words with
    | action :: names =>
      if names.isEmpty then return 0
      names.foldlM (fun status word => do
          let name := signalName word
          if !(signals.map Prod.snd).contains name then
            failed 1 s!"trap: {word}: bad trap"
          else
            modify fun s =>
              let others := s.traps.filter (·.1 != name)
              { s with traps := if action == "-" then others else (name, action) :: others }
            return status)
        0
    | [] => return 0
  | _ => none

/-! ### Streams -/

/-- Opens a stream for a file. Says why it cannot be done. -/
def openStream (stream : Nat) (isAppend : Bool) (name : String) : ShellM (Option String) := do
  let turn (sink : Sink) : ShellM (Option String) := do
    modify fun s => { s with streams := (stream, sink) :: s.streams.filter (·.1 != stream) }
    return none
  match name, (← get).streams.lookup 1, (← get).streams.lookup 2 with
  | "/dev/stdout", some sink, _ | "/dev/stderr", _, some sink => turn sink
  | _, _, _ =>
    let path ← located name
    if path == emptyFile then turn .nowhere
    else
      let isKept ← do
        match ← ask (.entry path) with
        | .ok (some ⟨.file, _⟩) => pure isAppend
        | _ => pure false
      let opened ← if isKept then pure (.ok ()) else ask (.write path .empty)
      match opened with
      | .ok () => turn (.file path)
      | .error f =>
        let reason := if reasonOf f == missing then "Directory nonexistent" else reasonOf f
        return some s!"cannot create {name}: {reason}"

/-- Carries out a redirection with the text of its word. Says why it cannot be done. -/
def redirect (stream : Nat) (r : Redirection) (name : String) (document : ByteArray) :
    ShellM (Option String) := do
  match r with
  | .document _ =>
    modify fun s => { s with input := ⟨document, true⟩ }
    return none
  | .fromFile =>
    match ← contentAt name with
    | .ok bytes =>
      modify fun s => { s with input := ⟨bytes, name != emptyFile⟩ }
      return none
    | .error _ => return some s!"cannot open {name}: No such file"
  | .toFile isAppend => openStream stream isAppend name
  | .toStream =>
    let s ← get
    if name == "-" then
      set { s with streams := s.streams.filter (·.1 != stream) }
      return none
    match number? name.toList with
    | none => return some s!"Syntax error: Bad fd number"
    | some target =>
      if stream = 0 || target = 0 then return none
      match s.streams.lookup target with
      | some sink =>
        set { s with streams := (stream, sink) :: s.streams.filter (·.1 != stream) }
        return none
      | none => return some s!"{target}: Bad file descriptor"

/-! ### Running -/

/-- Work that leaves the streams as they were, and the input if it gets one of its own. -/
def withStreams {α : Type} (hasInput : Bool) (work : ShellM α) : ShellM α := do
  let before ← get
  let restore : ShellM Unit := modify fun s =>
    { s with streams := before.streams, input := if hasInput then before.input else s.input }
  let result ← tryCatch work fun leave => do
    restore
    throw leave
  restore
  return result

/-- Work with some variables set, which are passed on to programs. -/
def withVariables (settings : List (String × String)) (work : ShellM Nat) : ShellM Nat := do
  let before ← get
  settings.forM fun (name, value) => setVariable name value
  modify fun s => { s with passedOn := settings.map Prod.fst ++ s.passedOn }
  let restore : ShellM Unit := modify fun s =>
    { s with
      passedOn := before.passedOn
      values := settings.foldl (fun values (name, _) =>
        match before.values.get? name with
        | some old => values.insert name old
        | none => values.erase name) s.values }
  let status ← tryCatch work fun leave => do
    restore
    throw leave
  restore
  return status

/-- Sets the status of the last command. A failure ends the shell if it was asked to,
unless the status is looked at. -/
def settle (isTested : Bool) (status : Nat) : ShellM Nat := do
  modify fun s => { s with status }
  if status != 0 && !isTested && (← get).stopsOnFailure then throw .shell
  return status

/-- A round of a loop: whether there may be another one, and its status. -/
def inLoop (work : ShellM Nat) : ShellM (Bool × Nat) := do
  modify fun s => { s with loopDepth := s.loopDepth + 1 }
  let result ← tryCatch (do return (true, ← work)) fun leave => do
    modify fun s => { s with loopDepth := s.loopDepth - 1 }
    match leave with
    | .loops (n + 2) => throw (.loops (n + 1))
    | .rounds (n + 2) => throw (.rounds (n + 1))
    | .loops _ =>
      modify fun s => { s with loopDepth := s.loopDepth + 1 }
      return (false, 0)
    | .rounds _ =>
      modify fun s => { s with loopDepth := s.loopDepth + 1 }
      return (true, 0)
    | leave => throw leave
  modify fun s => { s with loopDepth := s.loopDepth - 1 }
  return result

/-- The rounds of a walk over words. -/
def walkOver (name : String) (body : ShellM Nat) : List String → Nat → ShellM Nat
  | [], last => return last
  | word :: rest, _ => do
    setVariable name word
    match ← inLoop body with
    | (true, status) => walkOver name body rest status
    | (false, status) => return status

/-- A session for a script of its own, which knows only the variables that are passed
on. -/
def Session.fresh (s : Session) (title : String) (arguments : List String) : Session :=
  { s with
    title, arguments
    context := ""
    line := 1
    values := ⟨s.values.entries.filter fun e => s.passedOn.contains e.1⟩
    functions := ∅
    fixed := []
    locals := none
    loopDepth := 0
    stopsOnFailure := false
    stopsOnUnset := false }

mutual

/-- Runs the lines of a script, and tells its fault when they are done. -/
def runText : Nat → Bool → List Char → ShellM Nat
  | 0, _, _ => throw .killed
  | bound + 1, isTested, text => do
    let script := Script.read text
    script.lines.forM fun command => do
      let _ ← exec bound isTested command
    match script.fault with
    | none => return (← get).status
    | some (line, fault) =>
      modify fun s => { s with line }
      abort fault.message

/-- What a script writes, run in a session of its own. -/
def output : Nat → List Char → ShellM ByteArray
  | 0, _ => throw .killed
  | bound + 1, text => do
    let (status, bytes) ← collect (apart (runText bound false text))
    modify fun s => { s with inner := status, status }
    return bytes

/-- Runs a command. The status of a tested command is looked at, so its failure does not
end the shell. -/
def exec : Nat → Bool → Command → ShellM Nat
  | 0, _, _ => throw .killed
  | bound + 1, isTested, command => do
    match command with
    | .nothing => return (← get).status
    | .simple s => settle isTested (← simple bound isTested s)
    | .redirected body redirections =>
      let status ← withStreams (redirections.any (·.1 == 0)) do
        if ← redirectAll bound redirections then exec bound isTested body else return 2
      settle isTested status
    | .apart body => settle isTested (← apart (exec bound isTested body))
    | .background body =>
      let _ ← apart (withStreams true do
        modify fun s => { s with input := {} }
        exec bound isTested body)
      settle true 0
    | .pipe first second =>
      let (_, bytes) ← collect (apart (exec bound isTested first))
      let status ← apart (withStreams true do
        modify fun s => { s with input := ⟨bytes, false⟩ }
        exec bound isTested second)
      settle isTested status
    | .negated body =>
      let status ← exec bound true body
      settle true (if status = 0 then 1 else 0)
    | .both first second =>
      let status ← exec bound true first
      if status = 0 then exec bound isTested second else return status
    | .either first second =>
      let status ← exec bound true first
      if status = 0 then return status else exec bound isTested second
    | .sequence first second =>
      let _ ← exec bound isTested first
      exec bound isTested second
    | .choice test yes no =>
      let status ← exec bound true test
      if status = 0 then exec bound isTested yes
      else
        let _ ← settle true 0
        exec bound isTested no
    | .loop ends test body => settle true (← rounds bound isTested ends test body 0)
    | .walk name words body =>
      let texts ← match words with
        | some words => words.flatMapM (wordFields (output bound))
        | none => pure (← get).arguments
      settle true (← walkOver name (exec bound isTested body) texts 0)
    | .cases subject branches =>
      let text ← wordText (output bound) subject
      let found ← branches.findM? fun branch => branch.1.anyM fun pattern => do
        let ps ← expand (output bound) maxWordDepth pattern
        return (Piece.wildcardOf ps).accepts text.toList
      let _ ← settle true 0
      match found with
      | some (_, body) => exec bound isTested body
      | none => return 0
    | .define name body =>
      modify fun s => { s with functions := s.functions.insert name body }
      settle true 0

/-- The rounds of a loop, whose condition has to fail if `ends` is set. -/
def rounds : Nat → Bool → Bool → Command → Command → Nat → ShellM Nat
  | 0, _, _, _, _, _ => throw .killed
  | bound + 1, isTested, ends, test, body, last => do
    let (goesOn, status) ← inLoop (exec bound true test)
    if !goesOn then return 0
    else if (status = 0) == ends then return last
    else
      let (goesOn, status) ← inLoop (exec bound isTested body)
      if goesOn then rounds bound isTested ends test body status else return status

/-- Carries out redirections. Tells the first that cannot be done. -/
def redirectAll : Nat → List (Nat × Redirection × Word) → ShellM Bool
  | 0, _ => throw .killed
  | _, [] => return true
  | bound + 1, (stream, r, word) :: rest => do
    let name ← wordText (output bound) word
    let document ← match r with
      | .document text => String.toUTF8 <$> wordText (output bound) text
      | _ => pure .empty
    match ← redirect stream r name document with
    | none => redirectAll bound rest
    | some fault =>
      complain fault
      return false

/-- Runs a simple command. -/
def simple : Nat → Bool → Simple → ShellM Nat
  | 0, _, _ => throw .killed
  | bound + 1, isTested, s => do
    modify fun t => { t with line := s.line, inner := 0 }
    let words ← s.words.flatMapM (wordFields (output bound))
    let settings : ShellM (List (String × String)) := s.assignments.mapM fun (name, word) => do
      let value ← wordText (output bound) word
      return (name, value)
    match words with
    | [] =>
      let isReady ← withStreams true (redirectAll bound s.redirections)
      s.assignments.forM fun (name, word) => do
        setVariable name (← wordText (output bound) word)
      let inner := (← get).inner
      return if isReady then inner else 2
    | "exec" :: words =>
      if !(← redirectAll bound s.redirections) then endWith 2
      match words with
      | [] => return 0
      | name :: arguments =>
        let given ← settings
        let status ← withVariables given do
          modify fun t => { t with context := "exec: ", functions := ∅ }
          invoke bound isTested name arguments
        endWith status
    | name :: arguments =>
      let isLasting := lastingCommands.contains name && !(← get).functions.contains name
      withStreams (s.redirections.any (·.1 == 0)) do
        if !(← redirectAll bound s.redirections) then
          if isLasting then endWith 2 else return 2
        else if isLasting then
          s.assignments.forM fun (name, word) => do
            setVariable name (← wordText (output bound) word)
          invoke bound isTested name arguments
        else
          let given ← settings
          if given.isEmpty then invoke bound isTested name arguments
          else withVariables given (invoke bound isTested name arguments)

/-- Runs a script for a command of some name, whose faults bear that name. -/
def runNamed : Nat → Bool → String → List Char → ShellM Nat
  | 0, _, _, _ => throw .killed
  | bound + 1, isTested, context, text => do
    let before := (← get).context
    modify fun s => { s with context := context ++ ": ", status := 0 }
    let status ← runText bound isTested text
    modify fun s => { s with context := before }
    return status

/-- Runs a script as a program. -/
def runProgram : Nat → String → List String → List Char → ShellM Nat
  | 0, _, _, _ => throw .killed
  | bound + 1, title, arguments, text =>
    apart do
      modify fun s => { s.fresh title arguments with status := 0 }
      runText bound false text

/-- Runs what a word names. -/
def invoke : Nat → Bool → String → List String → ShellM Nat
  | 0, _, _, _ => throw .killed
  | bound + 1, isTested, name, words => do
    let s ← get
    match s.functions.get? name with
    | some body =>
      let kept := s.arguments
      set { s with arguments := words, locals := some [], loopDepth := 0 }
      let finish : ShellM Unit := modify fun t =>
        { t with
          arguments := kept
          locals := s.locals
          loopDepth := s.loopDepth
          values := (t.locals.getD []).foldl (fun values (name, old) =>
            match old with
            | some old => values.insert name old
            | none => values.erase name) t.values }
      let status ← tryCatch (exec bound isTested body) fun leave => do
        match leave with
        | .function => return (← get).status
        | leave =>
          finish
          throw leave
      finish
      return status
    | none =>
      match name, words with
      | "eval", words => runNamed bound isTested "eval" (" ".intercalate words).toList
      | ".", [] => faulty 2 ".: filename argument required"
      | ".", path :: _ =>
        if !path.contains '/' then
          tell s!".: {path}: not found"
          endWith 2
        else match ← contentAt path with
          | .ok bytes =>
            tryCatch (runNamed bound isTested path (textOf bytes).toList) fun leave => do
              if leave != .function then throw leave
              return (← get).status
          | .error _ =>
            tell s!".: cannot open {path}: No such file"
            endWith 2
      | "command", "-v" :: word :: _ => locate word
      | "command", "-V" :: words => describe words
      | "command", [] => return 0
      | "command", word :: words =>
        modify fun t => { t with functions := ∅ }
        let status ← invoke bound isTested word words
        modify fun t => { t with functions := s.functions }
        return status
      | "kill", words => send bound isTested words
      | "sh", words | "dash", words => shell bound words
      | "env", words => environment bound isTested words
      | "xargs", words =>
        let given := splitBy (fun c => c == ' ' || c == '\t' || c == '\n') (rawText (← takeInput))
        let given := (given.filter (· ≠ [])).map fun cs => textOf (rawBytes cs)
        match words with
        | [] => invoke bound isTested "echo" given
        | word :: words => invoke bound isTested word (words ++ given)
      | "which", words => locatePrograms words
      | name, words =>
        match ownCommand name words, program name words with
        | some work, _ | none, some work => work
        | none, none => script bound name words

/-- Runs the script in a file that a word names. -/
def script : Nat → String → List String → ShellM Nat
  | 0, _, _ => throw .killed
  | bound + 1, name, words => do
    let refuse (status : Nat) (reason : String) : ShellM Nat := do
      complain s!"{name}: {reason}"
      return status
    if name.isEmpty then refuse 127 "Permission denied"
    else if !name.contains '/' then refuse 127 "not found"
    else if (← entryAt name).isNone then refuse 127 "not found"
    else
      let key ← keyOf name
      match (← get).runnable.contains key, ← contentAt name with
      | true, .ok bytes => runProgram bound name words (textOf bytes).toList
      | _, _ => refuse 126 "Permission denied"

/-- Runs a shell in a session of its own. -/
def shell : Nat → List String → ShellM Nat
  | 0, _ => throw .killed
  | bound + 1, words => do
    match words with
    | "-c" :: text :: rest => runProgram bound (rest.headD "sh") rest.tail text.toList
    | ["-c"] => failed 2 "sh: 0: -c requires an argument"
    | "-ec" :: text :: rest =>
      runProgram bound (rest.headD "sh") rest.tail ("set -e;".toList ++ text.toList)
    | "-e" :: rest | "-u" :: rest => shell bound rest
    | [] => runProgram bound "sh" [] (textOf (← takeInput)).toList
    | path :: arguments =>
      match ← contentAt path with
      | .ok bytes => runProgram bound path arguments (textOf bytes).toList
      | .error _ => failed 2 s!"sh: 0: cannot open {path}: No such file"

/-- Runs a command with variables set for it. -/
def environment : Nat → Bool → List String → ShellM Nat
  | 0, _, _ => throw .killed
  | bound + 1, isTested, words => do
    let isSetting (word : String) : Bool := word == "-i" || word.contains '='
    let settings := (words.takeWhile isSetting).filterMap fun word =>
      match declaration word with
      | (name, some value) => some (name, value)
      | _ => none
    match words.dropWhile isSetting with
    | [] =>
      let s ← get
      s.values.entries.forM fun (name, value) =>
        if s.passedOn.contains name then write s!"{name}={value}\n" else pure ()
      settings.forM fun (name, value) => write s!"{name}={value}\n"
      return 0
    | name :: arguments =>
      if name.contains '/' || (programPath? name).isSome || ownCommands.contains name then
        withVariables settings (invoke bound isTested name arguments)
      else failed 127 s!"env: '{name}': {missing}"

/-- Sends a signal, by which the shell may end itself. -/
def send : Nat → Bool → List String → ShellM Nat
  | 0, _, _ => throw .killed
  | bound + 1, isTested, words => do
    let usage := "kill: Usage: kill [-s sigspec | -signum | -sigspec] [pid | job]... or\n" ++
      "kill -l [exitstatus]"
    let signal (word target : String) : ShellM Nat := do
      let name := signalName word
      if name != "0" && !(signals.map Prod.snd).contains name && !isDigits name.toList then
        tell s!"kill: Illegal option -{(word.take 1).toString}"
        return 2
      else if target != ownNumber then
        tell "kill: No such process\n"
        return 1
      else match (← get).traps.lookup name with
        | some action =>
          if name == "KILL" then throw .killed
          let _ ← runText bound isTested action.toList
          return 0
        | none => if harmlessSignals.contains name then return 0 else throw .killed
    match words with
    | [] => faulty 2 usage
    | ["-s", word, target] => signal word target
    | [word, target] =>
      if word.startsWith "-" then signal (word.drop 1).toString target else signal "TERM" target
    | target :: _ => signal "TERM" target

end

/-- How many commands may stand inside each other at most. -/
def maxDepth : Nat := 10000

/-- Runs a text to its end, and what was asked to be run then. -/
def runWhole (text : String) : ShellM Unit := do
  let ending (work : ShellM Unit) : ShellM Unit := tryCatch work fun leave => do
    if leave = .killed then throw .killed
  ending do
    let _ ← runText maxDepth false text.toList
  let s ← get
  if let some action := s.traps.lookup "EXIT" then
    ending do
      modify fun s => { s with traps := [] }
      let _ ← runText maxDepth false action.toList
      modify fun t => { t with status := s.status }

/-- Runs a text in a folder that lies in `base`. -/
def run (base text folder : String) : Run CommandResult := do
  match ← Run.call (.entry folder) with
  | .ok (some ⟨.folder, _⟩) =>
    let (result, s) ← (runWhole text).run { base, folder }
    let status := match result with
      | .error .killed => none
      | _ => some (s.status : Int)
    let stream (n : Nat) : String := textOf (s.texts.getD n .empty)
    return ⟨text, status == some 0, status, stream 0, stream 1⟩
  | _ =>
    return ⟨text, false, none, "", "Failed to execute: No such file or directory (os error 2)"⟩

end Scaffold.Shell

namespace Scaffold

/-- The host whose commands are run by the shell, on its own files. -/
def Host.withShell {m : Type → Type} [Monad m] (base : String) (host : Host m) : Host m
  | .command text folder => (Shell.run base text folder).on host
  | call => host call

end Scaffold

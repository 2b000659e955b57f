/-
The shell between commands.

* A `Session` is where it stands: its folder, its variables, and where its streams go;
* `ShellM` is working in a session, which a `Leave` may cut short;
* `emit` writes to a stream, and `complain` tells a fault on the stream of errors.
-/
import Scaffold.Dictionary
import Scaffold.Host
import Scaffold.Path
import Scaffold.Shell.Command
import Scaffold.Text.Decimal
import Scaffold.Text.Scan
import Scaffold.Text.Utf8

namespace Scaffold.Shell

open Text

/-- Where what is written to a stream goes: into one of the texts that are collected, to
the end of a file, or nowhere. -/
inductive Sink where
  | text (number : Nat)
  | file (path : String)
  | nowhere
  deriving Repr, DecidableEq

/-- What is left to be read, and whether it comes from a file. -/
structure Input where
  bytes : ByteArray := .empty
  isFile : Bool := false
  deriving Inhabited

/-- The shell between commands. `base` is where relative folders lie, `title` is the name
that it gives itself in messages, and `context` is the command whose text it runs.
`inner` is the status of the last script whose output was taken, `locals` are the
values that come back when a function ends, and `loopDepth` counts the loops around a
command. -/
structure Session where
  base : String
  folder : String
  title : String := "sh"
  context : String := ""
  line : Nat := 1
  status : Nat := 0
  inner : Nat := 0
  values : Dictionary String String := ∅
  passedOn : List String := []
  fixed : List String := []
  functions : Dictionary String Command := ∅
  arguments : List String := []
  locals : Option (List (String × Option String)) := none
  loopDepth : Nat := 0
  runnable : List String := []
  input : Input := {}
  streams : List (Nat × Sink) := [(1, .text 0), (2, .text 1)]
  texts : Array ByteArray := #[.empty, .empty]
  stopsOnFailure : Bool := false
  stopsOnUnset : Bool := false
  traps : List (String × String) := []
  deriving Inhabited

/-- Why what follows is not run: loops are left or begun anew, a function is left, or the
shell comes to its end, by itself or by a signal. -/
inductive Leave where
  | loops (count : Nat)
  | rounds (count : Nat)
  | function
  | shell
  | killed
  deriving Repr, DecidableEq

/-- Working in a session. -/
abbrev ShellM := ExceptT Leave (StateT Session Run)

/-- Asks the surroundings. -/
def ask (c : Call) : ShellM c.Reply := liftM (Run.call c)

/-- A path as seen from the folder of the shell. -/
def located (path : String) : ShellM String := do
  return Path.join (← get).folder path

/-- The file that is always empty. -/
def emptyFile : String := "/dev/null"

/-! ### Streams -/

/-- Text whose characters are bytes. -/
def rawText (bytes : ByteArray) : List Char :=
  bytes.toList.map fun b => Char.ofNat b.toNat

/-- The bytes of a text whose characters are bytes. -/
def rawBytes (cs : List Char) : ByteArray :=
  ⟨(cs.map fun c => UInt8.ofNat c.toNat).toArray⟩

/-- A text with its bytes as characters. -/
def raw (text : String) : List Char := rawText text.toUTF8

/-- The text of some bytes. -/
def textOf (bytes : ByteArray) : String := String.ofList (ofBytes bytes.toList)

/-- Writes bytes to a stream. What goes to a closed stream is lost. -/
def emit (stream : Nat) (new : ByteArray) : ShellM Unit := do
  if new.isEmpty then return
  match (← get).streams.lookup stream with
  | some (.text n) => modify fun s => { s with texts := s.texts.modify n (· ++ new) }
  | some (.file path) =>
    let old := match ← ask (.read path) with
      | .ok bytes => bytes
      | .error _ => .empty
    let _ ← ask (.write path (old ++ new))
  | some .nowhere | none => return

/-- Writes a text to the stream of results. -/
def write (text : String) : ShellM Unit := emit 1 text.toUTF8

/-- Writes a text of bytes to the stream of results. -/
def writeRaw (cs : List Char) : ShellM Unit := emit 1 (rawBytes cs)

/-- Writes a line to the stream of errors. -/
def warn (text : String) : ShellM Unit := emit 2 (text ++ "\n").toUTF8

/-- Tells a fault in the name of the shell. -/
def tell (text : String) : ShellM Unit := do
  let s ← get
  warn s!"{s.title}: {s.line}: {text}"

/-- Tells a fault of the script that is run. -/
def complain (text : String) : ShellM Unit := do
  tell ((← get).context ++ text)

/-- Warns, and gives a status. -/
def failed (status : Nat) (message : String) : ShellM Nat := do
  warn message
  return status

/-- Tells a fault of a command, and gives a status. -/
def faulty (status : Nat) (message : String) : ShellM Nat := do
  tell message
  return status

/-- Ends the shell with a status. -/
def endWith {α : Type} (status : Nat) : ShellM α := do
  modify fun s => { s with status }
  throw .shell

/-- Tells a fault that ends the shell. -/
def abort {α : Type} (message : String) : ShellM α := do
  complain message
  endWith 2

/-- All that is left of the input. -/
def takeInput : ShellM ByteArray := do
  let s ← get
  set { s with input := { s.input with bytes := .empty } }
  return s.input.bytes

/-- What some work writes as results, instead of writing it. -/
def collect {α : Type} (work : ShellM α) : ShellM (α × ByteArray) := do
  let s ← get
  let n := s.texts.size
  set { s with texts := s.texts.push .empty
               streams := (1, Sink.text n) :: s.streams.filter (·.1 != 1) }
  let result ← work
  let after ← get
  set { after with texts := after.texts.take n, streams := s.streams }
  return (result, after.texts.getD n .empty)

/-- Work in a session of its own: what it changes is forgotten, except for what it wrote
and read. Its end is not the end of this one. -/
def apart (work : ShellM Nat) : ShellM Nat := do
  let before ← get
  modify fun s => { s with traps := [] }
  let status ← tryCatch work fun
    | .killed => throw .killed
    | _ => return (← get).status
  modify fun s => { before with texts := s.texts, input := s.input }
  return status

/-! ### Variables -/

/-- Sets a variable, unless it is fixed. -/
def setVariable (name value : String) : ShellM Unit := do
  if (← get).fixed.contains name then abort s!"{name}: is read only"
  modify fun s => { s with values := s.values.insert name value }

/-- The folder of the shell, in full. -/
def Session.place (s : Session) : String :=
  Path.ofComponents (Path.components (Path.join s.base s.folder))

/-- The number by which the shell knows itself. -/
def ownNumber : String := "1"

/-- The characters that part the words of a value. -/
def Session.separators (s : Session) : List Char :=
  ((s.values.get? "IFS").getD " \t\n").toList

/-- The value of a variable, or what the shell keeps under the name. -/
def Session.value? (s : Session) (name : String) : Option String :=
  match name with
  | "?" => some (toString s.status)
  | "$" => some ownNumber
  | "#" => some (toString s.arguments.length)
  | "0" => some s.title
  | "-" => some (if s.stopsOnFailure then "e" else "")
  | "LINENO" => some (toString s.line)
  | "*" | "@" =>
    let mark := (s.separators.head?.map Char.toString).getD ""
    if s.arguments.isEmpty then none else some (mark.intercalate s.arguments)
  | "PWD" => some ((s.values.get? name).getD s.place)
  | name =>
    match number? name.toList with
    | some (n + 1) => s.arguments[n]?
    | _ => s.values.get? name

/-! ### Failures -/

/-- The reason of a failure without what was tried and without its number. -/
def reasonOf : Failure → String
  | .filesystem _ reason =>
    let cs := reason.toList
    let cause := ((cutAt? ": ".toList cs).map Prod.snd).getD cs
    String.ofList (((cutAt? " (os error".toList cause).map Prod.fst).getD cause)
  | f => f.message

/-- The reason that there is nothing at a path. -/
def missing : String := "No such file or directory"

/-- The bytes of a file. -/
def contentAt (path : String) : ShellM (Except String ByteArray) := do
  if path == emptyFile then return .ok .empty
  match ← ask (.read (← located path)) with
  | .ok bytes => return .ok bytes
  | .error f => return .error (reasonOf f)

/-- What is at a path, if something is there. -/
def entryAt (path : String) : ShellM (Option Entry) := do
  return ((← ask (.entry (← located path))).toOption).getD none

/-- Whether there is a folder at a path, perhaps behind a link. -/
def isFolderAt (path : String) : ShellM Bool := do
  return (← ask (.list (← located path))).isOk

end Scaffold.Shell

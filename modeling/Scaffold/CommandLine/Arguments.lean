/-
What the words of a command line ask for.

Commands lie in levels: the tool, its commands, and the commands of `config`. Each
level has switches of its own, and those that all levels share.

* `Level.items` cuts the words of a level into switches with their values and free
  words, up to the name of a command;
* `Level.answers` takes the items in order and stops at the first that is wrong, or
  that asks for help;
* `Request.read` is what a whole line asks for. Of a shared switch that several
  levels set, the innermost one counts.
-/
import Scaffold.Text.Blank
import Scaffold.Text.Split

namespace Scaffold.CommandLine

open Text

/-- What is wrong with the words of a line. -/
inductive ArgumentFault where
  | unknownSwitch (word : String)
  | missingValue (switch : String)
  | unexpectedValue (switch : String)
  | invalidValue (name value : String)
  | repeatedSwitch (switch : String)
  | conflict (switch other : String)
  | unexpectedWord (word : String)
  | missing (name : String)
  | missingCommand
  | unknownCommand (word : String)
  deriving Repr, DecidableEq

/-- The text of a fault. -/
def ArgumentFault.message : ArgumentFault → String
  | unknownSwitch word => s!"unexpected argument '{word}'"
  | missingValue switch => s!"a value is required for '--{switch}'"
  | unexpectedValue switch => s!"'--{switch}' takes no value"
  | invalidValue name value => s!"invalid value '{value}' for '{name}'"
  | repeatedSwitch switch => s!"'--{switch}' cannot be used multiple times"
  | conflict switch other => s!"'--{switch}' cannot be used with '--{other}'"
  | unexpectedWord word => s!"unexpected argument '{word}'"
  | missing name => s!"'{name}' is required"
  | missingCommand => "a command is required"
  | unknownCommand word => s!"unrecognized command '{word}'"

/-- Why a line is not carried out. -/
inductive Stop where
  | fault (f : ArgumentFault)
  | help
  | version
  deriving Repr, DecidableEq

/-! ### Values -/

/-- How results are shown. -/
inductive OutputFormat where
  | auto
  | human
  | plain
  | json
  deriving Repr, DecidableEq, Inhabited

/-- All formats with their names. -/
def OutputFormat.named : List (String × OutputFormat) :=
  [("auto", auto), ("human", human), ("plain", plain), ("json", json)]

/-- The format of a name. -/
def OutputFormat.ofName? (name : String) : Option OutputFormat :=
  named.lookup name

/-- The name and the value of a variable. Blanks around the name do not count, and it
must not be empty. -/
def assignment? (text : String) : Option (String × String) :=
  (splitOnce '=' text.toList).bind fun (name, value) =>
    let name := trim name
    if name.isEmpty then none else some (String.ofList name, String.ofList value)

/-- What kind of value is asked for. -/
inductive ValueKind where
  | text
  | path
  | assignment
  | format
  deriving Repr, DecidableEq

/-- Whether a text is a value of a kind. -/
def ValueKind.accepts : ValueKind → String → Bool
  | text, _ => true
  | path, value => value != ""
  | assignment, value => (assignment? value).isSome
  | format, value => (OutputFormat.ofName? value).isSome

/-! ### Items -/

/-- A switch: its name, its letter, the value it takes, and whether it may be given
more than once. -/
structure Switch where
  name : String
  letter : Option Char := none
  value : Option ValueKind := none
  isRepeatable : Bool := false
  deriving Repr, DecidableEq

/-- What the words of one level may be. -/
structure Level where
  switches : List Switch
  words : List (String × ValueKind) := []
  required : List String := []
  commands : List String := []

/-- One thing that the words of a level say. -/
inductive Item where
  | switch (s : Switch) (value : String)
  | word (text : String)
  | command (name : String) (rest : List String)
  | fault (f : ArgumentFault)
  deriving Repr, DecidableEq

/-- Whether a word looks like a switch. -/
def looksLikeSwitch (word : String) : Bool :=
  word != "-" && word.toList.head? = some '-'

/-- What a switch by name says, and the switch that still needs a value. -/
def Level.long (l : Level) (word : String) (body : List Char) : List Item × Option Switch :=
  let (name, value) := match splitOnce '=' body with
    | some (name, value) => (name, some (String.ofList value))
    | none => (body, none)
  match l.switches.find? fun s => s.name.toList = name, value with
  | none, _ => ([.fault (.unknownSwitch word)], none)
  | some s, value =>
    match s.value, value with
    | none, none => ([.switch s ""], none)
    | none, some _ => ([.fault (.unexpectedValue s.name)], none)
    | some _, some v => ([.switch s v], none)
    | some _, none => ([], some s)

/-- What a row of letters says, and the switch that still needs a value. What follows
the letter of a switch with a value is its value. -/
def Level.short (l : Level) (word : String) : List Char → List Item × Option Switch
  | [] => ([], none)
  | c :: rest =>
    match l.switches.find? fun s => s.letter = some c with
    | none => ([.fault (.unknownSwitch word)], none)
    | some s =>
      if s.value.isNone then
        let (items, pending) := l.short word rest
        (.switch s "" :: items, pending)
      else
        match rest with
        | [] => ([], some s)
        | '=' :: value => ([.switch s (String.ofList value)], none)
        | value => ([.switch s (String.ofList value)], none)

/-- What the words of a level say. A switch that needs a value takes the next word,
unless that looks like a switch; after `--` there are only free words. -/
def Level.items (l : Level) (pending : Option Switch) : List String → List Item
  | [] => (pending.map fun s => Item.fault (.missingValue s.name)).toList
  | word :: rest =>
    match pending with
    | some s =>
      if looksLikeSwitch word then [.fault (.missingValue s.name)]
      else .switch s word :: l.items none rest
    | none =>
      if l.commands.contains word then [.command word rest]
      else if word = "--" then rest.map .word
      else
        match word.toList with
        | '-' :: '-' :: body =>
          let (items, pending) := l.long word body
          items ++ l.items pending rest
        | '-' :: c :: body =>
          let (items, pending) := l.short word (c :: body)
          items ++ l.items pending rest
        | _ => .word word :: l.items none rest

/-! ### Answers -/

/-- What a level has been told. -/
structure Answers where
  switches : List (String × String) := []
  words : List String := []
  command : Option (String × List String) := none

/-- The value of a switch. -/
def Answers.value? (a : Answers) (name : String) : Option String :=
  a.switches.lookup name

/-- Whether a switch is set. -/
def Answers.has (a : Answers) (name : String) : Bool :=
  (a.value? name).isSome

/-- The values of a switch, in order. -/
def Answers.values (a : Answers) (name : String) : List String :=
  a.switches.filterMap fun p => if p.1 = name then some p.2 else none

/-- The free word of a place. -/
def Answers.word (a : Answers) (index : Nat) : String :=
  (a.words[index]?).getD ""

/-- Takes one item. -/
def Level.take (l : Level) (a : Answers) : Item → Except Stop Answers
  | .fault f => throw (.fault f)
  | .command name rest => return { a with command := some (name, rest) }
  | .word text =>
    match l.words[a.words.length]? with
    | none =>
      throw (.fault (if l.commands.isEmpty then .unexpectedWord text else .unknownCommand text))
    | some (name, kind) =>
      if kind.accepts text then return { a with words := a.words ++ [text] }
      else throw (.fault (.invalidValue name text))
  | .switch s value =>
    if a.has s.name && !s.isRepeatable then throw (.fault (.repeatedSwitch s.name))
    else if s.value.any fun kind => !kind.accepts value then
      throw (.fault (.invalidValue s.name value))
    else if s.name = "help" then throw .help
    else if s.name = "version" then throw .version
    else return { a with switches := a.switches ++ [(s.name, value)] }

/-- What a level is told, up to the name of a command. -/
def Level.answers (l : Level) (words : List String) : Except Stop Answers :=
  (l.items none words).foldlM l.take {}

/-- Checks that nothing is missing, and that nothing contradicts itself. -/
def Level.settle (l : Level) (a : Answers) : Except Stop Unit := do
  match l.words[a.words.length]? with
  | some (name, _) => throw (.fault (.missing name))
  | none =>
    match l.required.find? fun name => !a.has name with
    | some name => throw (.fault (.missing name))
    | none =>
      if a.has "quiet" && a.has "verbose" then throw (.fault (.conflict "quiet" "verbose"))

/-! ### Requests -/

/-- What all commands share. -/
structure Shared where
  verbosity : Nat := 0
  quiet : Bool := false
  noColor : Bool := false
  settingsFile : Option String := none
  format : OutputFormat := .auto
  deriving Repr, DecidableEq, Inhabited

/-- Where the values of variables come from: pairs override what a file says. -/
structure VariableInputs where
  pairs : List (String × String) := []
  file : Option String := none
  deriving Repr, DecidableEq, Inhabited

/-- What creating and previewing share. -/
structure TargetInputs where
  schema : String
  output : String
  inputs : VariableInputs
  projectName : Option String
  overwrite : Bool
  deriving Repr, DecidableEq, Inhabited

/-- What to do. -/
inductive Action where
  | create (target : TargetInputs) (dryRun noHooks : Bool) (record : Option String) (strict : Bool)
  | preview (target : TargetInputs)
  | undo (record : String) (dryRun isConfirmed : Bool)
  | validate (rules : String) (inputs : VariableInputs)
  | check (schema : String) (inputs : VariableInputs)
  | showSetting (key : String)
  | listSettings
  | showSettingsPath
  deriving Repr, DecidableEq

/-- What a line asks for. -/
structure Request where
  shared : Shared
  action : Action
  deriving Repr, DecidableEq

/-- The switches of every level. -/
def sharedSwitches : List Switch :=
  [⟨"verbose", some 'v', none, true⟩, ⟨"quiet", some 'q', none, false⟩,
   ⟨"no-color", none, none, false⟩, ⟨"config", some 'c', some .path, false⟩,
   ⟨"output-format", none, some .format, false⟩, ⟨"help", some 'h', none, false⟩]

/-- The switches for variables. -/
def variableSwitches : List Switch :=
  [⟨"var", none, some .assignment, true⟩, ⟨"vars", none, some .path, false⟩]

/-- The switches of creating and previewing. -/
def targetSwitches : List Switch :=
  ⟨"output", some 'o', some .path, false⟩ :: ⟨"project-name", none, some .text, false⟩
    :: ⟨"overwrite", none, none, false⟩ :: variableSwitches

/-- What the answers of a level say about what all commands share. -/
def Answers.shared (a : Answers) (outer : Shared) : Shared where
  verbosity := match (a.values "verbose").length with
    | 0 => outer.verbosity
    | n => min n 255
  quiet := a.has "quiet" || outer.quiet
  noColor := a.has "no-color" || outer.noColor
  settingsFile := (a.value? "config").or outer.settingsFile
  format := ((a.value? "output-format").bind OutputFormat.ofName?).getD outer.format

/-- What the answers of a level say about variables. -/
def Answers.inputs (a : Answers) : VariableInputs :=
  ⟨(a.values "var").filterMap assignment?, a.value? "vars"⟩

/-- What the answers of a level say about a target. -/
def Answers.target (a : Answers) : TargetInputs :=
  ⟨a.word 0, (a.value? "output").getD "", a.inputs, a.value? "project-name",
    a.has "overwrite"⟩

/-- A command: how its words are read, and what they ask for. -/
structure Command where
  level : Level
  action : Answers → Action

/-- The commands that do something, by each of their names. -/
def commands : List (String × Command) :=
  let create : Command :=
    ⟨⟨sharedSwitches ++ targetSwitches
        ++ [⟨"dry-run", none, none, false⟩, ⟨"no-hooks", none, none, false⟩,
          ⟨"record", none, some .path, false⟩, ⟨"strict", none, none, false⟩],
        [("schema", .path)], ["output"], []⟩,
      fun a => .create a.target (a.has "dry-run") (a.has "no-hooks") (a.value? "record")
        (a.has "strict")⟩
  let preview : Command :=
    ⟨⟨sharedSwitches ++ targetSwitches, [("schema", .path)], ["output"], []⟩,
      fun a => .preview a.target⟩
  [("create", create), ("c", create), ("preview", preview), ("p", preview),
   ("undo",
    ⟨⟨sharedSwitches ++ [⟨"dry-run", none, none, false⟩, ⟨"yes", some 'y', none, false⟩],
        [("record", .path)], [], []⟩,
      fun a => .undo (a.word 0) (a.has "dry-run") (a.has "yes")⟩),
   ("validate",
    ⟨⟨sharedSwitches ++ ⟨"rules", none, some .path, false⟩ :: variableSwitches, [], ["rules"], []⟩,
      fun a => .validate ((a.value? "rules").getD "") a.inputs⟩),
   ("check",
    ⟨⟨sharedSwitches ++ variableSwitches, [("schema", .path)], [], []⟩,
      fun a => .check (a.word 0) a.inputs⟩)]

/-- The commands about settings. -/
def settingsCommands : List (String × Command) :=
  [("get", ⟨⟨sharedSwitches, [("key", .text)], [], []⟩, fun a => .showSetting (a.word 0)⟩),
   ("list", ⟨⟨sharedSwitches, [], [], []⟩, fun _ => .listSettings⟩),
   ("path", ⟨⟨sharedSwitches, [], [], []⟩, fun _ => .showSettingsPath⟩)]

/-- The level of the tool itself. -/
def topLevel : Level :=
  { switches := ⟨"version", some 'V', none, false⟩ :: sharedSwitches
    commands := "help" :: "config" :: commands.map Prod.fst }

/-- The level of the commands about settings. -/
def settingsLevel : Level :=
  { switches := sharedSwitches, commands := "help" :: settingsCommands.map Prod.fst }

/-- Why a level without a command stops, or with `help`, whose words must be names of
commands. -/
def stopAt (known : List String) : List String → Stop
  | [] => .help
  | word :: _ => if known.contains word then .help else .fault (.unknownCommand word)

/-- What a command asks for. -/
def Command.read (c : Command) (outer : Shared) (words : List String) : Except Stop Request := do
  let answers ← c.level.answers words
  c.level.settle answers
  return ⟨answers.shared outer, c.action answers⟩

/-- What the commands about settings ask for. -/
def readSettingsRequest (outer : Shared) (words : List String) : Except Stop Request := do
  let answers ← settingsLevel.answers words
  match answers.command with
  | none => throw (.fault .missingCommand)
  | some (name, rest) =>
    match settingsCommands.lookup name with
    | none => throw (stopAt settingsLevel.commands rest)
    | some command =>
      let request ← command.read (answers.shared outer) rest
      settingsLevel.settle answers
      return request

/-- What a line asks for. -/
def Request.read (words : List String) : Except Stop Request := do
  let answers ← topLevel.answers words
  match answers.command with
  | none => throw (.fault .missingCommand)
  | some (name, rest) =>
    let shared := answers.shared {}
    let request ← match commands.lookup name with
      | some command => command.read shared rest
      | none =>
        if name = "config" then readSettingsRequest shared rest
        else throw (stopAt topLevel.commands rest)
    topLevel.settle answers
    return request

end Scaffold.CommandLine

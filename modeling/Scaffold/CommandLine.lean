/-
The tool: what it does for a line of words.

* `Surroundings` is what it works with: files, an environment, someone to ask, and a
  host for runs, in any monad;
* `loadSettings` puts the settings together: those of a file, under those of
  environment variables;
* `act` carries out an action, and `CommandLine.run` a whole line. What was written
  before a fault stays written.
-/
import Scaffold.CommandLine.Arguments
import Scaffold.CommandLine.Display
import Scaffold.CommandLine.EnvironmentFile
import Scaffold.CommandLine.Fault
import Scaffold.CommandLine.Settings
import Scaffold.Document.Results
import Scaffold.Document.Schema
import Scaffold.Document.Variables
import Scaffold.Project
import Scaffold.Text.Case.Fold
import Scaffold.Text.Utf8

namespace Scaffold.CommandLine

open Text Variable

/-- What the tool works with. -/
structure Surroundings (m : Type → Type) where
  host : Host m
  /-- The bytes of a file, if there is one at a path. -/
  load : String → m (Option ByteArray)
  /-- Writes a file, or tells why that does not work. -/
  save : String → ByteArray → m (Except String Unit)
  /-- Asks a question, or tells why it cannot be asked. -/
  confirm : String → m (Except String Bool)
  /-- The environment variables. -/
  environment : List (String × String)
  /-- The working folder. -/
  folder : String
  today : Calendar.Date

/-- How the tool ended, and what it wrote. -/
structure Report where
  exitCode : UInt32 := 0
  output : String := ""
  errors : String := ""
  deriving Repr, DecidableEq, Inhabited

/-- Work that writes lines and may end with a fault. -/
abbrev Work (m : Type → Type) := ExceptT Fault (StateT (List Line) m)

section

variable {m : Type → Type} [Monad m]

/-- What the surroundings do. -/
def doing {α : Type} (action : m α) : Work m α :=
  ExceptT.lift (StateT.lift action)

/-- Writes lines. -/
def say (lines : List Line) : Work m Unit :=
  ExceptT.lift (modify (· ++ lines))

/-- A result, or the end with an error. -/
def orFault {α : Type} (result : Except Error α) : Work m α :=
  match result with
  | .ok a => pure a
  | .error e => throw (.engine e)

/-- The first of some paths that has a file, with its bytes. -/
def firstFile (s : Surroundings m) : List String → m (Option (String × ByteArray))
  | [] => pure none
  | path :: rest => do
    match ← s.load path with
    | some bytes => pure (some (path, bytes))
    | none => firstFile s rest

/-! ### Settings -/

/-- Where the file with settings is by default. -/
def settingsPath (environment : List (String × String)) : String :=
  match (environment.lookup "XDG_CONFIG_HOME").filter Path.isAbsolute with
  | some folder => Path.join folder "trellis/config.toml"
  | none =>
    match (environment.lookup "HOME").filter (· != "") with
    | some folder => Path.join folder ".config/trellis/config.toml"
    | none => ".trellis.toml"

/-- The paths where a file with settings may be: its name may lack the extension. -/
def settingsPaths (path : String) : List String :=
  [path, String.ofList (dropEndWhile (· == '/') path.toList) ++ ".toml"]

/-- A path as seen from the working folder. -/
def seenFrom (folder path : String) : String :=
  Path.ofComponents
    (Path.Key.leading (Path.components folder) (Path.components (Path.join folder path)))

/-- The layer of the file with settings. One that is named must be there. -/
def fileLayer (s : Surroundings m) (named : Option String) : Work m (List Layer) := do
  let path := named.getD (settingsPath s.environment)
  let failure := s!"Failed to read configuration from {path}"
  match ← doing (firstFile s (settingsPaths path)) with
  | some (found, bytes) =>
    let origin := seenFrom s.folder found
    match Layer.ofDocument? origin (String.ofList (ofBytes bytes.toList)) with
    | some layer => return [layer]
    | none => throw (.settings failure [failure, s!"TOML parse error in {origin}"])
  | none =>
    if named.isSome then
      throw (.settings failure [failure, s!"configuration file \"{path}\" not found"])
    else return []

/-- The settings. -/
def loadSettings (s : Surroundings m) (named : Option String) : Work m Settings := do
  let file ← fileLayer s named
  match Settings.ofLayers (file ++ Layer.ofVariables s.environment) with
  | .ok settings => return settings
  | .error cause =>
    let failure := "Configuration has invalid values"
    throw (.settings failure [failure, cause])

/-- The format that a setting names, in any case; other names mean none in
particular. -/
def formatOfSetting (setting : String) : OutputFormat :=
  let name := (trim setting.toList).map (shiftBy foldShifts)
  (OutputFormat.ofName? (String.ofList name)).getD .auto

/-- Whether results are shown in JSON. A switch goes over the setting. -/
def showsJson (shared : Shared) (settings : Settings) : Bool :=
  (if shared.format = .auto then formatOfSetting settings.output.format else shared.format)
    = .json

/-! ### Documents -/

/-- The text of a document. -/
def documentText (s : Surroundings m) (kind : DocumentKind) (path : String) : Work m String := do
  match ← doing (s.load path) with
  | some bytes => orFault (Document.textOf path bytes)
  | none => throw (.missingDocument kind path)

/-- A document in the format that its name asks for. -/
def document {α : Type} (s : Surroundings m) (kind : DocumentKind) (path : String)
    (read : Document.Format → String → Except Document.Fault α) : Work m α := do
  let text ← documentText s kind path
  orFault (Document.loaded path (read (.ofPath path) text))

/-- The values of variables that a file gives, by their names as they are spelled there;
none without a file. -/
def fileValues (s : Surroundings m) (inputs : VariableInputs) : Work m Bindings :=
  match inputs.file with
  | some path => document s .bindings path readVariables
  | none => pure ∅

/-- The values of variables by their keys. Later ones win, and those of a file come
first. -/
def mergeValues (file : Bindings) (pairs : List (String × String)) : Bindings :=
  Dictionary.ofList
    ((file.entries ++ pairs).map fun (name, value) => (canonicalKey name, value))

/-- The values of variables that a line gives. -/
def variableValues (s : Surroundings m) (inputs : VariableInputs) : Work m Bindings := do
  return mergeValues (← fileValues s inputs) inputs.pairs

/-! ### Actions -/

/-- What runs depend on. -/
def projectSettings (s : Surroundings m) (settings : Settings) : Project.Settings :=
  ⟨⟨settings.limits, s.today⟩, ⟨true, true, true⟩⟩

/-- The result of a run on the host, or the end with its failure. -/
def carryOut {α : Type} (s : Surroundings m) (run : Run (Except Failure α)) : Work m α := do
  orFault ((← doing (run.on s.host)).mapError .failure)

/-- Records what was created, if asked to, and tells of it. -/
def tellCreation (s : Surroundings m) (isJson dryRun : Bool) (record : Option String)
    (strict : Bool) (creation : Creation) : Work m Unit := do
  let items := creation.items.toList
  if let some path := record then
    if !dryRun then
      match ← doing (s.save path (Record.write items).toUTF8) with
      | .ok () => pure ()
      | .error reason => throw (.engine (.failure (.filesystem path reason)))
  if isJson then say [Display.json creation.toValue]
  else
    say (Display.creation dryRun creation)
    if let some path := record then
      say [Display.message .info (if dryRun then "Dry run: no record written"
        else s!"Recorded {items.length} item(s) to {path}; run 'trellis undo {path}' to remove them")]
  if strict && creation.summary.errors != 0 then throw (.nodeErrors creation.summary.errors)

/-- The name of the project that is given, on the line or else in the settings. -/
def givenName (settings : Settings) (target : TargetInputs) : Option String :=
  target.projectName.or settings.defaults.projectName

/-- Creates a schema. -/
def create (s : Surroundings m) (settings : Settings) (isJson : Bool) (target : TargetInputs)
    (dryRun noHooks : Bool) (record : Option String) (strict : Bool) : Work m Unit := do
  let schema ← document s .schema target.schema readSchema
  let bindings ← variableValues s target.inputs
  let options : CreateOptions :=
    ⟨dryRun, target.overwrite || settings.defaults.overwrite,
      !noHooks && settings.defaults.runHooks⟩
  let creation ← carryOut s (Project.create (projectSettings s settings) schema target.output
    bindings (givenName settings target) options)
  tellCreation s isJson dryRun record strict creation

/-- Previews a schema. -/
def preview (s : Surroundings m) (settings : Settings) (isJson : Bool) (target : TargetInputs) :
    Work m Unit := do
  let schema ← document s .schema target.schema readSchema
  let bindings ← variableValues s target.inputs
  let result ← carryOut s (Project.preview (projectSettings s settings) schema target.output
    bindings (givenName settings target) (target.overwrite || settings.defaults.overwrite))
  say (if isJson then [Display.json result.toValue] else Display.preview result)

/-- Undoes what a record lists, if the user agrees. -/
def undoRecord (s : Surroundings m) (isJson : Bool) (record : String)
    (dryRun isConfirmed : Bool) : Work m Unit := do
  let text ← documentText s .record record
  let items ← orFault (Document.loaded record (Record.read text))
  if items.isEmpty then throw (.emptyRecord record)
  if !dryRun && !isConfirmed then
    match ← doing (s.confirm s!"Delete up to {items.length} item(s) listed in {record}?") with
    | .error reason => throw (.prompt reason)
    | .ok agreed => if !agreed then throw .cancelled
  let result ← carryOut s (undo ⟨true, dryRun⟩ items)
  say (if isJson then [Display.json result.toValue] else Display.undoing dryRun result)

/-- Checks the values of variables. -/
def validate (s : Surroundings m) (settings : Settings) (isJson : Bool) (path : String)
    (inputs : VariableInputs) : Work m Unit := do
  let rules ← document s .rules path readRules
  let bindings ← variableValues s inputs
  let faults := checkRules settings.limits
    ((Scope.ofPairs bindings.entries).environment s.today) rules
  if isJson then say [Display.json (.array (faults.map RuleFault.toValue))]
  else if faults.isEmpty then
    say [Display.message .success s!"All {rules.entries.length} rule(s) passed"]
  else
    say (faults.map fun f => Display.message .error s!"{f.variableName}: {f.message}")
  if !faults.isEmpty then throw (.invalidVariables faults.length)

/-- Checks a schema. -/
def checkSchema (s : Surroundings m) (settings : Settings) (isJson : Bool) (path : String)
    (inputs : VariableInputs) : Work m Unit := do
  let schema ← document s .schema path readSchema
  let bindings ← variableValues s inputs
  let report := Project.check (projectSettings s settings) schema bindings
  say (if isJson then [Display.json report.toValue] else Display.check report)
  if report.hasErrors then throw (.invalidSchema report.errors.length)

/-- Carries out an action. -/
def act (s : Surroundings m) (settings : Settings) (isJson : Bool) : Action → Work m Unit
  | .create target dryRun noHooks record strict =>
    create s settings isJson target dryRun noHooks record strict
  | .preview target => preview s settings isJson target
  | .undo record dryRun isConfirmed => undoRecord s isJson record dryRun isConfirmed
  | .validate rules inputs => validate s settings isJson rules inputs
  | .check schema inputs => checkSchema s settings isJson schema inputs
  | .showSetting key =>
    match settings.get? key with
    | some text => say [Display.plain text]
    | none => throw (.settings s!"Unknown config key: '{key}'" [])
  | .listSettings =>
    say (if isJson then [Display.json settings.toValue]
      else [Display.plain "Effective configuration", Display.plain settings.document])
  | .showSettingsPath => say [Display.plain (settingsPath s.environment)]

/-! ### Lines -/

/-- What the tool says about itself. -/
def usage : List String :=
  ["Usage: trellis [OPTIONS] <COMMAND>", "", "Commands:",
   "  create <SCHEMA> -o <DIR>    Create a structure from a schema",
   "  preview <SCHEMA> -o <DIR>   Preview a schema as a diff tree",
   "  undo <RECORD>               Undo a recorded run",
   "  validate --rules <FILE>     Validate variables against rules",
   "  check <SCHEMA>              Lint a schema",
   "  config get|list|path        Configuration management"]

/-- The name and version of the tool. -/
def version : String := "trellis 0.1.0"

/-- The folders in which a file with environment variables is looked for: a folder and
those above it. -/
def foldersAbove (folder : String) : List String :=
  let key := Path.components folder
  (List.range key.length).map fun n => Path.ofComponents (key.take (key.length - n))

/-- The surroundings with the variables of the nearest file of environment
variables. -/
def withEnvironmentFile (s : Surroundings m) : m (Surroundings m) := do
  match ← firstFile s ((foldersAbove s.folder).map fun folder => Path.join folder ".env") with
  | some (_, bytes) =>
    let text := (String.fromUTF8? bytes).getD ""
    return { s with environment := EnvironmentFile.addVariables s.environment text }
  | none => return s

/-- Carries out a request. -/
def Request.run (s : Surroundings m) (r : Request) : m Report := do
  let work := do
    let settings ← loadSettings s r.shared.settingsFile
    act s settings (showsJson r.shared settings) r.action
  let (result, lines) ← (ExceptT.run work).run []
  let output := Display.written r.shared.quiet lines
  match result with
  | .ok () => return { output }
  | .error f =>
    return ⟨f.exitCode, output, f.report (settingsPath s.environment) (r.shared.verbosity != 0)⟩

/-- Carries out a line of words. -/
def run (s : Surroundings m) (words : List String) : m (Except ArgumentFault Report) := do
  let s ← withEnvironmentFile s
  match Request.read words with
  | .ok r => .ok <$> r.run s
  | .error .help => return .ok { output := String.join (usage.map (· ++ "\n")) }
  | .error .version => return .ok { output := version ++ "\n" }
  | .error (.fault f) => return .error f

end

end Scaffold.CommandLine

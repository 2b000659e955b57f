/-
Creating what a schema describes.

* `Creation.visitor` creates folders and files as a walk visits them. What goes
  wrong with one of them is reported, and the walk goes on;
* `Creation.runHooks` runs the commands of a schema;
* `create` does both.

With `dryRun` nothing is written and nothing outside is asked but what is there.
-/
import Scaffold.Archive.Rebuild
import Scaffold.Content
import Scaffold.Url.Guard
import Scaffold.Walk

namespace Scaffold

open Text Variable

/-- How a schema is created. -/
structure CreateOptions where
  dryRun : Bool := false
  overwrite : Bool := false
  runHooks : Bool := false
  deriving Repr, DecidableEq, Inhabited

/-- What the surroundings of a run can do besides keeping files. -/
structure Equipment where
  canFetch : Bool := false
  canGenerate : Bool := false
  canRunCommands : Bool := false
  deriving Repr, DecidableEq, Inhabited

/-- What creating depends on. -/
structure CreateSettings extends WalkSettings where
  equipment : Equipment
  options : CreateOptions

/-- Creating, with what has been created so far. -/
abbrev CreateM := StateT Creation Run

namespace Creation

/-- Asks the surroundings. -/
def ask (c : Call) : CreateM c.Reply := liftM (Run.call c)

/-- Changes the summary. -/
def count (change : CreationSummary → CreationSummary) : CreateM Unit :=
  modify fun c => { c with summary := change c.summary }

/-- Adds a message to the log. -/
def log (kind : LogKind) (message : String) (details : Option String := none) : CreateM Unit :=
  modify fun c => { c with logs := c.logs.push ⟨kind, message, details⟩ }

/-- Counts and reports something that went wrong. -/
def fail (message details : String) : CreateM Unit := do
  count fun s => { s with errors := s.errors + 1 }
  log .error message details

/-- Adds a message of the walk to the log; errors are counted. -/
def report (entry : LogEntry) : CreateM Unit := do
  if entry.kind = .error then
    count fun s => { s with errors := s.errors + 1 }
  log entry.kind entry.message entry.details

/-- Records something that was written. -/
def record (place : Cursor) (kind : ItemKind) (preExisted : Bool) : CreateM Unit :=
  modify fun c => { c with items := c.items.push ⟨place.path, kind, preExisted⟩ }

/-- Writes a file and records it. -/
def write (place : Cursor) (bytes : ByteArray) (preExisted : Bool) : CreateM (Except Failure Unit) := do
  match ← ask (.write place.path bytes) with
  | .error f => return .error f
  | .ok () =>
    record place .file preExisted
    return .ok ()

/-! ### Files -/

/-- Downloaded bytes with variables replaced, if they are text. -/
def substituteBytes (env : Environment) (bytes : ByteArray) : ByteArray :=
  if Content.isBinary bytes then bytes
  else match String.fromUTF8? bytes with
    | some text => (substitute env text).toUTF8
    | none => bytes

/-- What is saved of a download, and whether it is a rebuilt archive. An archive that
cannot be rebuilt is saved as it is. -/
def prepareDownload (name : String) (env : Environment) (bytes : ByteArray) :
    CreateM (ByteArray × Bool) := do
  match Archive.Kind.ofName? name with
  | none => return (substituteBytes env bytes, false)
  | some kind =>
    match Archive.rebuild kind env bytes with
    | .ok rebuilt => return (rebuilt, true)
    | .error fault =>
      log .warning s!"Could not process archive: {name}" s!"{fault.message}; saved unmodified"
      return (bytes, false)

/-- Fetches the bytes of an accepted address; more than the limit are refused even
when they have arrived. -/
def fetch (s : CreateSettings) (url : String) : CreateM (Except Failure ByteArray) := do
  if !s.equipment.canFetch then return .error (.notConfigured "fetcher")
  match ← ask (.fetch url) with
  | .error f => return .error f
  | .ok bytes =>
    if s.limits.maxDownloadBytes < bytes.size then
      return .error (.downloadTooLarge url bytes.size s.limits.maxDownloadBytes)
    return .ok bytes

/-- Downloads a file. -/
def download (s : CreateSettings) (name raw : String) (place : Cursor) (env : Environment)
    (preExisted : Bool) : CreateM Unit := do
  match Url.guard (substitute env raw) with
  | .error v => fail s!"Download failed: {name}" v.message
  | .ok accepted =>
    let url := accepted.text
    if s.options.dryRun then
      count fun c => { c with filesDownloaded := c.filesDownloaded + 1 }
      log .info s!"Would download: {name}" url
    else
      match ← fetch s url with
      | .error f => fail s!"Download failed: {name}" f.message
      | .ok fetched =>
        let (bytes, isRebuilt) ← prepareDownload name env fetched
        match ← write place bytes preExisted with
        | .error f => fail s!"Failed to save file: {name}" f.message
        | .ok () =>
          count fun c => { c with filesDownloaded := c.filesDownloaded + 1 }
          let verb := if isRebuilt then "Downloaded & processed" else "Downloaded"
          log .success s!"{verb}: {name}" s!"{url} ({bytes.size} bytes)"

/-- Generates the bytes of a file. -/
def generateBytes (s : CreateSettings) (request : Request) :
    CreateM (Except Failure ByteArray) := do
  if !s.equipment.canGenerate then return .error (.notConfigured "generator")
  ask (.generate request)

/-- Generates a file. -/
def generate (s : CreateSettings) (name : String) (kind : GeneratorKind) (f : FileNode)
    (place : Cursor) (env : Environment) (preExisted : Bool) : CreateM Unit := do
  if s.options.dryRun then
    count fun c => { c with filesGenerated := c.filesGenerated + 1 }
    log .info s!"Would generate {kind.noun}: {name}" place.shown
  else
    let request : Request :=
      ⟨kind, name, f.generateConfig.map (substitute env), f.content.map (substitute env)⟩
    match ← generateBytes s request with
    | .error e => fail s!"Generator failed: {name}" e.message
    | .ok bytes =>
      match ← write place bytes preExisted with
      | .error e => fail s!"Failed to save file: {name}" e.message
      | .ok () =>
        count fun c => { c with filesGenerated := c.filesGenerated + 1 }
        log .success s!"Generated {kind.noun}: {name}" place.shown

/-- Reports the fault of a template, if there is one. -/
def reportFault (name : String) : Option TemplateError → CreateM Unit
  | some e => log .warning s!"Template error in {name}" e.message
  | none => return

/-- Writes a file with a text. -/
def writeText (s : CreateSettings) (name text : String) (place : Cursor) (preExisted : Bool) :
    CreateM Unit := do
  if s.options.dryRun then
    count fun c => { c with filesCreated := c.filesCreated + 1 }
    log .info s!"Would create file: {name}" place.shown
  else
    match ← write place text.toUTF8 preExisted with
    | .error e => fail s!"Failed to create file: {name}" e.message
    | .ok () =>
      count fun c => { c with filesCreated := c.filesCreated + 1 }
      log .success s!"Created file: {name}" s!"{place.shown} ({text.utf8ByteSize} bytes)"

/-- Writes a file whose content is in the schema. -/
def writeInline (s : CreateSettings) (name : String) (f : FileNode) (place : Cursor)
    (env : Environment) (preExisted : Bool) : CreateM Unit := do
  let (text, fault) := renderContent env f.isTemplate (f.content.getD "")
  reportFault name fault
  writeText s name text place preExisted

/-- What is at a place; nothing is in a folder that is only planned. -/
def look (place : Cursor) : CreateM (Except Failure (Option Entry)) :=
  if place.isPlanned then return .ok none else ask (.entry place.path)

/-- Writes a file from its source. -/
def writeFile (s : CreateSettings) (name : String) (f : FileNode) (place : Cursor)
    (env : Environment) (preExisted : Bool) : CreateM Unit :=
  match f.source with
  | .url raw => download s name raw place env preExisted
  | .generated kind _ => generate s name kind f place env preExisted
  | .inline _ => writeInline s name f place env preExisted

/-- Visits a file: one that exists is kept, unless it may be overwritten. -/
def visitFile (s : CreateSettings) (name : String) (f : FileNode) (place : Cursor)
    (env : Environment) : CreateM (Option Unit) := do
  match ← look place with
  | .error e => fail s!"Failed to create file: {name}" e.message
  | .ok none => writeFile s name f place env false
  | .ok (some entry) =>
    if entry.isFolder then
      fail s!"Failed to create file: {name}" "A folder with this name already exists"
    else if s.options.overwrite then writeFile s name f place env true
    else
      count fun c => { c with skipped := c.skipped + 1 }
      log .warning s!"Skipped (exists): {name}" place.shown
  return none

/-! ### Folders -/

/-- Counts and reports a folder that would be created. -/
def planFolder (name : String) (place : Cursor) : CreateM (Option (Unit × Bool)) := do
  count fun c => { c with foldersCreated := c.foldersCreated + 1 }
  log .info s!"Would create folder: {name}" place.shown
  return some ((), true)

/-- Makes a folder and records it. -/
def makeFolder (name : String) (place : Cursor) : CreateM (Option (Unit × Bool)) := do
  match ← ask (.makeFolder place.path) with
  | .error e =>
    fail s!"Failed to create folder: {name}" e.message
    return none
  | .ok () =>
    count fun c => { c with foldersCreated := c.foldersCreated + 1 }
    record place .folder false
    log .success s!"Created folder: {name}" place.shown
    return some ((), false)

/-- Visits a folder: one that exists is entered. -/
def enterFolder (s : CreateSettings) (name : String) (place : Cursor) :
    CreateM (Option (Unit × Bool)) := do
  if place.isPlanned then planFolder name place
  else
    match ← ask (.entry place.path) with
    | .error e =>
      fail s!"Failed to create folder: {name}" e.message
      return none
    | .ok none => if s.options.dryRun then planFolder name place else makeFolder name place
    | .ok (some entry) =>
      if entry.isFolder then
        log .info s!"Folder exists: {name}" place.shown
        return some ((), false)
      else
        fail s!"Failed to create folder: {name}" "A file with this name already exists"
        return none

/-- The visitor that creates what it visits. Nodes have no result of their own. -/
def visitor (s : CreateSettings) : Visitor CreateM Unit Unit where
  isDry := s.options.dryRun
  report := report
  enterFolder := enterFolder s
  leaveFolder := fun _ _ => return none
  file := visitFile s
  group := fun _ _ _ => return none
  invalidName := fun _ _ => return none

/-! ### Commands -/

/-- The folder that commands run in: the root folder if there is one, else the
output folder. -/
def hookFolder (root : Node) (output : String) (env : Environment) : CreateM String := do
  let .folder raw _ _ := root | return output
  let name := substitute env raw
  match Name.check name with
  | .error _ => return output
  | .ok _ =>
    let candidate := Path.join output name
    match ← ask (.entry candidate) with
    | .ok (some entry) => return if entry.isFolder then candidate else output
    | _ => return output

/-- The text of an exit code. -/
def exitText : Option Int → String
  | some code => s!"Exit code: Some({code})"
  | none => "Exit code: None"

/-- Reports what became of a command. -/
def reportCommand (command : String) (result : CommandResult) : CreateM Unit := do
  if result.success then
    count fun c => { c with hooksExecuted := c.hooksExecuted + 1 }
    let output := String.ofList (trim result.output.toList)
    log .success s!"Hook succeeded: {command}" (if output = "" then none else some output)
  else
    count fun c => { c with hooksFailed := c.hooksFailed + 1 }
    let errors := String.ofList (trim result.errors.toList)
    log .error s!"Hook failed: {command}"
      (if errors = "" then exitText result.exitCode else errors)
  modify fun c => { c with hookResults := c.hookResults.push result }

/-- Runs commands one after the other, also after one has failed. -/
def runCommands (env : Environment) (folder : String) : List String → CreateM Unit
  | [] => return
  | command :: rest => do
    let text := substitute env command
    reportCommand text (← ask (.command text folder))
    runCommands env folder rest

/-- Runs commands, or says what would be run. -/
def runHooks (s : CreateSettings) (commands : List String) (folder : String)
    (env : Environment) : CreateM Unit := do
  if commands.isEmpty then return
  else if s.options.dryRun then
    commands.forM fun command =>
      log .info s!"Would run hook: {substitute env command}" s!"Working directory: {folder}"
  else if !s.equipment.canRunCommands then
    log .warning "Hooks skipped"
      s!"{commands.length} post-create hook(s) not run: this host cannot run commands"
  else runCommands env folder commands

end Creation

/-- Creates a schema under an output folder, then runs its commands if asked to. -/
def create (s : CreateSettings) (schema : Schema) (output : String) (scope : Scope) :
    Run Creation := do
  let program : CreateM Unit := do
    let _ ← walk s.toWalkSettings (Creation.visitor s) schema.root output scope
    if s.options.runHooks then
      let env := scope.environment s.today
      let folder ← Creation.hookFolder schema.root output env
      Creation.runHooks s schema.commands folder env
  return (← program.run {}).2

end Scaffold

/-
Why a command ends without success, and how that is reported.

* `Fault.exitCode` is the status of the tool: 1 for failures of its surroundings, 2 for
  wrong input, 3 for a document that is not there and 4 for settings;
* `Fault.report` is the text for the user: what happened, on request what led to it,
  and what can be done.
-/
import Scaffold.Error

namespace Scaffold.CommandLine

/-- The documents that commands read. -/
inductive DocumentKind where
  | schema
  | bindings
  | rules
  | record
  deriving Repr, DecidableEq

/-- The name of a kind of document at the start of a sentence. -/
def DocumentKind.title : DocumentKind → String
  | schema => "Schema"
  | bindings => "Variables file"
  | rules => "Rules file"
  | record => "Record"

/-- The name of a kind of document inside of a sentence. -/
def DocumentKind.name : DocumentKind → String
  | schema => "schema"
  | bindings => "variables file"
  | rules => "rules file"
  | record => "record"

/-- Why a command ends without success. -/
inductive Fault where
  | missingDocument (kind : DocumentKind) (path : String)
  | nodeErrors (count : Nat)
  | invalidVariables (count : Nat)
  | invalidSchema (count : Nat)
  | emptyRecord (path : String)
  | settings (message : String) (causes : List String)
  | engine (e : Error)
  | prompt (reason : String)
  | cancelled
  deriving Repr, DecidableEq

namespace Fault

/-- The text of a fault. -/
def message : Fault → String
  | missingDocument kind path => s!"{kind.title} not found: {path}"
  | nodeErrors count => s!"Run finished with {count} node error(s)"
  | invalidVariables count => s!"{count} variable(s) failed validation"
  | invalidSchema count => s!"Schema has {count} error(s)"
  | emptyRecord path => s!"Record {path} lists no items"
  | settings message _ => s!"Configuration error: {message}"
  | engine e => e.message
  | prompt reason => s!"Prompt failed: {reason}"
  | cancelled => "Operation cancelled"

/-- The status of the tool after a fault. -/
def exitCode : Fault → UInt32
  | missingDocument _ _ => 3
  | settings _ _ => 4
  | engine e =>
    match e.category with
    | .validation | .security => 2
    | .configuration => 4
    | .internal => 1
  | _ => 2

/-- What led to a fault, the latest first. -/
def causes : Fault → List String
  | settings _ causes => causes
  | engine e => [e.message]
  | _ => []

/-- What the user can do about a fault. -/
def suggestions (settingsPath : String) : Fault → List String
  | missingDocument kind path =>
    [s!"No {kind.name} at '{path}'", "Paths are resolved relative to the current directory"]
  | nodeErrors _ =>
    ["See the error entries in the log above",
     "Run 'trellis check <SCHEMA>' to find schema problems",
     "Drop --strict to treat node errors as warnings"]
  | invalidVariables _ =>
    ["Fix the values listed above and run validate again",
     "Pass values with --var KEY=VALUE or --vars FILE"]
  | invalidSchema _ => ["Warnings alone do not fail 'trellis check'"]
  | emptyRecord _ => ["The run may have been a dry run, or created nothing"]
  | settings _ _ =>
    [s!"Settings are read from {settingsPath}",
     "TRELLIS_* environment variables override file values"]
  | engine e =>
    e.suggestions
      ++ if e.isTransient then ["This may be temporary; try the command again"] else []
  | prompt _ =>
    ["Confirmation needs an interactive terminal", "Pass --yes to skip the prompt"]
  | cancelled => ["No changes were made"]

/-- The text for the user. What led to the fault is told on request only. -/
def report (f : Fault) (settingsPath : String) (tellsCauses : Bool) : String :=
  let causes := if tellsCauses then f.causes.map fun c => s!"  Caused by: {c}" else []
  let hints := match f.suggestions settingsPath with
    | [] => []
    | hints => "" :: "Suggestions:" :: hints.map ("  " ++ ·)
  let closing := if tellsCauses then [] else ["", "Use -v / --verbose for more details."]
  "\n".intercalate ("" :: s!"Error: {f.message}" :: causes ++ hints ++ closing) ++ "\n"

end Fault

end Scaffold.CommandLine

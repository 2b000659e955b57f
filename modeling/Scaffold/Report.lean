/-
What runs report: entries of a log, and the results of creating and undoing.

* A `LogEntry` is a message of some kind, with details if there are any;
* `Creation` is what became of creating a schema, and `Undoing` of undoing it.
-/
import Scaffold.Host
import Scaffold.Record

namespace Scaffold

/-- How a message is meant. -/
inductive LogKind where
  | success
  | error
  | warning
  | info
  deriving Repr, DecidableEq

/-- The name of a kind of message. -/
def LogKind.name : LogKind → String
  | success => "success"
  | error => "error"
  | warning => "warning"
  | info => "info"

/-- A message about one step of a run. -/
structure LogEntry where
  kind : LogKind
  message : String
  details : Option String := none
  deriving Repr, DecidableEq

/-- How much was created, and how often something went wrong. -/
structure CreationSummary where
  foldersCreated : Nat := 0
  filesCreated : Nat := 0
  filesDownloaded : Nat := 0
  filesGenerated : Nat := 0
  errors : Nat := 0
  skipped : Nat := 0
  hooksExecuted : Nat := 0
  hooksFailed : Nat := 0
  deriving Repr, DecidableEq, Inhabited

/-- What became of creating a schema. Items are listed in the order in which they
were written. -/
structure Creation where
  logs : Array LogEntry := #[]
  summary : CreationSummary := {}
  hookResults : Array CommandResult := #[]
  items : Array CreatedItem := #[]
  deriving Repr, DecidableEq, Inhabited

/-- How much was deleted, and how often something went wrong. -/
structure UndoSummary where
  filesDeleted : Nat := 0
  foldersDeleted : Nat := 0
  itemsSkipped : Nat := 0
  errors : Nat := 0
  deriving Repr, DecidableEq, Inhabited

/-- What became of undoing. -/
structure Undoing where
  logs : Array LogEntry := #[]
  summary : UndoSummary := {}
  deriving Repr, DecidableEq, Inhabited

end Scaffold

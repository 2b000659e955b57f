/-
Calls that are made to fail.

* A `Faults` names operations of a file system and paths for which they fail;
* `Host.failing` is a host whose other calls go through.
-/
import Scaffold.Host
import Scaffold.Path

namespace Scaffold

/-- The operations of a file system. -/
inductive Operation where
  | makeFolder
  | write
  | read
  | entry
  | list
  | removeFile
  | removeFolder
  deriving Repr, DecidableEq

/-- The name of an operation in the text of a fault. -/
def Operation.name : Operation → String
  | makeFolder => "mkdir"
  | write => "write"
  | read => "read"
  | entry => "entry"
  | list => "list"
  | removeFile => "rmfile"
  | removeFolder => "rmdir"

/-- For which paths an operation fails. -/
abbrev Faults := Operation → List Path.Key

/-- The failure of an operation at a path, if it is to fail. -/
def Faults.failure? (faults : Faults) (operation : Operation) (path : String) : Option Failure :=
  if Path.components path ∈ faults operation then
    some (.filesystem path s!"injected {operation.name} fault")
  else none

/-- The failing reply to a call, if it is to fail. -/
def Faults.reply? (faults : Faults) : (c : Call) → Option c.Reply
  | .entry path => (faults.failure? .entry path).map .error
  | .makeFolder path => (faults.failure? .makeFolder path).map .error
  | .write path _ => (faults.failure? .write path).map .error
  | .read path => (faults.failure? .read path).map .error
  | .list path => (faults.failure? .list path).map .error
  | .removeFile path => (faults.failure? .removeFile path).map .error
  | .removeFolder path => (faults.failure? .removeFolder path).map .error
  | .fetch _ | .generate _ | .command _ _ => none

/-- The host on which some calls fail. -/
def Host.failing {m : Type → Type} [Monad m] (host : Host m) (faults : Faults) : Host m :=
  fun call =>
    match faults.reply? call with
    | some reply => pure reply
    | none => host call

end Scaffold

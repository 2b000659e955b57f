/-
What a run asks of its surroundings, one call at a time.

* A `Call` is a question or an order: to a file system, to a source of downloads,
  to a generator, or to a runner of commands; `Call.Reply` is what comes back;
* a `Run` is a result, or a call and the run that goes on from each reply. Runs
  are a lawful monad;
* `Run.on` carries a run out on a `Host` that answers calls, in any monad;
* `Run.calls` lists the calls that a run makes when they are answered by a fixed
  rule.
-/
import Scaffold.Error
import Scaffold.Generator

namespace Scaffold

/-- What is at a path. -/
inductive EntryKind where
  | file
  | folder
  deriving Repr, DecidableEq

/-- What is at a path, and its size in bytes; a folder has none. -/
structure Entry where
  kind : EntryKind
  size : Nat
  deriving Repr, DecidableEq

/-- Whether the entry is a folder. -/
def Entry.isFolder (e : Entry) : Bool := e.kind = .folder

/-- Whether the entry is a file. -/
def Entry.isFile (e : Entry) : Bool := e.kind = .file

/-- What became of a command. Without an exit code it did not end by itself. -/
structure CommandResult where
  command : String
  success : Bool := true
  exitCode : Option Int := none
  output : String := ""
  errors : String := ""
  deriving Repr, DecidableEq, Inhabited

/-- A call to the surroundings of a run. -/
inductive Call where
  | entry (path : String)
  | makeFolder (path : String)
  | write (path : String) (bytes : ByteArray)
  | read (path : String)
  | list (path : String)
  | removeFile (path : String)
  | removeFolder (path : String)
  | fetch (url : String)
  | generate (request : Request)
  | command (text folder : String)

/-- What comes back from a call. -/
abbrev Call.Reply : Call → Type
  | entry _ => Except Failure (Option Entry)
  | makeFolder _ | write _ _ | removeFile _ | removeFolder _ => Except Failure Unit
  | read _ | fetch _ | generate _ => Except Failure ByteArray
  | list _ => Except Failure (List String)
  | command _ _ => CommandResult

/-- What answers calls. -/
abbrev Host (m : Type → Type) := (call : Call) → m call.Reply

/-- What there is besides a file system: downloads, generators and commands. -/
structure Outside where
  fetch : String → Except Failure ByteArray := fun _ => .error (.notConfigured "fetcher")
  generate : Request → Except Failure ByteArray := fun _ => .error (.notConfigured "generator")
  command : String → String → CommandResult := fun text _ => { command := text, success := false }

/-- A computation that may ask its surroundings. -/
inductive Run (α : Type) where
  | done (result : α)
  | ask (call : Call) (next : call.Reply → Run α)

namespace Run

variable {α β γ : Type}

/-- A run followed by another that depends on its result. -/
def andThen : Run α → (α → Run β) → Run β
  | done a, f => f a
  | ask call next, f => ask call fun reply => (next reply).andThen f

instance : Monad Run where
  pure := done
  bind := andThen

@[simp]
theorem pure_eq_done (a : α) : (pure a : Run α) = done a := rfl

@[simp]
theorem done_bind (a : α) (f : α → Run β) : (done a : Run α) >>= f = f a := rfl

@[simp]
theorem ask_bind (call : Call) (next : call.Reply → Run α) (f : α → Run β) :
    ask call next >>= f = ask call fun reply => next reply >>= f := rfl

theorem bind_done (r : Run α) : r >>= done = r := by
  induction r with
  | done a => rfl
  | ask call next ih => simp [ih]

theorem bind_bind (r : Run α) (f : α → Run β) (g : β → Run γ) :
    r >>= f >>= g = r >>= fun a => f a >>= g := by
  induction r with
  | done a => rfl
  | ask call next ih => simp [ih]

instance : LawfulMonad Run :=
  LawfulMonad.mk' Run bind_done (fun _ _ => rfl) bind_bind

/-- A single call. -/
def call (c : Call) : Run c.Reply := ask c done

/-- The result of a run on a host. -/
def on {m : Type → Type} [Monad m] (host : Host m) : Run α → m α
  | done a => pure a
  | ask c next => do
    let reply ← host c
    (next reply).on host

@[simp]
theorem on_done {m : Type → Type} [Monad m] (host : Host m) (a : α) :
    (done a).on host = pure a := rfl

@[simp]
theorem on_ask {m : Type → Type} [Monad m] (host : Host m) (c : Call) (next : c.Reply → Run α) :
    (ask c next).on host = host c >>= fun reply => (next reply).on host := rfl

/-- A run of two parts is carried out part by part. -/
@[simp]
theorem on_bind {m : Type → Type} [Monad m] [LawfulMonad m] (host : Host m) (r : Run α)
    (f : α → Run β) : (r >>= f).on host = r.on host >>= fun a => (f a).on host := by
  induction r with
  | done a => simp
  | ask c next ih => simp [ih]

/-- The calls of a run that are answered by a rule, and its result. -/
def calls (answer : (c : Call) → c.Reply) : Run α → List Call × α
  | done a => ([], a)
  | ask c next =>
    let (rest, a) := (next (answer c)).calls answer
    (c :: rest, a)

end Run

end Scaffold

/-
Walking a schema.

The walk decides which nodes are visited: it keeps to the greatest depth, checks
names, takes one of a condition and its alternative, and repeats bodies. What a
visited folder or file means is left to a `Visitor`.

* `Cursor` is where a walk is; `Cursor.descend` goes to a child;
* `walkNode` visits a node. The last condition of a list of siblings is handed on
  from each node to the next, so that an alternative knows whether it is taken;
* `walk` starts at a root.
-/
import Scaffold.Condition
import Scaffold.Limits
import Scaffold.Name
import Scaffold.Path
import Scaffold.Report

namespace Scaffold

open Calendar Text Variable

/-- Where a walk is: the path of the file system, the path below the output folder
as it is shown, and whether a folder on the way is only planned. -/
structure Cursor where
  path : String
  relative : String := ""
  isPlanned : Bool := false
  deriving Repr, DecidableEq

namespace Cursor

/-- The cursor at a child. -/
def descend (c : Cursor) (name : String) : Cursor :=
  { c with
    path := Path.join c.path name
    relative := if c.relative = "" then name else c.relative ++ "/" ++ name }

/-- The path below the output folder; the output folder itself is a dot. -/
def shown (c : Cursor) : String :=
  if c.relative = "" then "." else c.relative

end Cursor

/-- What is done with the nodes of a walk. `Item` is what comes out of a node, and
`Opened` what is remembered of a folder while its children are walked. -/
structure Visitor (m : Type → Type) (Item Opened : Type) where
  isDry : Bool
  report : LogEntry → m Unit
  /-- A folder before its children. Without a result they are not walked; the flag
  says that the folder is only planned. -/
  enterFolder : String → Cursor → m (Option (Opened × Bool))
  leaveFolder : Opened → List Item → m (Option Item)
  file : String → FileNode → Cursor → Environment → m (Option Item)
  /-- A condition that holds, its alternative, or a repetition. -/
  group : String → Cursor → List Item → m (Option Item)
  invalidName : ItemKind → Cursor → m (Option Item)

/-- What a walk keeps to. -/
structure WalkSettings where
  limits : Limits
  today : Date

namespace Walk

variable {m : Type → Type} [Monad m] {Item Opened : Type}

/-- Reports a name that was refused. -/
def refuseName (v : Visitor m Item Opened) (kind : ItemKind) (raw : String) (fault : Violation)
    (place : Cursor) : m (Option Item) := do
  v.report ⟨.error, s!"Invalid name: {raw}", fault.message⟩
  v.invalidName kind place

/-- Visits a file, if its name is accepted. -/
def visitFile (v : Visitor m Item Opened) (f : FileNode) (place : Cursor) (env : Environment) :
    m (Option Item) :=
  match Name.check (substitute env f.name) with
  | .error fault => refuseName v .file f.name fault place
  | .ok name => v.file name f (place.descend name) env

/-- Visits a folder, if its name is accepted; `walkChildren` walks what is in it. -/
def visitFolder (v : Visitor m Item Opened) (raw : String) (place : Cursor) (env : Environment)
    (walkChildren : Cursor → m (List Item)) : m (Option Item) :=
  match Name.check (substitute env raw) with
  | .error fault => refuseName v .folder raw fault place
  | .ok name => do
    let here := place.descend name
    match ← v.enterFolder name here with
    | none => return none
    | some (opened, isPlanned) =>
      let items ← walkChildren { here with isPlanned := here.isPlanned || isPlanned }
      v.leaveFolder opened items

/-- The scope of one round of a repetition: its number, from zero and from one. -/
def roundScope (scope : Scope) (item : String) (round : Nat) : Scope :=
  (scope.push.bind item (toString round)).bind (item ++ "_1") (toString (round + 1))

/-- The variable and the count of a repetition; what is wrong with it is reported. -/
def readLoop (s : WalkSettings) (v : Visitor m Item Opened) (count item : String)
    (env : Environment) : m (Option (Nat × String)) := do
  match checkLoopVariable (String.ofList (trim item.toList)) with
  | .error fault =>
    v.report ⟨.error, s!"Invalid repeat variable name: '{item}'", fault.message⟩
    return none
  | .ok name =>
    match RepeatCount.read (substitute env count) s.limits.maxRepeat with
    | .times 0 =>
      v.report ⟨.info, "Skipping repeat block (count is 0)",
        s!"Count '{count}' resolved to 0"⟩
      return none
    | .times times => return some (times, name)
    | .invalid text =>
      v.report ⟨.warning, s!"Invalid repeat count: '{text}'",
        s!"Count must be a non-negative integer (resolved from '{count}')"⟩
      return none
    | .tooLarge times limit =>
      v.report ⟨.error, "Repeat count exceeds maximum",
        (Violation.repeatLimitExceeded times limit).message⟩
      return none

/-- Visits a repetition; `walkRound` walks its body in a scope. -/
def visitLoop (s : WalkSettings) (v : Visitor m Item Opened) (count item : String) (place : Cursor)
    (scope : Scope) (walkRound : Scope → m (List Item)) : m (Option Item) := do
  match ← readLoop s v count item (scope.environment s.today) with
  | none => return none
  | some (times, name) =>
    let verb := if v.isDry then "Would repeat" else "Repeating"
    v.report ⟨.info, s!"{verb} {times} times (as %{name}%)", none⟩
    let rounds ← (List.range times).mapM fun round => walkRound (roundScope scope name round)
    v.group s!"[repeat {times} as {name}]" place rounds.flatten

/-- Whether a condition holds: its variable is set and true. -/
def holds (scope : Scope) (condition : String) : Bool :=
  (scope.get? condition).any isTruthy

mutual

/-- Visits a node at a depth. `lastIf` says whether the condition directly in front
held, if there is one; it comes back for the next sibling. -/
def walkNode (s : WalkSettings) (v : Visitor m Item Opened) (node : Node) (place : Cursor)
    (scope : Scope) (depth : Nat) (lastIf : Option Bool) : m (Option Item × Option Bool) := do
  if s.limits.maxDepth < depth then
    v.report ⟨.error, "Maximum schema depth exceeded",
      s!"{(Violation.depthExceeded s.limits.maxDepth).message} (at {place.shown})"⟩
    return (none, none)
  else
    match node with
    | .folder raw children _ =>
      let item ← visitFolder v raw place (scope.environment s.today) fun inner =>
        walkList s v children inner scope (depth + 1) none
      return (item, none)
    | .file f => return (← visitFile v f place (scope.environment s.today), none)
    | .branch condition children =>
      if holds scope condition then
        let items ← walkList s v children place scope (depth + 1) none
        return (← v.group s!"[if {condition}]" place items, some true)
      else return (none, some false)
    | .otherwise children =>
      match lastIf with
      | some false =>
        let items ← walkList s v children place scope (depth + 1) none
        return (← v.group "[else]" place items, none)
      | some true => return (none, none)
      | none =>
        v.report ⟨.warning, "Skipped orphaned else block (no preceding if)",
          "Else blocks must immediately follow an if block"⟩
        return (none, none)
    | .loop count item children =>
      let group ← visitLoop s v count item place scope fun inner =>
        walkList s v children place inner (depth + 1) none
      return (group, none)

/-- Visits siblings from left to right. -/
def walkList (s : WalkSettings) (v : Visitor m Item Opened) (nodes : List Node) (place : Cursor)
    (scope : Scope) (depth : Nat) (lastIf : Option Bool) : m (List Item) := do
  match nodes with
  | [] => return []
  | node :: rest =>
    let (item, next) ← walkNode s v node place scope depth lastIf
    return item.toList ++ (← walkList s v rest place scope depth next)

end

end Walk

/-- Visits a schema from its root on. -/
def walk {m : Type → Type} [Monad m] {Item Opened : Type} (s : WalkSettings)
    (v : Visitor m Item Opened) (root : Node) (output : String) (scope : Scope) :
    m (List Item) :=
  Walk.walkList s v [root] ⟨output, "", false⟩ scope 0 none

end Scaffold

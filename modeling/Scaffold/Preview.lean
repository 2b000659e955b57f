/-
Previews: what creating a schema would do, as a tree.

* A `PreviewNode` is a folder, file or group of the tree, with what would happen
  to it;
* `Preview.visitor` judges the nodes of a walk instead of writing them;
* `preview` is the tree of a schema with a summary.
-/
import Scaffold.Content
import Scaffold.Diff
import Scaffold.Text.Utf8
import Scaffold.Url.Guard
import Scaffold.Walk

namespace Scaffold

open Text Variable

/-- What would happen to a node. -/
inductive PreviewAction where
  | create
  | overwrite
  | skip
  | unchanged
  deriving Repr, DecidableEq

/-- The name of an action. -/
def PreviewAction.name : PreviewAction → String
  | create => "create"
  | overwrite => "overwrite"
  | skip => "skip"
  | unchanged => "unchanged"

/-- A node of a preview. -/
structure PreviewNode where
  kind : ItemKind
  name : String
  path : String
  action : PreviewAction
  existingContent : Option String := none
  newContent : Option String := none
  hunks : Option (List Diff.Hunk) := none
  url : Option String := none
  isBinary : Bool := false
  children : List PreviewNode := []

/-- How many nodes there are of each action, and what was noticed. -/
structure PreviewSummary where
  totalItems : Nat := 0
  creates : Nat := 0
  overwrites : Nat := 0
  skips : Nat := 0
  unchangedFolders : Nat := 0
  warnings : Array String := #[]
  deriving Repr, DecidableEq, Inhabited

/-- A preview of a schema. -/
structure Preview where
  root : PreviewNode
  summary : PreviewSummary

/-! ### Searching -/

mutual

/-- The first node of a name, in pre-order. -/
def PreviewNode.find? (name : String) (node : PreviewNode) : Option PreviewNode :=
  match node with
  | ⟨kind, own, path, action, old, new, hunks, url, isBinary, children⟩ =>
    if own = name then some ⟨kind, own, path, action, old, new, hunks, url, isBinary, children⟩
    else PreviewNode.findIn? name children

/-- The first node of a name below some nodes, in pre-order. -/
def PreviewNode.findIn? (name : String) : List PreviewNode → Option PreviewNode
  | [] => none
  | node :: rest => (node.find? name).or (PreviewNode.findIn? name rest)

end

mutual

/-- The files of a tree, in pre-order. -/
def PreviewNode.files (node : PreviewNode) : List PreviewNode :=
  match node with
  | ⟨kind, name, path, action, old, new, hunks, url, isBinary, children⟩ =>
    (if kind = .file then
      [⟨kind, name, path, action, old, new, hunks, url, isBinary, children⟩] else [])
      ++ PreviewNode.filesIn children

/-- The files of some trees, in pre-order. -/
def PreviewNode.filesIn : List PreviewNode → List PreviewNode
  | [] => []
  | node :: rest => node.files ++ PreviewNode.filesIn rest

end

namespace Preview

/-- What a preview depends on. -/
structure Settings extends WalkSettings where
  overwrite : Bool

/-- Previewing, with what has been counted so far. -/
abbrev PreviewM := StateT PreviewSummary Run

/-- A folder whose children are still to be walked. -/
structure OpenedFolder where
  name : String
  path : String
  action : PreviewAction

/-- Notes a warning. -/
def warn (message : String) : PreviewM Unit :=
  modify fun s => { s with warnings := s.warnings.push message }

/-- Notes errors and warnings of the walk. -/
def report (entry : LogEntry) : PreviewM Unit :=
  match entry.kind with
  | .error | .warning =>
    warn (match entry.details with
      | some details => s!"{entry.message}: {details}"
      | none => entry.message)
  | .info | .success => return

/-- Counts a node by its action. -/
def count (action : PreviewAction) : PreviewM Unit :=
  modify fun s =>
    let s := { s with totalItems := s.totalItems + 1 }
    match action with
    | .create => { s with creates := s.creates + 1 }
    | .overwrite => { s with overwrites := s.overwrites + 1 }
    | .skip => { s with skips := s.skips + 1 }
    | .unchanged => { s with unchangedFolders := s.unchangedFolders + 1 }

/-- What is at a place. Nothing is in a folder that is only planned, and what cannot
be looked at counts as missing. -/
def look (place : Cursor) : PreviewM (Option Entry) := do
  if place.isPlanned then return none
  match ← liftM (Run.call (.entry place.path)) with
  | .ok entry => return entry
  | .error e =>
    warn s!"Could not inspect {place.shown}: {e.message}"
    return none

/-- Visits a folder. -/
def enterFolder (name : String) (place : Cursor) : PreviewM (Option (OpenedFolder × Bool)) := do
  match ← look place with
  | none => return some (⟨name, place.shown, .create⟩, true)
  | some entry =>
    if entry.isFolder then return some (⟨name, place.shown, .unchanged⟩, false)
    else
      warn s!"Cannot create folder {place.shown}: a file with this name already exists"
      return none

/-- Counts a folder whose children were walked. -/
def leaveFolder (folder : OpenedFolder) (children : List PreviewNode) :
    PreviewM (Option PreviewNode) := do
  count folder.action
  return some ⟨.folder, folder.name, folder.path, folder.action, none, none, none, none, false,
    children⟩

/-! ### Files -/

/-- Fills in what a file would be made of. The text comes back where there is one. -/
def describe (s : Settings) (f : FileNode) (place : Cursor) (env : Environment)
    (node : PreviewNode) : PreviewM (PreviewNode × Option String) := do
  match f.source with
  | .url raw =>
    let resolved := substitute env raw
    if let .error v := Url.guard resolved then
      warn s!"Invalid URL for {place.shown}: {v.message}"
    return ({ node with
      newContent := some s!"[Content from URL: {resolved}]", url := some resolved,
      isBinary := true }, none)
  | .generated kind _ =>
    return ({ node with
      newContent := some s!"[Generated {kind.noun}]", isBinary := true }, none)
  | .inline content =>
    let (text, fault) := renderContent env f.isTemplate (content.getD "")
    if let some e := fault then
      warn s!"Template error in {place.shown}: {e.message}"
    return ({ node with newContent := some (Content.truncate text s.limits.maxDiffContent) },
      some text)

/-- Fills in what a file holds that would be overwritten, and how a new text differs
from it. -/
def compare (s : Settings) (size : Nat) (place : Cursor) (text : Option String)
    (node : PreviewNode) : PreviewM PreviewNode := do
  if s.limits.maxPreviewBytes < size then
    return { node with existingContent := some s!"[File too large to diff: {size} bytes]" }
  match ← liftM (Run.call (.read place.path)) with
  | .error e =>
    warn s!"Could not read {place.shown}: {e.message}"
    return node
  | .ok bytes =>
    if Content.isBinary bytes then return { node with isBinary := true }
    let old := String.ofList (ofBytes bytes.toList)
    return { node with
      existingContent := some (Content.truncate old s.limits.maxDiffContent)
      hunks := text.map fun new => Diff.hunks old new s.limits.maxDiffLines }

/-- Judges a file by what is at its place. -/
def judgeFile (s : Settings) (name : String) (f : FileNode) (place : Cursor) (env : Environment)
    (existing : Option Entry) : PreviewM PreviewNode := do
  let action : PreviewAction := match existing with
    | none => .create
    | some _ => if s.overwrite then .overwrite else .skip
  count action
  let (node, text) ← describe s f place env { kind := .file, name, path := place.shown, action }
  match action, existing with
  | .overwrite, some entry => compare s entry.size place text node
  | _, _ => return node

/-- Visits a file. -/
def visitFile (s : Settings) (name : String) (f : FileNode) (place : Cursor)
    (env : Environment) : PreviewM (Option PreviewNode) := do
  let existing ← look place
  if existing.any Entry.isFolder then
    warn s!"Cannot create file {place.shown}: a folder with this name already exists"
    return none
  else return some (← judgeFile s name f place env existing)

/-- A group with children. -/
def group (label : String) (place : Cursor) (children : List PreviewNode) :
    PreviewM (Option PreviewNode) :=
  if children.isEmpty then return none
  else
    return some ⟨.folder, label, place.shown, .unchanged, none, none, none, none, false, children⟩

/-- The visitor that judges what it visits. -/
def visitor (s : Settings) : Visitor PreviewM PreviewNode OpenedFolder where
  isDry := true
  report := report
  enterFolder := enterFolder
  leaveFolder := leaveFolder
  file := visitFile s
  group := group
  invalidName := fun kind place =>
    return some { kind, name := "[invalid name]", path := place.shown, action := .skip }

/-- The root of a tree: its only node, or a folder that stands for the output. -/
def rootOf : List PreviewNode → PreviewNode
  | [node] => node
  | nodes =>
    { kind := .folder, name := "[root]", path := ".", action := .unchanged, children := nodes }

end Preview

/-- What creating a schema under an output folder would do. -/
def preview (s : Preview.Settings) (schema : Schema) (output : String) (scope : Scope) :
    Run Preview := do
  let (nodes, summary) ←
    (walk s.toWalkSettings (Preview.visitor s) schema.root output scope).run {}
  return ⟨Preview.rootOf nodes, summary⟩

end Scaffold

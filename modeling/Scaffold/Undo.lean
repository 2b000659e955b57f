/-
Undoing what a run created.

Files are deleted before folders, the latest first. Folders are deleted from the
deepest on, each once, and only when nothing is left in them. What was there
before the run is kept.

* `Undo.plan` puts items into that order;
* `undo` goes through a list of items. In a dry run it says what would be deleted,
  and what would be gone counts as gone.
-/
import Scaffold.Path
import Scaffold.Report

namespace Scaffold

namespace Undo

/-- What undoing depends on. -/
structure Settings where
  canDelete : Bool := true
  dryRun : Bool := false
  deriving Repr, DecidableEq, Inhabited

/-- Undoing so far: what is reported, and the paths that are gone. -/
structure Progress where
  undoing : Undoing := {}
  gone : List Path.Key := []
  deriving Inhabited

/-- Undoing, with what has been deleted so far. -/
abbrev UndoM := StateT Progress Run

/-- Asks the surroundings. -/
def ask (c : Call) : UndoM c.Reply := liftM (Run.call c)

/-- Changes the summary. -/
def count (change : UndoSummary → UndoSummary) : UndoM Unit :=
  modify fun p => { p with undoing := { p.undoing with summary := change p.undoing.summary } }

/-- Adds a message to the log. -/
def log (kind : LogKind) (message : String) (details : Option String := none) : UndoM Unit :=
  modify fun p =>
    { p with undoing := { p.undoing with logs := p.undoing.logs.push ⟨kind, message, details⟩ } }

/-- Counts and reports an item that is kept. -/
def skip (message : String) (details : Option String := none) : UndoM Unit := do
  count fun s => { s with itemsSkipped := s.itemsSkipped + 1 }
  log .info message details

/-- Counts and reports something that went wrong. -/
def fail (message : String) (e : Failure) : UndoM Unit := do
  count fun s => { s with errors := s.errors + 1 }
  log .error message s!"Error: {e.message}"

/-- Counts and reports a deletion. -/
def noteGone (kind : ItemKind) (path : String) (logKind : LogKind) (verb : String) :
    UndoM Unit := do
  count fun s => match kind with
    | .file => { s with filesDeleted := s.filesDeleted + 1 }
    | .folder => { s with foldersDeleted := s.foldersDeleted + 1 }
  modify fun p => { p with gone := Path.components path :: p.gone }
  log logKind s!"{verb} {kind.name}: {path}"

/-- Deletes what is at a path, or says that it would be deleted. -/
def delete (s : Settings) (kind : ItemKind) (path : String) : UndoM Unit := do
  if s.dryRun then noteGone kind path .info "Would delete"
  else
    let removed ← match kind with
      | .file => ask (.removeFile path)
      | .folder => ask (.removeFolder path)
    match removed with
    | .error e => fail s!"Failed to delete {kind.name}: {path}" e
    | .ok () => noteGone kind path .success "Deleted"

/-- Deletes a file that is still one. -/
def undoFile (s : Settings) (path : String) : UndoM Unit := do
  match ← ask (.entry path) with
  | .error e => fail s!"Failed to inspect file: {path}" e
  | .ok none => skip s!"File already deleted: {path}"
  | .ok (some entry) =>
    if entry.isFile then delete s .file path
    else skip s!"Not a file, skipped: {path}" "The path now holds a folder"

/-- Deletes a folder that is still one, if nothing is left in it. -/
def undoFolder (s : Settings) (path : String) : UndoM Unit := do
  match ← ask (.entry path) with
  | .error e => fail s!"Failed to inspect folder: {path}" e
  | .ok none => skip s!"Folder already deleted: {path}"
  | .ok (some entry) =>
    if !entry.isFolder then skip s!"Not a folder, skipped: {path}" "The path now holds a file"
    else
      match ← ask (.list path) with
      | .error e => fail s!"Failed to read folder: {path}" e
      | .ok names =>
        let gone := (← get).gone
        if names.all fun name => gone.contains (Path.components (Path.join path name)) then
          delete s .folder path
        else
          skip s!"Folder not empty, skipped: {path}"
            "Only empty folders are deleted to prevent data loss"

/-! ### Order -/

/-- The items that were there before. -/
def kept (items : List CreatedItem) : List CreatedItem :=
  items.filter (·.preExisted)

/-- The paths of the items of a kind that were not there before. -/
def created (kind : ItemKind) (items : List CreatedItem) : List String :=
  (items.filter fun i => !i.preExisted && i.kind = kind).map (·.path)

/-- Whether a folder is deleted before another: it is deeper, or of the same depth
and in front of it. -/
def isBefore (a b : String) : Bool :=
  let (ka, kb) := (Path.components a, Path.components b)
  kb.length < ka.length || (ka.length == kb.length && !decide (kb < ka))

/-- Paths without those that mean the same as the path in front of them. -/
def withoutRepeats : List String → List String
  | a :: b :: rest =>
    if Path.components a = Path.components b then withoutRepeats (a :: rest)
    else a :: withoutRepeats (b :: rest)
  | paths => paths

/-- The paths of folders in the order in which they are deleted, each once. -/
def folderOrder (paths : List String) : List String :=
  withoutRepeats (paths.mergeSort isBefore)

end Undo

/-- Undoes what was created. Without a way to delete, nothing is begun. -/
def undo (s : Undo.Settings) (items : List CreatedItem) : Run (Except Failure Undoing) := do
  if !s.canDelete then return .error .undoUnsupported
  let program : Undo.UndoM Unit := do
    (Undo.kept items).forM fun item =>
      Undo.skip s!"Skipped (pre-existed): {item.path}"
        "This item existed before creation and was overwritten"
    (Undo.created .file items).reverse.forM (Undo.undoFile s)
    (Undo.folderOrder (Undo.created .folder items)).forM (Undo.undoFolder s)
  return .ok (← program.run {}).2.undoing

end Scaffold

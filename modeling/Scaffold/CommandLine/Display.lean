/-
What commands write.

A `Line` is a line of output; in quiet mode only essential ones are written: errors
with their details, and results in JSON.
* `Display.log`, `Display.tree` and `Display.issues` are the lines of a log, of a
  preview and of a check;
* `Display.creation`, `Display.undoing` and `Display.summary` add what came of it.
-/
import Scaffold.Check
import Scaffold.Json.Printer
import Scaffold.Preview
import Scaffold.Report
import Scaffold.Text.Decimal

namespace Scaffold.CommandLine

open Text

/-- A line of output. -/
structure Line where
  text : String
  isEssential : Bool := false
  deriving Repr, DecidableEq

namespace Display

/-- The mark of a kind of message. -/
def mark : LogKind → String
  | .success => "✓"
  | .error => "✗"
  | .warning => "⚠"
  | .info => "ℹ"

/-- A message behind its mark. -/
def message (kind : LogKind) (text : String) : Line :=
  ⟨s!"{mark kind} {text}", kind = .error⟩

/-- A line of text. -/
def plain (text : String) : Line := ⟨text, false⟩

/-- A value behind its label. -/
def field (label value : String) : Line :=
  let padded := String.ofList (padRight 14 ' ' label.toList)
  plain s!"  {padded} {value}"

/-- A number behind its label. -/
def count (label : String) (n : Nat) : Line := field label (toString n)

/-- A result in JSON. -/
def json (v : Json.Value) : Line := ⟨v.pretty, true⟩

/-- A line of a text that ends there, without a return in front of its end. -/
def endedLine (cs : List Char) : List Char :=
  (before? ['\r'] cs).getD cs

/-- The lines of a text; the end of the last one may be missing. -/
def textLines (text : String) : List String :=
  let lines := splitOn '\n' text.toList
  let last := (lines.getLast?.filter (· != [])).toList
  (lines.dropLast.map endedLine ++ last).map String.ofList

/-- The lines of one message of a log. -/
def entry (e : LogEntry) : List Line :=
  message e.kind e.message
    :: (textLines (e.details.getD "")).map fun l => ⟨s!"    {l}", e.kind = .error⟩

/-- The lines of a log. -/
def log (entries : Array LogEntry) : List Line :=
  entries.toList.flatMap entry

/-! ### Previews -/

/-- The mark of an action. -/
def badge : PreviewAction → String
  | .create => "+"
  | .overwrite => "~"
  | .skip => "-"
  | .unchanged => "="

/-- The mark of a line of a difference. -/
def sign : Diff.LineKind → String
  | .add => "+"
  | .remove => "-"
  | .context => " "
  | .truncated => ""

/-- The lines of a hunk. -/
def hunk (h : Diff.Hunk) : List String :=
  s!"@@ -{h.oldStart},{h.oldCount} +{h.newStart},{h.newCount} @@"
    :: h.lines.map fun l => sign l.kind ++ l.content

/-- The line of a node, without what is in it. -/
def nodeLine (node : PreviewNode) : String :=
  let name := if node.kind = ItemKind.folder then node.name ++ "/" else node.name
  let note := match node.url with
    | some url => s!" <- {url}"
    | none => if node.isBinary && node.kind = ItemKind.file then " (binary)" else ""
  s!"{badge node.action} {name}{note}"

mutual

/-- The lines of a node and of what is in it. -/
def tree (indent : String) : PreviewNode → List Line
  | node@⟨_, _, _, _, _, _, hunks, _, _, children⟩ =>
    plain (indent ++ nodeLine node)
      :: ((hunks.getD []).flatMap hunk).map (fun l => plain s!"{indent}    {l}")
      ++ trees (indent ++ "  ") children

/-- The lines of some nodes. -/
def trees (indent : String) : List PreviewNode → List Line
  | [] => []
  | node :: rest => tree indent node ++ trees indent rest

end

/-- The lines of a preview. -/
def preview (p : Preview) : List Line :=
  tree "" p.root
    ++ [plain "", plain "Preview", count "Create" p.summary.creates,
      count "Overwrite" p.summary.overwrites, count "Skip" p.summary.skips,
      count "Unchanged" p.summary.unchangedFolders]
    ++ p.summary.warnings.toList.map (message .warning)

/-! ### Results -/

/-- The title of a summary. -/
def summaryTitle (dryRun : Bool) : Line :=
  plain (if dryRun then "Dry run summary" else "Summary")

/-- A number behind its label, unless it is zero. -/
def countIfAny (label : String) (n : Nat) : List Line :=
  if n = 0 then [] else [count label n]

/-- The lines of what became of creating. -/
def creation (dryRun : Bool) (c : Creation) : List Line :=
  let s := c.summary
  log c.logs
    ++ [plain "", summaryTitle dryRun, count "Folders" s.foldersCreated,
      count "Files" s.filesCreated]
    ++ countIfAny "Downloaded" s.filesDownloaded
    ++ countIfAny "Generated" s.filesGenerated
    ++ [count "Skipped" s.skipped, count "Errors" s.errors]
    ++ (if s.hooksExecuted = 0 ∧ s.hooksFailed = 0 then []
      else [field "Hooks" s!"{s.hooksExecuted} ran, {s.hooksFailed} failed"])
    ++ [plain "",
      if s.errors ≠ 0 then message .warning s!"Finished with {s.errors} error(s)"
      else if dryRun then message .success "Dry run complete; nothing was written"
      else message .success "Structure created"]

/-- The lines of what became of undoing. -/
def undoing (dryRun : Bool) (u : Undoing) : List Line :=
  let s := u.summary
  log u.logs
    ++ [plain "", summaryTitle dryRun, count "Files" s.filesDeleted,
      count "Folders" s.foldersDeleted, count "Skipped" s.itemsSkipped,
      count "Errors" s.errors, plain ""]
    ++ if s.errors ≠ 0 then [message .warning s!"Undo finished with {s.errors} error(s)"]
      else if dryRun then []
      else [message .success "Undo complete"]

/-- The text of an issue, with its place. -/
def issue (i : Issue) : String :=
  i.message ++ (i.nodePath.map fun path => s!" ({path})").getD ""

/-- The lines of a check. -/
def check (r : CheckReport) : List Line :=
  if r.isClean then [message .success "Schema is clean"]
  else
    r.errors.map (fun i => message .error (issue i))
      ++ r.warnings.map (fun i => message .warning (issue i))
      ++ [plain "", count "Errors" r.errors.length, count "Warnings" r.warnings.length]

/-- The text that is written. -/
def written (quiet : Bool) (lines : List Line) : String :=
  String.join (lines.map fun l => if l.isEssential || !quiet then l.text ++ "\n" else "")

end Display

end Scaffold.CommandLine

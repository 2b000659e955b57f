/-
The values of results.

Parts that are absent, and lists that are empty where they usually are, are left
out.
-/
import Scaffold.Check
import Scaffold.Preview
import Scaffold.Rule
import Scaffold.Undo

namespace Scaffold

open Json

/-- The value of a message. -/
def LogEntry.toValue (e : LogEntry) : Value :=
  .object ([("log_type", .text e.kind.name), ("message", .text e.message)]
    ++ Value.optional "details" (e.details.map .text))

/-- The value of messages. -/
def logsValue (logs : Array LogEntry) : Value :=
  .array (logs.toList.map LogEntry.toValue)

/-- The value of what became of a command. -/
def CommandResult.toValue (r : CommandResult) : Value :=
  .object ([("command", .text r.command), ("success", .bool r.success)]
    ++ Value.optional "exit_code" (r.exitCode.map .integer)
    ++ [("stdout", .text r.output), ("stderr", .text r.errors)])

/-- The value of a summary. -/
def CreationSummary.toValue (s : CreationSummary) : Value :=
  .object [("folders_created", .natural s.foldersCreated),
    ("files_created", .natural s.filesCreated), ("files_downloaded", .natural s.filesDownloaded),
    ("files_generated", .natural s.filesGenerated), ("errors", .natural s.errors),
    ("skipped", .natural s.skipped), ("hooks_executed", .natural s.hooksExecuted),
    ("hooks_failed", .natural s.hooksFailed)]

/-- The value of what became of creating a schema. -/
def Creation.toValue (c : Creation) : Value :=
  .object [("logs", logsValue c.logs), ("summary", c.summary.toValue),
    ("hook_results", .array (c.hookResults.toList.map CommandResult.toValue)),
    ("created_items", .array (c.items.toList.map CreatedItem.toValue))]

mutual

/-- The value of a node of a preview. -/
def PreviewNode.toValue (node : PreviewNode) : Value :=
  match node with
  | ⟨kind, name, path, action, existing, new, hunks, url, isBinary, children⟩ =>
    .object ([("node_type", .text kind.name), ("name", .text name), ("path", .text path),
        ("action", .text action.name)]
      ++ Value.optional "existing_content" (existing.map .text)
      ++ Value.optional "new_content" (new.map .text)
      ++ Value.optional "diff_hunks" (hunks.map fun h => .array (h.map Diff.Hunk.toValue))
      ++ Value.optional "url" (url.map .text)
      ++ [("is_binary", .bool isBinary)]
      ++ (if children.isEmpty then [] else [("children", .array (PreviewNode.toValues children))]))

/-- The values of nodes of a preview. -/
def PreviewNode.toValues : List PreviewNode → List Value
  | [] => []
  | node :: rest => node.toValue :: PreviewNode.toValues rest

end

/-- The value of a summary. -/
def PreviewSummary.toValue (s : PreviewSummary) : Value :=
  .object ([("total_items", .natural s.totalItems), ("creates", .natural s.creates),
      ("overwrites", .natural s.overwrites), ("skips", .natural s.skips),
      ("unchanged_folders", .natural s.unchangedFolders)]
    ++ (if s.warnings.isEmpty then []
      else [("warnings", .array (s.warnings.toList.map .text))]))

/-- The value of a preview. -/
def Preview.toValue (p : Preview) : Value :=
  .object [("root", p.root.toValue), ("summary", p.summary.toValue)]

/-- The value of what became of undoing. -/
def Undoing.toValue (u : Undoing) : Value :=
  .object [("logs", logsValue u.logs),
    ("summary", .object [("files_deleted", .natural u.summary.filesDeleted),
      ("folders_deleted", .natural u.summary.foldersDeleted),
      ("items_skipped", .natural u.summary.itemsSkipped), ("errors", .natural u.summary.errors)])]

/-- The value of a rule that is broken. -/
def RuleFault.toValue (f : RuleFault) : Value :=
  .object [("variable_name", .text f.variableName), ("message", .text f.message)]

/-- The value of an issue. -/
def Issue.toValue (i : Issue) : Value :=
  .object ([("kind", .text i.kind.name), ("message", .text i.message)]
    ++ Value.optional "node_path" (i.nodePath.map .text))

/-- The value of a report. -/
def CheckReport.toValue (r : CheckReport) : Value :=
  .object [("errors", .array (r.errors.map Issue.toValue)),
    ("warnings", .array (r.warnings.map Issue.toValue))]

end Scaffold

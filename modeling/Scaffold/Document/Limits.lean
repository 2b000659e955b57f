/-
Limits as documents: the name of each limit, and how it is read and set.
-/
import Scaffold.Json.Value
import Scaffold.Limits

namespace Scaffold.Limits

open Json

/-- A limit with its name. -/
structure Entry where
  name : String
  get : Limits → Nat
  set : Nat → Limits → Limits

/-- All limits in order. -/
def entries : List Entry :=
  [⟨"max_depth", maxDepth, fun n l => { l with maxDepth := n }⟩,
   ⟨"max_repeat", maxRepeat, fun n l => { l with maxRepeat := n }⟩,
   ⟨"max_download_bytes", maxDownloadBytes, fun n l => { l with maxDownloadBytes := n }⟩,
   ⟨"download_timeout_secs", downloadTimeoutSecs, fun n l => { l with downloadTimeoutSecs := n }⟩,
   ⟨"max_preview_bytes", maxPreviewBytes, fun n l => { l with maxPreviewBytes := n }⟩,
   ⟨"max_diff_content", maxDiffContent, fun n l => { l with maxDiffContent := n }⟩,
   ⟨"max_diff_lines", maxDiffLines, fun n l => { l with maxDiffLines := n }⟩,
   ⟨"max_pattern_length", maxPatternLength, fun n l => { l with maxPatternLength := n }⟩,
   ⟨"max_validation_input", maxValidationInput, fun n l => { l with maxValidationInput := n }⟩]

/-- The value of some limits. -/
def toValue (l : Limits) : Value :=
  .object (entries.map fun e => (e.name, .natural (e.get l)))

/-- The limits that an object names; the others keep their defaults. -/
def ofMembers (members : List (String × Value)) : Limits :=
  entries.foldl (fun l e =>
    match Value.find? e.name members with
    | some (.natural n) => e.set n l
    | _ => l) {}

end Scaffold.Limits

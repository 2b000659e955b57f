/-
The bounds of a run.
-/

namespace Scaffold

/-- The bounds that walks, downloads, previews and checks keep to. -/
structure Limits where
  maxDepth : Nat := 64
  maxRepeat : Nat := 10000
  maxDownloadBytes : Nat := 50 * 1024 * 1024
  downloadTimeoutSecs : Nat := 30
  maxPreviewBytes : Nat := 1024 * 1024
  maxDiffContent : Nat := 50000
  maxDiffLines : Nat := 1000
  maxPatternLength : Nat := 1000
  maxValidationInput : Nat := 10000
  deriving Repr, DecidableEq, Inhabited

end Scaffold

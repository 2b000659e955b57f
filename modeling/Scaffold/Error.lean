/-
What can go wrong, by cause.

* A `Violation` breaks a rule about names, loops, addresses or patterns.
* A `Failure` is an operation that did not work.
* An `Error` is either; `message`, `suggestions` and `category` say how it is
  reported, and `isTransient` which failures may pass on a second attempt.
-/
import Scaffold.Text.Split

namespace Scaffold

/-- A broken rule. -/
inductive Violation where
  | invalidName (name reason : String)
  | invalidLoopVariable (name : String)
  | repeatLimitExceeded (count limit : Nat)
  | depthExceeded (limit : Nat)
  | invalidUrl (url reason : String)
  | unsafeUrl (url reason : String)
  | invalidPattern (pattern reason : String)
  deriving Repr, DecidableEq

/-- An operation that did not work. -/
inductive Failure where
  | filesystem (path reason : String)
  | fetch (url reason : String)
  | downloadTooLarge (url : String) (size limit : Nat)
  | generator (kind reason : String)
  | documentLoad (path reason : String)
  | lockPoisoned
  | notConfigured (name : String)
  | noOutputRoot
  | undoUnsupported
  deriving Repr, DecidableEq

/-- A broken rule or a failed operation. -/
inductive Error where
  | violation (v : Violation)
  | failure (f : Failure)
  deriving Repr, DecidableEq

/-- What kind of fault an error is, for the one who reads it. -/
inductive Category where
  | validation
  | security
  | configuration
  | internal
  deriving Repr, DecidableEq

/-! ### Violations -/

namespace Violation

/-- The text of a violation. -/
def message : Violation → String
  | invalidName name reason => s!"Invalid name '{name}': {reason}"
  | invalidLoopVariable name =>
    s!"Invalid repeat variable name '{name}': use letters, digits and '_', not starting with a digit"
  | repeatLimitExceeded count limit => s!"Repeat count {count} exceeds maximum of {limit}"
  | depthExceeded limit => s!"Maximum schema depth of {limit} exceeded"
  | invalidUrl url reason => s!"Invalid URL '{url}': {reason}"
  | unsafeUrl url reason => s!"URL '{url}' is not allowed: {reason}"
  | invalidPattern pattern reason => s!"Invalid regex pattern '{pattern}': {reason}"

/-- What the user can do about a violation. -/
def suggestions : Violation → List String
  | invalidName name _ =>
    [s!"'{name}' cannot be used as a file or folder name",
     "Avoid path separators, '..', reserved device names and <>:\"|?*"]
  | invalidLoopVariable _ => ["Use a simple identifier for repeat_as, e.g. 'i' or 'item'"]
  | repeatLimitExceeded _ limit =>
    [s!"Keep repeat counts at or below {limit}",
     "Split very large repetitions into nested repeats"]
  | depthExceeded limit => [s!"Flatten the schema; nesting deeper than {limit} levels is refused"]
  | invalidUrl _ _ => ["Check the URL syntax, e.g. https://example.com/file"]
  | unsafeUrl _ _ =>
    ["Only public HTTPS hosts can be downloaded from",
     "Private, loopback and link-local addresses are blocked"]
  | invalidPattern _ _ => ["Simplify the pattern; nested quantifiers are refused"]

/-- Unsafe addresses, and patterns refused for security, are matters of security. -/
def category : Violation → Category
  | unsafeUrl _ _ => .security
  | invalidPattern _ reason => if Text.containsText "security".toList reason.toList then .security else .validation
  | _ => .validation

end Violation

/-! ### Failures -/

namespace Failure

/-- The text of a failure. -/
def message : Failure → String
  | filesystem path reason => s!"Filesystem error at {path}: {reason}"
  | fetch url reason => s!"Download failed for {url}: {reason}"
  | downloadTooLarge url size limit =>
    s!"Download from {url} is too large: {size} bytes (limit {limit})"
  | generator kind reason => s!"{kind} generator failed: {reason}"
  | documentLoad path reason => s!"Failed to load {path}: {reason}"
  | lockPoisoned => "Internal lock poisoned"
  | notConfigured name => s!"Required adapter not configured: {name}"
  | noOutputRoot => "No output directory selected"
  | undoUnsupported => "Undo is not supported by this filesystem"

/-- What the user can do about a failure. -/
def suggestions : Failure → List String
  | filesystem path _ =>
    [s!"Failed to access: {path}", "Check that you have write permissions",
     "Ensure the parent directory exists"]
  | fetch url _ =>
    [s!"Could not download {url}",
     "Check your network connection and that the URL is reachable"]
  | downloadTooLarge _ _ limit =>
    [s!"Downloads are capped at {limit} bytes; raise engine.max_download_bytes to allow more"]
  | generator _ _ => ["Check the generator configuration"]
  | documentLoad path _ =>
    [s!"Check the syntax of {path}", "Schemas may be JSON (.json) or TOML (.toml)"]
  | lockPoisoned => ["Shared state is locked", "Try again in a moment"]
  | notConfigured name =>
    [s!"Required component not configured: {name}", "This is likely a configuration error"]
  | noOutputRoot => ["Pass an output directory with --output"]
  | undoUnsupported =>
    ["Undo needs a filesystem with reliable delete support",
     "Remove the created items manually"]

/-- The category of a failure. -/
def category : Failure → Category
  | filesystem _ _ | lockPoisoned | fetch _ _ | generator _ _ => .internal
  | downloadTooLarge _ _ _ => .security
  | documentLoad _ _ | noOutputRoot => .validation
  | notConfigured _ | undoUnsupported => .configuration

/-- Whether a failure may pass on a second attempt. -/
def isTransient : Failure → Bool
  | lockPoisoned | fetch _ _ => true
  | _ => false

end Failure

/-! ### Errors -/

namespace Error

/-- The text of an error. -/
def message : Error → String
  | violation v => v.message
  | failure f => f.message

/-- What the user can do about an error. -/
def suggestions : Error → List String
  | violation v => v.suggestions
  | failure f => f.suggestions

/-- The category of an error. -/
def category : Error → Category
  | violation v => v.category
  | failure f => f.category

/-- Whether an error may pass on a second attempt. -/
def isTransient : Error → Bool
  | violation _ => false
  | failure f => f.isTransient

end Error

end Scaffold

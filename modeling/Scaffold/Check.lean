/-
Checking a schema without creating it.

Every branch is looked at whatever its condition, and the body of a repetition
once, with its variables taken as set.

* A `Finding` is an issue, or a variable that is used at a path without being set;
* `Check.findings` lists the findings in the order of the schema;
* `check` gathers them in a report. A variable is reported once, at its first path.
-/
import Scaffold.Condition
import Scaffold.Limits
import Scaffold.Name
import Scaffold.Schema
import Scaffold.Url.Guard

namespace Scaffold

open Calendar Text Variable

/-- What kind of thing is wrong. -/
inductive IssueKind where
  | undefinedVariable
  | duplicateName
  | invalidName
  | invalidUrl
  | invalidLoopVariable
  | invalidRepeatCount
  | orphanedElse
  | generatorExtension
  | conflictingSources
  | templateSyntax
  | depthExceeded
  deriving Repr, DecidableEq

/-- The name of a kind of issue. -/
def IssueKind.name : IssueKind → String
  | undefinedVariable => "undefined_variable"
  | duplicateName => "duplicate_name"
  | invalidName => "invalid_name"
  | invalidUrl => "invalid_url"
  | invalidLoopVariable => "invalid_loop_variable"
  | invalidRepeatCount => "invalid_repeat_count"
  | orphanedElse => "orphaned_else"
  | generatorExtension => "generator_extension"
  | conflictingSources => "conflicting_sources"
  | templateSyntax => "template_syntax"
  | depthExceeded => "depth_exceeded"

/-- Something wrong with a schema, and the node that it is wrong with. -/
structure Issue where
  kind : IssueKind
  message : String
  nodePath : Option String
  deriving Repr, DecidableEq

/-- What is wrong with a schema. -/
structure CheckReport where
  errors : List Issue
  warnings : List Issue
  deriving Repr, DecidableEq, Inhabited

/-- Whether nothing is wrong. -/
def CheckReport.isClean (r : CheckReport) : Bool :=
  r.errors.isEmpty && r.warnings.isEmpty

/-- Whether there is an error. -/
def CheckReport.hasErrors (r : CheckReport) : Bool :=
  !r.errors.isEmpty

/-- Something found in a schema. -/
inductive Finding where
  | error (issue : Issue)
  | warning (issue : Issue)
  | undefined (name path : String)
  deriving Repr, DecidableEq

namespace Check

/-- What a check depends on: the limits, the day, the given variables, and the
capital names that enclosing repetitions set. -/
structure Context where
  limits : Limits
  today : Date
  given : Scope
  bound : List String := []

/-- An issue at a path; the path above the root is none. -/
def issue (kind : IssueKind) (message path : String) : Issue :=
  ⟨kind, message, if path = "" then none else some path⟩

/-- An error at a path. -/
def error (kind : IssueKind) (message path : String) : Finding :=
  .error (issue kind message path)

/-- A warning at a path. -/
def warning (kind : IssueKind) (message path : String) : Finding :=
  .warning (issue kind message path)

/-! ### Variables -/

/-- Whether a variable is given, built in or set by an enclosing repetition. -/
def Context.isDefined (c : Context) (name : String) : Bool :=
  (c.given.get? name).isSome || builtinNames.contains name || c.bound.contains name

/-- The variables of a list that are not set. -/
def undefinedAmong (c : Context) (path : String) (names : List String) : List Finding :=
  (names.filter fun name => !c.isDefined name).map fun name => .undefined name path

/-- The variables of a text that are not set. -/
def undefinedIn (c : Context) (path text : String) : List Finding :=
  undefinedAmong c path (referenced text)

/-- A text with the given variables replaced, if no token is left. -/
def Context.resolved? (c : Context) (raw : String) : Option String :=
  let text := substitute (c.given.environment c.today) raw
  if hasTokens text then none else some text

/-- The context in the body of a repetition. -/
def Context.inLoop (c : Context) (item : String) : Context :=
  let name := String.ofList (upper (trim item.toList))
  { c with bound := name :: (name ++ "_1") :: c.bound }

/-! ### Parts of nodes -/

/-- How a node is called in paths. -/
def label : Node → String
  | .folder name _ _ => name
  | .file f => f.name
  | .branch condition _ => s!"[if {condition}]"
  | .otherwise _ => "[else]"
  | .loop count item _ => s!"[repeat {count} as {item}]"

/-- The path of a child. -/
def childPath (parent name : String) : String :=
  if parent = "" then name else parent ++ "/" ++ name

/-- What is found in a name, and the names seen in its list with it. Names that may
differ from round to round are not compared. -/
def nameFindings (c : Context) (raw path : String) (seen : List String) :
    List Finding × List String :=
  let unset := undefinedIn c path raw
  match c.resolved? raw with
  | none => (unset, seen)
  | some name =>
    match Name.check name with
    | .error v => (unset ++ [error .invalidName v.message path], seen)
    | .ok _ =>
      if !c.bound.isEmpty && raw.toList.contains '%' then (unset, seen)
      else if seen.contains name then
        (unset ++ [error .duplicateName
          s!"'{name}' appears more than once in the same folder" path], seen)
      else (unset, name :: seen)

/-- What is found in a template. -/
def templateFindings (c : Context) (path content : String) : List Finding :=
  (match renderTemplate ⟨c.today, fun _ => none⟩ content with
    | .ok _ => []
    | .error e => [warning .templateSyntax
        s!"{e.message}; the file will be written without template processing" path])
    ++ undefinedAmong c path (templateVariables content)

/-- What is found in the source of a file. -/
def sourceFindings (c : Context) (f : FileNode) (path : String) : List Finding :=
  match f.source with
  | .url raw =>
    match (c.resolved? raw).map Url.guard with
    | some (.error v) => [error .invalidUrl v.message path]
    | _ => []
  | .generated kind _ =>
    let ext := (splitLast '.' f.name.toList).map fun (_, ext) => String.ofList (asciiLower ext)
    if ext.any kind.extensions.contains then []
    else
      let expected := ", .".intercalate kind.extensions
      [warning .generatorExtension
        s!"The {kind.name} generator writes {kind.noun} files; expected one of: .{expected}" path]
  | .inline _ => []

/-- What is found in a file besides its name. -/
def fileFindings (c : Context) (f : FileNode) (path : String) : List Finding :=
  let sources := [f.url.isSome, f.generate.isSome, f.content.isSome].count true
  ([f.content, f.url, f.generateConfig].filterMap id).flatMap (undefinedIn c path)
    ++ (if f.isTemplate then (f.content.map (templateFindings c path)).getD [] else [])
    ++ (if 1 < sources then [warning .conflictingSources
        "File has several content sources; url wins over generate, which wins over content" path]
      else [])
    ++ sourceFindings c f path

/-- What is found in the head of a repetition. -/
def loopFindings (c : Context) (count item path : String) : List Finding :=
  undefinedIn c path count
    ++ (match checkLoopVariable (String.ofList (trim item.toList)) with
      | .ok _ => []
      | .error v => [error .invalidLoopVariable v.message path])
    ++ (match (c.resolved? count).map fun text => RepeatCount.read text c.limits.maxRepeat with
      | none | some (.times _) => []
      | some (.invalid text) => [warning .invalidRepeatCount
          s!"Repeat count '{text}' is not a non-negative integer" path]
      | some (.tooLarge n limit) => [error .invalidRepeatCount
          (Violation.repeatLimitExceeded n limit).message path])

/-- What is found in a node, its children aside, and the names seen in its list with
it. -/
def ownFindings (c : Context) (node : Node) (path : String) (seen : List String)
    (afterIf : Bool) : List Finding × List String :=
  match node with
  | .folder name _ _ => nameFindings c name path seen
  | .file f =>
    let (found, seen) := nameFindings c f.name path seen
    (found ++ fileFindings c f path, seen)
  | .branch condition _ => (undefinedIn c path s!"%{bareName condition}%", seen)
  | .otherwise _ =>
    (if afterIf then [] else [warning .orphanedElse
      "Else block does not directly follow an if block and will be skipped" path], seen)
  | .loop count item _ => (loopFindings c count item path, seen)

/-- What is found in a list that nests too deep. -/
def depthFinding (c : Context) (parent : String) : Finding :=
  error .depthExceeded s!"Schema nests deeper than {c.limits.maxDepth} levels" parent

/-- Whether a node is a condition. -/
def isBranch : Node → Bool
  | .branch .. => true
  | _ => false

mutual

/-- What is found below a node whose children are at a depth. -/
def childFindings (c : Context) (node : Node) (parent : String) (depth : Nat) : List Finding :=
  match node with
  | .folder name children _ =>
    let path := childPath parent name
    if c.limits.maxDepth < depth then [depthFinding c path]
    else listFindings c children path depth [] false
  | .file _ => if c.limits.maxDepth < depth then [depthFinding c parent] else []
  | .branch _ children =>
    if c.limits.maxDepth < depth then [depthFinding c parent]
    else listFindings c children parent depth [] false
  | .otherwise children =>
    if c.limits.maxDepth < depth then [depthFinding c parent]
    else listFindings c children parent depth [] false
  | .loop count item children =>
    let path := childPath parent s!"[repeat {count} as {item}]"
    if c.limits.maxDepth < depth then [depthFinding c path]
    else listFindings (c.inLoop item) children path depth [] false

/-- What is found in siblings at a depth, and below them. -/
def listFindings (c : Context) (nodes : List Node) (parent : String) (depth : Nat)
    (seen : List String) (afterIf : Bool) : List Finding :=
  match nodes with
  | [] => []
  | node :: rest =>
    let (found, seen) := ownFindings c node (childPath parent (label node)) seen afterIf
    found ++ childFindings c node parent (depth + 1)
      ++ listFindings c rest parent depth seen (isBranch node)

end

/-- What is found in a schema. -/
def findings (c : Context) (schema : Schema) : List Finding :=
  listFindings c [schema.root] "" 0 [] false
    ++ schema.commands.flatMap (undefinedIn c "[hooks]")

/-- The variables that are not set, ascending, each with its first path. -/
def undefinedVariables (found : List Finding) : Dictionary String String :=
  found.foldl (fun d f =>
    match f with
    | .undefined name path => if d.contains name then d else d.insert name path
    | _ => d) ∅

/-- The errors among findings. -/
def errorsOf (found : List Finding) : List Issue :=
  found.filterMap fun
    | .error i => some i
    | _ => none

/-- The warnings among findings, variables that are not set aside. -/
def warningsOf (found : List Finding) : List Issue :=
  found.filterMap fun
    | .warning i => some i
    | _ => none

/-- The report of findings. -/
def report (found : List Finding) : CheckReport :=
  { errors := errorsOf found
    warnings := warningsOf found ++ (undefinedVariables found).entries.map fun (name, path) =>
      issue .undefinedVariable s!"Variable %{name}% is used but never defined" path }

end Check

/-- What is wrong with a schema when the given variables are set. -/
def check (limits : Limits) (today : Date) (given : Scope) (schema : Schema) : CheckReport :=
  Check.report (Check.findings { limits, today, given } schema)

end Scaffold

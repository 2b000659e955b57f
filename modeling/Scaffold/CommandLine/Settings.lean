/-
Settings, and the layers that they are put together from.

* `Settings` holds the limits of runs, how output is shown, and defaults for flags;
* a `Layer` is a document of settings with its origin. Later layers go over earlier
  ones, part by part (`overlay`);
* `Layer.ofVariables` are the layers that environment variables make. Two underscores
  part the names of a section and of a setting;
* `Settings.ofLayers` reads settings, and a `Mismatch` is a value of the wrong kind;
* `Settings.get?` looks up a setting by its dotted name, and `Settings.document` is
  the document that gives the settings.
-/
import Scaffold.Condition
import Scaffold.Decimal.Reader
import Scaffold.Decimal.Shortest
import Scaffold.Dictionary
import Scaffold.Document.Limits
import Scaffold.Json.Printer
import Scaffold.Text.Case
import Scaffold.Text.Literal
import Scaffold.Toml.Printer
import Scaffold.Toml.Reader

namespace Scaffold.CommandLine

open Json Text

/-- How output is shown where no switch says so. -/
structure OutputSettings where
  noColor : Bool := false
  format : String := "auto"
  deriving Repr, DecidableEq, Inhabited

/-- What holds where no switch says so. -/
structure Defaults where
  overwrite : Bool := false
  runHooks : Bool := true
  projectName : Option String := none
  deriving Repr, DecidableEq, Inhabited

/-- All settings. -/
structure Settings where
  limits : Limits := {}
  output : OutputSettings := {}
  defaults : Defaults := {}
  deriving Repr, DecidableEq, Inhabited

/-! ### Layers -/

/-- Members with the value of one name set. -/
def placeMember (name : String) (v : Value) : List (String × Value) → List (String × Value)
  | [] => [(name, v)]
  | (k, w) :: rest => if k = name then (k, v) :: rest else (k, w) :: placeMember name v rest

mutual

/-- A value with another over it: objects member by member, anything else as a
whole. -/
def overlay (lower upper : Value) : Value :=
  match upper with
  | .object members => .object (overlayMembers (lower.object?.getD []) members)
  | v => v

/-- Members with others over them. -/
def overlayMembers (lower : List (String × Value)) : List (String × Value) →
    List (String × Value)
  | [] => lower
  | (name, v) :: rest =>
    overlayMembers (placeMember name (overlay ((Value.find? name lower).getD .null) v) lower) rest

end

/-- A document of settings, and where it comes from. -/
structure Layer where
  origin : String
  value : Value

/-- Whether a character may stand in a part of a dotted name. -/
def isNameChar (c : Char) : Bool :=
  c.isAlphanum || c = '_' || c = '-'

/-- The parts of a dotted name; any other name has one. -/
def nameParts (name : String) : List String :=
  let parts := splitOn '.' name.toList
  if parts.all fun p => !p.isEmpty && p.all isNameChar then parts.map String.ofList else [name]

/-- A value inside of nested objects. -/
def nested (parts : List String) (v : Value) : Value :=
  parts.foldr (fun part v => .object [(part, v)]) v

/-- The layer of a document, whose outermost names may be dotted. -/
def Layer.ofMembers (origin : String) (members : List (String × Value)) : Layer where
  origin := origin
  value := members.foldl (fun v m => overlay v (nested (nameParts m.1) m.2)) (.object [])

mutual

/-- A value of a document, in which a date counts as its text. -/
def plainValue : Value → Value
  | .array items => .array (plainItems items)
  | .object members =>
    match members with
    | [(name, .text s)] =>
      if name = Toml.dateTimeName then .text s else .object [(name, .text s)]
    | members => .object (plainMembers members)
  | v => v

/-- Values of a document. -/
def plainItems : List Value → List Value
  | [] => []
  | v :: rest => plainValue v :: plainItems rest

/-- Members of a document. -/
def plainMembers : List (String × Value) → List (String × Value)
  | [] => []
  | (name, v) :: rest => (name, plainValue v) :: plainMembers rest

end

/-- The layer of a TOML document. -/
def Layer.ofDocument? (origin text : String) : Option Layer :=
  (Toml.read? text).map fun v =>
    Layer.ofMembers origin (((plainValue v).object?).getD [])

/-- The value that the text of a variable stands for. -/
def variableValue (text : String) : Value :=
  let cs := text.toList
  let word := String.ofList (lower cs)
  if word = "true" then .bool true
  else if word = "false" then .bool false
  else
    match (signed? cs).filter fun i => -(maxSigned : Int) - 1 ≤ i ∧ i ≤ maxSigned with
    | some i => .integer i
    | none =>
      match Decimal.read? cs with
      | some x => .float x
      | none => .text text

/-- What the names of variables that are settings start with, in small letters. -/
def variableStart : List Char := "trellis_".toList

/-- The dotted name of the setting that a variable sets. -/
def settingName? (name : String) : Option String :=
  (after? variableStart (lower name.toList)).map fun rest =>
    String.ofList (replaceAll '_' ['_'] ['.'] rest)

/-- The layers of environment variables, by the names of their settings. -/
def Layer.ofVariables (environment : List (String × String)) : List Layer :=
  let named := environment.filterMap fun (name, text) =>
    (settingName? name).map fun setting => (setting, variableValue text)
  (Dictionary.ofList named).entries.map fun m => Layer.ofMembers "the environment" [m]

/-- The value at the end of a row of names. -/
def valueAt? (v : Value) : List String → Option Value
  | [] => some v
  | part :: rest => (v.member? part).bind fun v => valueAt? v rest

/-! ### Kinds of values -/

/-- A value of the wrong kind. -/
structure Mismatch where
  found : String
  expected : String
  deriving Repr, DecidableEq

/-- What kind of value was found. -/
def foundText : Value → String
  | .null => "unit value"
  | .bool b => s!"boolean `{b}`"
  | .natural n => s!"64-bit integer `{n}`"
  | .integer i => s!"64-bit integer `{i}`"
  | .float x => s!"floating point `{String.ofList (Decimal.positional x)}`"
  | .text s => s!"string {String.ofList (literal s.toList)}"
  | .array _ => "sequence"
  | .object _ => "map"

/-- A refused value. -/
def refuse {α : Type} (v : Value) (expected : String) : Except Mismatch α :=
  .error ⟨foundText v, expected⟩

/-- The number of eight bytes that is nearest to a number. -/
def wholeNumber (x : Float) : Nat :=
  x.round.toUInt64.toNat

/-- A size: a number, or what can stand for one. -/
def readSize (v : Value) : Except Mismatch Nat :=
  match v with
  | .bool b => .ok b.toNat
  | .natural n => .ok n
  | .integer i => if 0 ≤ i then .ok i.toNat else refuse v "an unsigned 64 bit or less integer"
  | .float x => .ok (wholeNumber x)
  | .text s =>
    let word := String.ofList (lower s.toList)
    if ["true", "on", "yes"].contains word then .ok 1
    else if ["false", "off", "no"].contains word then .ok 0
    else
      match (unsigned? s.toList).filter (· ≤ maxUnsigned) with
      | some n => .ok n
      | none => refuse v "an integer"
  | _ => refuse v "an integer"

/-- A truth value, or what can stand for one. -/
def readFlag (v : Value) : Except Mismatch Bool :=
  match v with
  | .bool b => .ok b
  | .natural n => .ok (n != 0)
  | .integer i => .ok (i != 0)
  | .float x => .ok (x != 0)
  | .text s =>
    let word := String.ofList (lower s.toList)
    if ["1", "true", "on", "yes"].contains word then .ok true
    else if ["0", "false", "off", "no"].contains word then .ok false
    else refuse (.text word) "a boolean"
  | _ => refuse v "a boolean"

/-- A text, or what can stand for one. -/
def readText (v : Value) : Except Mismatch String :=
  match v with
  | .bool b => .ok (if b then "true" else "false")
  | .natural n => .ok (String.ofList (digits n))
  | .integer i => .ok (String.ofList (integerDigits i))
  | .float x => .ok (String.ofList (Decimal.positional x))
  | .text s => .ok s
  | _ => refuse v "a string"

/-! ### Sections -/

/-- A setting: how it is read, and its value. -/
structure Setting where
  name : String
  read : Value → Except Mismatch (Settings → Settings)
  value : Settings → Value

/-- A section of settings. -/
structure Section where
  name : String
  title : String
  settings : List Setting

/-- The settings of the limits. -/
def limitSettings : List Setting :=
  Limits.entries.map fun e =>
    ⟨e.name, fun v => (readSize v).map fun n s => { s with limits := e.set n s.limits },
      fun s => .natural (e.get s.limits)⟩

/-- All sections in order. -/
def sections : List Section :=
  [⟨"engine", "struct EngineLimits", limitSettings⟩,
   ⟨"output", "struct OutputConfig",
    [⟨"no_color",
        fun v => (readFlag v).map fun b s => { s with output := { s.output with noColor := b } },
        fun s => .bool s.output.noColor⟩,
     ⟨"format",
        fun v => (readText v).map fun t s => { s with output := { s.output with format := t } },
        fun s => .text s.output.format⟩]⟩,
   ⟨"defaults", "struct Defaults",
    [⟨"overwrite",
        fun v => (readFlag v).map fun b s =>
          { s with defaults := { s.defaults with overwrite := b } },
        fun s => .bool s.defaults.overwrite⟩,
     ⟨"run_hooks",
        fun v => (readFlag v).map fun b s =>
          { s with defaults := { s.defaults with runHooks := b } },
        fun s => .bool s.defaults.runHooks⟩,
     ⟨"project_name",
        fun v => (readText v).map fun t s =>
          { s with defaults := { s.defaults with projectName := some t } },
        fun s => (s.defaults.projectName.map Value.text).getD .null⟩]⟩]

/-- The name of the variable of each setting. -/
def variableNames : List String :=
  sections.flatMap fun part =>
    part.settings.map fun s => s!"TRELLIS_{part.name.toUpper}__{s.name.toUpper}"

/-- The text of a mismatch, with the name and the origin of the setting. -/
def mismatchText (m : Mismatch) (key : String) (origin : Option String) : String :=
  s!"invalid type: {m.found}, expected {m.expected} for key `{key}`"
    ++ ((origin.map fun o => " in " ++ o).getD "")

/-- The origin of the value at the end of a row of names: the last layer that has it. -/
def originOf? (layers : List Layer) (names : List String) : Option String :=
  (layers.reverse.find? fun l => (valueAt? l.value names).isSome).map Layer.origin

/-- Reads one setting. -/
def Setting.apply (setting : Setting) (layers : List Layer) (names : List String) (key : String)
    (v : Value) (s : Settings) : Except String Settings :=
  match setting.read v with
  | .ok change => .ok (change s)
  | .error m => .error (mismatchText m key (originOf? layers names))

/-- The kind of a value where a section should be. -/
def sectionText : Value → String
  | .natural n => s!"integer `{n}`"
  | .integer i => s!"integer `{i}`"
  | .text s => s!"string {String.ofList (literal s.toList)}"
  | v => foundText v

/-- Reads a section: its settings by name, or the first ones in order. -/
def Section.apply (part : Section) (layers : List Layer) (v : Value) (s : Settings) :
    Except String Settings :=
  match v with
  | .object members =>
    part.settings.foldlM (fun s setting =>
      match Value.find? setting.name members with
      | some v =>
        setting.apply layers [part.name, setting.name] s!"{part.name}.{setting.name}" v s
      | none => .ok s) s
  | .array items =>
    (part.settings.zip items).zipIdx.foldlM (fun s ((setting, v), index) =>
      setting.apply layers [part.name] s!"{part.name}[{index}]" v s) s
  | v => .error (mismatchText ⟨sectionText v, part.title⟩ part.name none)

namespace Settings

/-- The settings of some layers, later ones over earlier ones. -/
def ofLayers (layers : List Layer) : Except String Settings :=
  let whole := layers.foldl (fun v l => overlay v l.value) (.object [])
  sections.foldlM (fun s part =>
    match whole.member? part.name with
    | some v => part.apply layers v s
    | none => .ok s) {}

/-- The value of the settings. -/
def toValue (s : Settings) : Value :=
  .object (sections.map fun part =>
    (part.name, .object (part.settings.map fun setting => (setting.name, setting.value s))))

/-- The text of a setting by its dotted name. What is not set has an empty text, and a
section is shown as a whole. -/
def get? (s : Settings) (key : String) : Option String :=
  (valueAt? s.toValue ((splitOn '.' key.toList).map String.ofList)).map fun v =>
    match v with
    | .text t => t
    | .null => ""
    | v => v.compact

/-- The text of a setting in a document. -/
def settingText : Value → String
  | .text t => String.ofList (Toml.quoted t.toList)
  | v => v.compact

/-- The lines of a section in a document. What is not set is left out. -/
def sectionLines (s : Settings) (part : Section) : List String :=
  s!"[{part.name}]" :: part.settings.filterMap fun setting =>
    match setting.value s with
    | .null => none
    | v => some s!"{setting.name} = {settingText v}"

/-- The document that gives the settings. -/
def document (s : Settings) : String :=
  "\n\n".intercalate (sections.map fun part => "\n".intercalate (s.sectionLines part))

end Settings

end Scaffold.CommandLine

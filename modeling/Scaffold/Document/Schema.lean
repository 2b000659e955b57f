/-
Schemas as documents.

A document holds a schema, or only its root node. A node is an object whose member
`type` is the name of its kind.
* `Node.toValue` and `Schema.toValue` give the value of a schema;
* `Node.ofValue?` and `Schema.ofValue?` read it back;
* `readSchema` reads a text in either format.
-/
import Scaffold.Document.Format
import Scaffold.Json.Printer
import Scaffold.Schema

namespace Scaffold

open Json Document

/-! ### Writing -/

/-- Attributes, left out when there are none. -/
def attributeMembers (attributes : Dictionary String String) : List (String × Value) :=
  if attributes.isEmpty then [] else [("attributes", Value.ofTexts attributes.entries)]

/-- The members of a file. -/
def FileNode.members (f : FileNode) : List (String × Value) :=
  ("name", .text f.name)
    :: Value.optional "content" (f.content.map .text)
    ++ Value.optional "url" (f.url.map .text)
    ++ Value.optional "generate" (f.generate.map fun kind => .text kind.name)
    ++ Value.optional "generate_config" (f.generateConfig.map .text)
    ++ Value.optional "template" (f.template.map .bool)
    ++ attributeMembers f.attributes

mutual

/-- The value of a node. -/
def Node.toValue : Node → Value
  | .folder name children attributes =>
    .object <| ("type", .text NodeKind.folder.name) :: ("name", .text name)
      :: ("children", .array (Node.listToValues children)) :: attributeMembers attributes
  | .file f => .object (("type", .text NodeKind.file.name) :: f.members)
  | .branch condition children =>
    .object [("type", .text NodeKind.branch.name), ("condition_var", .text condition),
      ("children", .array (Node.listToValues children))]
  | .otherwise children =>
    .object [("type", .text NodeKind.otherwise.name),
      ("children", .array (Node.listToValues children))]
  | .loop count item children =>
    .object [("type", .text NodeKind.loop.name), ("repeat_count", .text count),
      ("repeat_as", .text item), ("children", .array (Node.listToValues children))]

/-- The values of nodes. -/
def Node.listToValues : List Node → List Value
  | [] => []
  | node :: rest => node.toValue :: Node.listToValues rest

end

/-- The value of a schema. -/
def Schema.toValue (s : Schema) : Value :=
  .object <| ("root", s.root.toValue) :: Value.optional "hooks" (s.hooks.map fun commands =>
    .object [("post_create", .array (commands.map .text))])

/-! ### Reading -/

/-- All kinds of nodes, in the order of their numbers. -/
def NodeKind.all : List NodeKind :=
  [.folder, .file, .branch, .otherwise, .loop]

/-- The kind of a node, by its name or its number. -/
def NodeKind.ofValue? : Value → Option NodeKind
  | .text s => NodeKind.all.find? fun kind => kind.name == s
  | .natural n => NodeKind.all[n]?
  | _ => none

/-- A kind of generator, by its name, also as the name of the only member of an
object. -/
def GeneratorKind.ofValue? : Value → Option GeneratorKind
  | .text s => [.image, .sqlite].find? fun kind => GeneratorKind.name kind == s
  | .object [(s, .null)] | .object [(s, .object [])] =>
    [.image, .sqlite].find? fun kind => GeneratorKind.name kind == s
  | _ => none

/-- The kind of a node, and its other parts. -/
def splitKind? : Value → Option (NodeKind × Value)
  | .object members =>
    match members.filter fun m => m.1 == "type" with
    | [m] => (NodeKind.ofValue? m.2).map fun kind =>
      (kind, .object (members.filter fun m => m.1 != "type"))
    | _ => none
  | .array (tag :: rest) => (NodeKind.ofValue? tag).map fun kind => (kind, .array rest)
  | _ => none

/-- Attributes. -/
def attributes? (part : Option Value) : Option (Dictionary String String) :=
  orDefault ∅ (tableOf Value.text?) part

/-- A file from its parts. -/
def FileNode.ofParts? (v : Value) : Option FileNode := do
  match ← parts? [["name"], ["content"], ["url"], ["generate"],
      ["generate_config", "generateConfig"], ["template"], ["attributes"]] v with
  | [name, content, url, generate, config, template, attributes] =>
    some {
      name := ← (← name).text?
      content := ← orNull Value.text? content
      url := ← orNull Value.text? url
      generate := ← orNull GeneratorKind.ofValue? generate
      generateConfig := ← orNull Value.text? config
      template := ← orNull Value.bool? template
      attributes := ← attributes? attributes
    }
  | _ => none

/-- The default name of the variable of a loop. -/
def defaultItem : String := "i"

/-- A node that nests less deep than `depth`. -/
def Node.ofValueWithin : Nat → Value → Option Node
  | 0, _ => none
  | depth + 1, v => do
    let children := orDefault [] (listOf (Node.ofValueWithin depth))
    let (kind, body) ← splitKind? v
    match kind with
    | .file => return .file (← FileNode.ofParts? body)
    | .folder =>
      match ← parts? [["name"], ["children"], ["attributes"]] body with
      | [name, nodes, attributes] =>
        return .folder (← (← name).text?) (← children nodes) (← attributes? attributes)
      | _ => none
    | .branch =>
      match ← parts? [["condition_var"], ["children"]] body with
      | [condition, nodes] => return .branch (← (← condition).text?) (← children nodes)
      | _ => none
    | .otherwise =>
      match ← parts? [["children"]] body with
      | [nodes] => return .otherwise (← children nodes)
      | _ => none
    | .loop =>
      match ← parts? [["repeat_count"], ["repeat_as"], ["children"]] body with
      | [count, item, nodes] =>
        return .loop (← (← count).text?) (← orDefault defaultItem Value.text? item)
          (← children nodes)
      | _ => none

mutual

/-- How many arrays and objects are nested in a value. -/
def Json.Value.depth : Value → Nat
  | .array items => Json.Value.listDepth items + 1
  | .object members => Json.Value.memberDepth members + 1
  | _ => 0

/-- The depth of the deepest of some values. -/
def Json.Value.listDepth : List Value → Nat
  | [] => 0
  | v :: rest => max v.depth (Json.Value.listDepth rest)

/-- The depth of the deepest of some members. -/
def Json.Value.memberDepth : List (String × Value) → Nat
  | [] => 0
  | (_, v) :: rest => max v.depth (Json.Value.memberDepth rest)

end

/-- The node of a value. -/
def Node.ofValue? (v : Value) : Option Node :=
  Node.ofValueWithin v.depth v

/-- The commands of a schema. -/
def commands? (v : Value) : Option (List String) := do
  match ← parts? [["post_create"]] v with
  | [commands] => orDefault [] (listOf Value.text?) commands
  | _ => none

/-- A schema with its root and commands. -/
def Schema.ofParts? (v : Value) : Option Schema := do
  match ← parts? [["root"], ["hooks"]] v with
  | [root, hooks] => return ⟨← Node.ofValue? (← root), ← orNull commands? hooks⟩
  | _ => none

/-- The schema of a value, which may be only its root. -/
def Schema.ofValue? (v : Value) : Option Schema :=
  (Schema.ofParts? v).or ((Node.ofValue? v).map fun root => ⟨root, none⟩)

/-- Reads a schema. -/
def readSchema (format : Format) (text : String) : Except Document.Fault Schema :=
  match format with
  | .toml => readToml Schema.ofValue? text
  | .json => readJson (do
      let v ← Json.Reader.value
      match Schema.ofValue? v with
      | some s => return s
      | none => Json.Reader.failUnplaced (.noAlternative "SchemaDocument")) text

end Scaffold

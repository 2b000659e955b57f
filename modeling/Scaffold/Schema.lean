/-
Schemas: what is to be created.

* A `Node` is a folder, a file, or one of three groups: a condition, the
  alternative of a condition, or a repetition;
* a `FileNode` takes its bytes from one `Source`;
* a `Schema` is a root node, and commands that run after it was created.
-/
import Scaffold.Dictionary
import Scaffold.Substitution
import Scaffold.Template

namespace Scaffold

open Variable

/-- What makes the bytes of a file that is generated. -/
inductive GeneratorKind where
  | image
  | sqlite
  deriving Repr, DecidableEq

namespace GeneratorKind

/-- The name of a kind of generator. -/
def name : GeneratorKind → String
  | image => "image"
  | sqlite => "sqlite"

/-- What a kind of generator makes. -/
def noun : GeneratorKind → String
  | image => "image"
  | sqlite => "database"

/-- The extensions of the files that a kind of generator makes. -/
def extensions : GeneratorKind → List String
  | image => ["png", "jpg", "jpeg"]
  | sqlite => ["db", "sqlite", "sqlite3"]

end GeneratorKind

/-- Where the bytes of a file come from. -/
inductive Source where
  | url (text : String)
  | generated (kind : GeneratorKind) (config : Option String)
  | inline (content : Option String)
  deriving Repr, DecidableEq

/-- A file of a schema. -/
structure FileNode where
  name : String
  content : Option String := none
  url : Option String := none
  generate : Option GeneratorKind := none
  generateConfig : Option String := none
  template : Option Bool := none
  attributes : Dictionary String String := ∅
  deriving Repr, DecidableEq, Inhabited

namespace FileNode

/-- Whether the content has block directives. -/
def isTemplate (f : FileNode) : Bool :=
  f.template = some true

/-- The source of a file: an address goes before a generator, and a generator
before the content. -/
def source (f : FileNode) : Source :=
  match f.url, f.generate with
  | some text, _ => .url text
  | none, some kind => .generated kind f.generateConfig
  | none, none => .inline f.content

end FileNode

/-- A part of a schema. -/
inductive Node where
  | folder (name : String) (children : List Node) (attributes : Dictionary String String)
  | file (f : FileNode)
  /-- Children that are created if a variable is set. -/
  | branch (condition : String) (children : List Node)
  /-- Children that are created if the condition in front does not hold. -/
  | otherwise (children : List Node)
  /-- Children that are created once for each number below a count. -/
  | loop (count item : String) (children : List Node)
  deriving Inhabited

/-- The kinds of nodes. -/
inductive NodeKind where
  | folder
  | file
  | branch
  | otherwise
  | loop
  deriving Repr, DecidableEq

/-- The name of a kind of node. -/
def NodeKind.name : NodeKind → String
  | folder => "folder"
  | file => "file"
  | branch => "if"
  | otherwise => "else"
  | loop => "repeat"

namespace Node

/-- The kind of a node. -/
def kind : Node → NodeKind
  | folder .. => .folder
  | file _ => .file
  | branch .. => .branch
  | otherwise _ => .otherwise
  | loop .. => .loop

/-- The children of a node; a file has none. -/
def children : Node → List Node
  | folder _ children _ => children
  | file _ => []
  | branch _ children => children
  | otherwise children => children
  | loop _ _ children => children

end Node

/-- What is created, and the commands that run afterwards, if any are given. -/
structure Schema where
  root : Node
  hooks : Option (List String) := none
  deriving Inhabited

/-- The commands that run after a schema was created. -/
def Schema.commands (s : Schema) : List String :=
  s.hooks.getD []

/-! ### References -/

/-- The variables that the texts of a file refer to. -/
def FileNode.references (f : FileNode) : List String :=
  referenced f.name ++ ([f.content, f.url, f.generateConfig].flatMap fun t =>
      (t.map referenced).getD [])
    ++ (if f.isTemplate then (f.content.map templateVariables).getD [] else [])

mutual

/-- The variables that a node refers to. -/
def Node.references : Node → List String
  | .folder name children _ => referenced name ++ Node.listReferences children
  | .file f => f.references
  | .branch condition children =>
    bareName condition :: Node.listReferences children
  | .otherwise children => Node.listReferences children
  | .loop count _ children => referenced count ++ Node.listReferences children

/-- The variables that nodes refer to. -/
def Node.listReferences : List Node → List String
  | [] => []
  | node :: rest => node.references ++ Node.listReferences rest

end

/-- The variables that a schema refers to, ascending. -/
def Schema.references (s : Schema) : List String :=
  distinctSorted (s.root.references ++ s.commands.flatMap referenced)

end Scaffold

/-
Files that are generated: images and databases.

* A `Request` names a kind of generator and its settings;
* `Request.bytes` is what the generator makes of it.
-/
import Scaffold.Database.File
import Scaffold.Error
import Scaffold.Image.Jpeg
import Scaffold.Image.Png
import Scaffold.Schema

namespace Scaffold

/-- What a file is generated from. -/
structure Request where
  kind : GeneratorKind
  fileName : String
  config : Option String
  content : Option String
  deriving Repr, DecidableEq

/-- An image by its plan. -/
def Image.Plan.encode (p : Image.Plan) : ByteArray :=
  match p.encoding with
  | .png => Png.encode p.width p.height p.color
  | .jpeg => Jpeg.encode p.width p.height p.color

namespace Database

open Text

/-- Why a database cannot be made. -/
inductive Fault where
  | tableExists (name statements : List Char)
  | reservedName (name : List Char)
  | columnExists (name : List Char)
  | keyExists (table : List Char)
  | unknownStatement (statement : List Char)
  deriving Repr, DecidableEq

/-- The text of a fault. A table that exists is reported with the statements that
are left and the place of its name in them. -/
def Fault.message : Fault → String
  | tableExists name statements => s!"table {String.ofList (quotedName name)} already exists in \n{String.ofList statements} at offset 14"
  | reservedName name => s!"object name reserved for internal use: {String.ofList name}"
  | columnExists name => s!"duplicate column name: {String.ofList name}"
  | keyExists table => s!"table \"{String.ofList table}\" has more than one primary key"
  | unknownStatement statement => s!"cannot run {String.ofList statement}"

/-- The first fault of the columns of a table, after those that were accepted. -/
def columnFault? (table : List Char) (before : List Column) : List Column → Option Fault
  | [] => none
  | c :: rest =>
    if before.any fun b => eqIgnoringCase b.name c.name then some (.columnExists c.name)
    else if c.isKey && before.any Column.isKey then some (.keyExists table)
    else columnFault? table (before ++ [c]) rest

/-- The first fault of tables, after those that were created. `others` are the
statements that follow them. -/
def tableFault? (others : List Char) (before : List Table) : List Table → Option Fault
  | [] => none
  | t :: rest =>
    if before.any fun b => eqIgnoringCase b.name t.name then
      some (.tableExists t.name
        ((t :: rest).flatMap (fun t => t.statement ++ ";\n".toList) ++ others))
    else if (after? "sqlite_".toList (asciiLower t.name)).isSome then some (.reservedName t.name)
    else (columnFault? t.name [] t.columns).or (tableFault? others (before ++ [t]) rest)

/-- The file of the tables that settings describe. Nothing else can be run. -/
def build (config content : Option String) : Except Fault ByteArray :=
  let created := (config.map fun c => tables c.toList).getD []
  let raw := (rawStatements config content).filter (!·.isEmpty)
  match tableFault? (raw.flatMap (· ++ ['\n'])) [] created, raw with
  | some fault, _ => .error fault
  | none, statement :: _ => .error (.unknownStatement statement)
  | none, [] => .ok (if created.isEmpty then .empty else write (entriesOf created))

end Database

/-- The bytes that a request asks for. -/
def Request.bytes (r : Request) : Except Failure ByteArray :=
  match r.kind with
  | .image =>
    .ok (Image.Plan.ofTexts r.fileName (r.config.toList ++ r.content.toList)).encode
  | .sqlite =>
    (Database.build r.config r.content).mapError fun fault =>
      .generator r.kind.name ("SQL execution failed: " ++ fault.message)

end Scaffold

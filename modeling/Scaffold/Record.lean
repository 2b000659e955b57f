/-
Records: what a run created.

A `CreatedItem` is a folder or a file at a path, and whether it was there before.
* `Record.write` gives the text of a list of items;
* `Record.read` reads it back.
-/
import Scaffold.Document.Format
import Scaffold.Json.Printer
import Scaffold.Json.Typed

namespace Scaffold

open Json

/-- A folder or a file. -/
inductive ItemKind where
  | folder
  | file
  deriving Repr, DecidableEq

/-- The name of a kind of item. -/
def ItemKind.name : ItemKind → String
  | folder => "folder"
  | file => "file"

/-- Something that a run wrote. -/
structure CreatedItem where
  path : String
  kind : ItemKind
  preExisted : Bool
  deriving Repr, DecidableEq

namespace CreatedItem

/-- The value of an item. -/
def toValue (i : CreatedItem) : Value :=
  .object [("path", .text i.path), ("item_type", .text i.kind.name),
    ("pre_existed", .bool i.preExisted)]

/-- An item while its parts are read. -/
structure Draft where
  path : Option String := none
  kind : Option ItemKind := none
  preExisted : Option Bool := none

/-- Reads a path. -/
def readPath : Reader String :=
  Reader.textOf "path string"

/-- Reads the kind of an item. -/
def readKind : Reader ItemKind :=
  Reader.choice [(ItemKind.folder.name, .folder), (ItemKind.file.name, .file)]

/-- Reads a part of an item. -/
def readPart (name : String) (d : Draft) : Reader Draft := do
  match name with
  | "path" => return { d with path := ← Reader.part "path" d.path readPath }
  | "item_type" => return { d with kind := ← Reader.part "item_type" d.kind readKind }
  | "pre_existed" =>
    return { d with preExisted := ← Reader.part "pre_existed" d.preExisted Reader.boolean }
  | _ =>
    Reader.unknownPart
    return d

/-- The item of a draft, all of whose parts are needed. -/
def Draft.finish (d : Draft) : Reader CreatedItem := do
  return ⟨← Reader.needed "path" d.path, ← Reader.needed "item_type" d.kind,
    ← Reader.needed "pre_existed" d.preExisted⟩

/-- Reads the parts of an item in order. -/
def readInOrder : Reader CreatedItem := do
  let expected := "struct CreatedItem with 3 elements"
  return ⟨← Reader.neededPart expected 0 readPath, ← Reader.neededPart expected 1 readKind,
    ← Reader.neededPart expected 2 Reader.boolean⟩

/-- Reads an item. -/
def reader : Reader CreatedItem :=
  Reader.record "struct CreatedItem" {} readPart Draft.finish readInOrder

end CreatedItem

namespace Record

/-- The text of a list of items. -/
def write (items : List CreatedItem) : String :=
  (Value.array (items.map CreatedItem.toValue)).pretty

/-- The items of a text. -/
def read (text : String) : Except Document.Fault (List CreatedItem) :=
  Document.readJson (Reader.list CreatedItem.reader) text

end Record

end Scaffold

/-
Database files without rows, in the third format of SQLite.

* `Entry` is a row of the catalogue: a table, or an index that a constraint asks
  for;
* `entriesOf` lists the entries of tables in the order in which they are created;
* `write` lays out a file: the tree of the catalogue from the first page on, an
  empty page for each entry, and the pages that the catalogue needs besides.
-/
import Scaffold.Bytes
import Scaffold.Database

namespace Scaffold.Database

open Text

/-- A row of the catalogue. An index that a constraint asks for has no statement. -/
structure Entry where
  kind : String
  name : String
  table : String
  statement : Option String
  deriving Repr, DecidableEq

/-! ### The catalogue -/

/-- Whether the column is the number of its row. -/
def Column.isRowNumber (c : Column) : Bool :=
  c.isKey && eqIgnoringCase c.type "INTEGER".toList

/-- Whether the column needs an index. -/
def Column.isIndexed (c : Column) : Bool :=
  c.isUnique || (c.isKey && !c.isRowNumber)

/-- The entries of a table: itself, then its indexes, numbered from one. -/
def Table.entries (t : Table) : List Entry :=
  let name := String.ofList t.name
  let indexes := (t.columns.filter Column.isIndexed).length
  ⟨"table", name, name, some (String.ofList t.statement)⟩
    :: (List.range indexes).map fun i =>
      ⟨"index", s!"sqlite_autoindex_{name}_{i + 1}", name, none⟩

/-- The entries of tables. -/
def entriesOf (tables : List Table) : List Entry :=
  tables.flatMap Table.entries

/-! ### Records -/

/-- What a page holds. -/
def pageSize : Nat := 4096

/-- The digits of a number to the base 128, all but the last one marked. -/
def varintDigits (n : Nat) (mark : Nat) : List UInt8 :=
  if n < 128 then [UInt8.ofNat (n + mark)]
  else varintDigits (n / 128) 128 ++ [UInt8.ofNat (n % 128 + mark)]

/-- A number of variable length. -/
def varint (n : Nat) : ByteArray := ⟨(varintDigits n 0).toArray⟩

/-- The mark and the bytes of a text in a record. -/
def textField (text : String) : Nat × ByteArray :=
  (13 + 2 * text.utf8ByteSize, text.toUTF8)

/-- The mark and the bytes of a page number in a record. -/
def pageField (page : Nat) : Nat × ByteArray := (4, Bytes.big 4 page)

/-- The record of an entry whose rows start at a page. -/
def Entry.record (e : Entry) (page : Nat) : ByteArray :=
  let fields := [textField e.kind, textField e.name, textField e.table, pageField page,
    (e.statement.map textField).getD (0, .empty)]
  let marks := fields.foldl (fun out f => out ++ varint f.1) .empty
  varint (marks.size + 1) ++ marks ++ fields.foldl (fun out f => out ++ f.2) .empty

/-! ### Pages -/

/-- Zeros. -/
def zeros (count : Nat) : ByteArray := ⟨Array.replicate count 0⟩

/-- Bytes filled with zeros to a page. -/
def filled (bytes : ByteArray) : ByteArray := bytes ++ zeros (pageSize - bytes.size)

/-- The part of a page behind its first `start` bytes: a node of a tree with its
cells at the end of the page. `right` is the last child of an inner node. -/
def node (start : Nat) (kind : UInt8) (right : Option Nat) (cells : List ByteArray) : ByteArray :=
  let (places, content) := cells.foldl (fun (s : ByteArray × ByteArray) cell =>
    (s.1 ++ Bytes.big 2 (pageSize - s.2.size - cell.size), cell ++ s.2)) (.empty, .empty)
  let head := ⟨#[kind]⟩ ++ zeros 2 ++ Bytes.big 2 cells.length
    ++ Bytes.big 2 (pageSize - content.size) ++ zeros 1
    ++ ((right.map (Bytes.big 4)).getD .empty) ++ places
  head ++ zeros (pageSize - start - head.size - content.size) ++ content

/-- The room for cells in a node, each with its place. -/
def roomFor (start : Nat) (isInner : Bool) : Nat :=
  pageSize - start - (if isInner then 12 else 8)

/-- The room that cells take. -/
def roomOf (cells : List ByteArray) : Nat :=
  cells.foldl (fun n c => n + (c.size + 2)) 0

/-- How much of a record stands in its cell. -/
def localSize (size : Nat) : Nat :=
  if size ≤ pageSize - 35 then size
  else
    let least := (pageSize - 12) * 32 / 255 - 23
    let kept := least + (size - least) % (pageSize - 4)
    if kept ≤ pageSize - 35 then kept else least

/-- The pages, numbered from `first` on, of what a cell has no room for. -/
def overflowPages (first : Nat) (bytes : ByteArray) : List ByteArray :=
  let count := (bytes.size + pageSize - 5) / (pageSize - 4)
  (List.range count).map fun i =>
    filled (Bytes.big 4 (if i + 1 == count then 0 else first + i + 1)
      ++ bytes.extract (i * (pageSize - 4)) ((i + 1) * (pageSize - 4)))

/-- The cell of a record, and the pages of what it has no room for. -/
def leafCell (row first : Nat) (record : ByteArray) : ByteArray × List ByteArray :=
  let kept := localSize record.size
  let pages := overflowPages first (record.extract kept record.size)
  (varint record.size ++ varint row ++ record.extract 0 kept
    ++ (if pages.isEmpty then .empty else Bytes.big 4 first), pages)

/-- Cells in groups of consecutive ones that fit into a node each. -/
def grouped {α : Type} (room : Nat) (cell : α → ByteArray) (cells : List α) : List (List α) :=
  cells.foldr (fun c groups =>
    match groups with
    | [] => [[c]]
    | group :: rest =>
      if roomOf ((c :: group).map cell) ≤ room then (c :: group) :: rest
      else [c] :: group :: rest) []

/-- A node that is a child: its page and its last row. -/
structure Child where
  page : Nat
  lastRow : Nat

/-- The cell of a child. -/
def Child.cell (c : Child) : ByteArray := Bytes.big 4 c.page ++ varint c.lastRow

/-- An inner node. -/
def innerNode (start : Nat) (children : List Child) : ByteArray :=
  node start 0x05 (children.getLast?.map Child.page) (children.dropLast.map Child.cell)

/-- The inner node of the first page over some children, with levels of nodes between
as long as it has no room for all, and the pages of those, from `next` on. -/
def innerLevels : Nat → Nat → List Child → ByteArray × List ByteArray
  | bound + 1, next, children =>
    if roomOf (children.map Child.cell) ≤ roomFor 100 true then (innerNode 100 children, [])
    else
      let groups := grouped (roomFor 0 true) Child.cell children
      let parents := groups.zipIdx.map fun (group, i) =>
        ⟨next + i, (group.getLast?.map Child.lastRow).getD 0⟩
      let (top, pages) := innerLevels bound (next + groups.length) parents
      (top, groups.map (innerNode 0) ++ pages)
  | 0, _, children => (innerNode 100 children, [])

/-- The node of the first page over leaf cells with their rows, and the pages below
it, from `next` on. -/
def catalogueTree (next : Nat) (cells : List (Nat × ByteArray)) : ByteArray × List ByteArray :=
  if roomOf (cells.map Prod.snd) ≤ roomFor 100 false then
    (node 100 0x0D none (cells.map Prod.snd), [])
  else
    let groups := grouped (roomFor 0 false) Prod.snd cells
    let children := groups.zipIdx.map fun (group, i) =>
      ⟨next + i, (group.getLast?.map Prod.fst).getD 0⟩
    let (top, pages) := innerLevels children.length (next + groups.length) children
    (top, groups.map (fun group => node 0 0x0D none (group.map Prod.snd)) ++ pages)

/-! ### Files -/

/-- What a file starts with. -/
def fileSignature : ByteArray := "SQLite format 3\x00".toUTF8

/-- The header of a file with so many pages. -/
def fileHeader (pages : Nat) : ByteArray :=
  fileSignature ++ Bytes.big 2 pageSize ++ ⟨#[1, 1, 0, 64, 32, 32]⟩ ++ Bytes.big 4 1
    ++ Bytes.big 4 pages ++ zeros 8 ++ Bytes.big 4 1 ++ Bytes.big 4 4 ++ zeros 8
    ++ Bytes.big 4 1 ++ zeros 32 ++ Bytes.big 4 1 ++ Bytes.big 4 3046000

/-- The empty node that the rows of an entry start at. -/
def Entry.root (e : Entry) : ByteArray :=
  node 0 (if e.kind == "table" then 0x0D else 0x0A) none []

/-- The file of a catalogue. -/
def write (entries : List Entry) : ByteArray :=
  let (_, cells, overflow) := entries.zipIdx.foldl (fun (next, cells, overflow) (e, i) =>
    let (cell, pages) := leafCell (i + 1) next (e.record (i + 2))
    (next + pages.length, cells ++ [(i + 1, cell)], overflow ++ pages))
    (entries.length + 2, [], [])
  let (top, inner) := catalogueTree (entries.length + 2 + overflow.length) cells
  let others := entries.map Entry.root ++ overflow ++ inner
  fileHeader (others.length + 1) ++ top ++ others.foldl (· ++ ·) .empty

end Scaffold.Database

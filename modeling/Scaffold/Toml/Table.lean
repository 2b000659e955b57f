/-
Tables under construction.

A TOML text says in which ways a table may be added to after it was made: `Origin`
tells how a table came about, and `Entries.set`, `Entries.openTable` and
`Entries.appendTable` carry out one statement each, or fail when the statement
contradicts an earlier one.
-/
import Scaffold.Json.Value

namespace Scaffold.Toml

/-- How a table came about. -/
inductive Origin where
  /-- By a header of its own. -/
  | header
  /-- By the header of a table inside it. -/
  | path
  /-- By a key with points. -/
  | dotted
  deriving DecidableEq, Repr

/-- What stands at a key. -/
inductive Item where
  | value (v : Json.Value)
  | table (origin : Origin) (entries : List (String × Item))
  /-- Tables that were appended, the last one first. -/
  | tables (rows : List (List (String × Item)))
  deriving Inhabited

/-- The keys of a table with what stands there, in order. -/
abbrev Entries := List (String × Item)

namespace Entries

/-- What stands at a key. -/
def find? (name : String) : Entries → Option Item
  | [] => none
  | (k, v) :: rest => if k = name then some v else find? name rest

/-- The entries with another item at a key; a new key comes last. -/
def put (name : String) (item : Item) : Entries → Entries
  | [] => [(name, item)]
  | (k, v) :: rest =>
    if k = name then (k, item) :: rest else (k, v) :: put name item rest

/-- Adds a value at a key with points. Tables on the way were made by headers of
tables inside them, or by keys with points. -/
def set (v : Json.Value) : List String → Entries → Option Entries
  | [], _ => none
  | [name], entries => if (entries.find? name).isSome then none else some (entries.put name (.value v))
  | name :: path, entries =>
    match entries.find? name with
    | none => do
      let inner ← set v path []
      some (entries.put name (.table .dotted inner))
    | some (.table .header _) => none
    | some (.table origin inner) => do
      let inner ← set v path inner
      some (entries.put name (.table origin inner))
    | _ => none

/-- Changes the table at a path, by headers: missing tables on the way are made,
and an array of tables stands for its last table. -/
def atPath (change : Entries → Option Entries) : List String → Entries → Option Entries
  | [], entries => change entries
  | name :: path, entries =>
    match entries.find? name with
    | none => do
      let inner ← atPath change path []
      some (entries.put name (.table .path inner))
    | some (.table origin inner) => do
      let inner ← atPath change path inner
      some (entries.put name (.table origin inner))
    | some (.tables (row :: rows)) => do
      let row ← atPath change path row
      some (entries.put name (.tables (row :: rows)))
    | _ => none

/-- Opens the table that a header names. -/
def openTable (path : List String) (entries : Entries) : Option Entries :=
  match path.getLast? with
  | none => none
  | some name => atPath (fun inner =>
      match inner.find? name with
      | none => some (inner.put name (.table .header []))
      | some (.table .path own) => some (inner.put name (.table .header own))
      | _ => none) path.dropLast entries

/-- Appends a table to the array of tables that a header names. -/
def appendTable (path : List String) (entries : Entries) : Option Entries :=
  match path.getLast? with
  | none => none
  | some name => atPath (fun inner =>
      match inner.find? name with
      | none => some (inner.put name (.tables [[]]))
      | some (.tables rows) => some (inner.put name (.tables ([] :: rows)))
      | _ => none) path.dropLast entries

end Entries

mutual

/-- The value of what stands at a key. -/
def Item.toValue : Item → Json.Value
  | .value v => v
  | .table _ entries => .object (Item.members entries)
  | .tables rows => .array (Item.rowValues [] rows)

/-- The members of a table. -/
def Item.members : List (String × Item) → List (String × Json.Value)
  | [] => []
  | (k, i) :: rest => (k, i.toValue) :: Item.members rest

/-- The objects of appended tables, in front of those that come after them. -/
def Item.rowValues (later : List Json.Value) : List (List (String × Item)) → List Json.Value
  | [] => later
  | row :: rows => Item.rowValues (.object (Item.members row) :: later) rows

end

end Scaffold.Toml

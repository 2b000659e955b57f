/-
Reading the catalogue of a database file.

* `read?` gives the entries of a file in the order of their rows.
-/
import Scaffold.Database.File

namespace Scaffold.Database

open Bytes

/-- The number of variable length at a place, and the place after it. -/
def varintFrom? (bytes : ByteArray) : Nat → Nat → Nat → Option (Nat × Nat)
  | 0, _, _ => none
  | bound + 1, place, high => do
    let b ← bytes[place]?
    if b < 128 then return (high * 128 + b.toNat, place + 1)
    else varintFrom? bytes bound (place + 1) (high * 128 + (b.toNat - 128))

/-- The number of variable length at a place, and the place after it. -/
def varint? (bytes : ByteArray) (place : Nat) : Option (Nat × Nat) :=
  varintFrom? bytes 8 place 0

/-- So many bytes of a chain of pages. -/
def overflowFrom? (file : ByteArray) : Nat → Nat → Nat → Option ByteArray
  | _, 0, _ => some .empty
  | 0, _, _ => none
  | bound + 1, size, page => do
    let place := (page - 1) * pageSize
    let held := min size (pageSize - 4)
    let rest ← overflowFrom? file bound (size - held) (← big? file place 4)
    return (← slice? file (place + 4) held) ++ rest

/-- The record of the leaf cell at a place. -/
def recordAt? (file : ByteArray) (place : Nat) : Option ByteArray := do
  let (size, place) ← varint? file place
  let (_, place) ← varint? file place
  let kept := localSize size
  let held ← slice? file place kept
  if kept == size then return held
  return held ++ (← overflowFrom? file file.size (size - kept) (← big? file (place + kept) 4))

/-- The marks of the fields of a record between two places. -/
def marksFrom? (record : ByteArray) (stop : Nat) : Nat → Nat → Option (List Nat)
  | 0, _ => none
  | bound + 1, place =>
    if stop ≤ place then some [] else do
      let (mark, next) ← varint? record place
      return mark :: (← marksFrom? record stop bound next)

/-- How many bytes a field takes. -/
def fieldSize (mark : Nat) : Nat :=
  if mark ≤ 4 then mark
  else if mark == 5 then 6
  else if mark ≤ 7 then 8
  else if mark ≤ 11 then 0
  else (mark - 12) / 2

/-- The fields of a record, as texts where they are texts. -/
def fieldsFrom? (record : ByteArray) (place : Nat) : List Nat → Option (List (Option String))
  | [] => some []
  | mark :: marks => do
    let held ← slice? record place (fieldSize mark)
    let rest ← fieldsFrom? record (place + fieldSize mark) marks
    return (if 13 ≤ mark && mark % 2 == 1 then String.fromUTF8? held else none) :: rest

/-- The entry that a record holds. -/
def entryOf? (record : ByteArray) : Option Entry := do
  let (size, start) ← varint? record 0
  match ← fieldsFrom? record size (← marksFrom? record size (size + 1) start) with
  | [some kind, some name, some table, _, statement] => return ⟨kind, name, table, statement⟩
  | _ => none

/-- The entries below the node of a page, as far as `depth` nodes down. -/
def entriesAt? (file : ByteArray) : Nat → Nat → Option (List Entry)
  | 0, _ => none
  | depth + 1, page => do
    let origin := (page - 1) * pageSize
    let start := origin + if page == 1 then 100 else 0
    let count ← big? file (start + 3) 2
    let cellPlace := fun (first i : Nat) => (big? file (start + first + 2 * i) 2).map (origin + ·)
    match ← big? file start 1 with
    | 0x0D => (List.range count).mapM fun i => do
        entryOf? (← recordAt? file (← cellPlace 8 i))
    | 0x05 =>
      let children ← (List.range count).mapM fun i => do big? file (← cellPlace 12 i) 4
      let lists ← (children ++ [← big? file (start + 8) 4]).mapM (entriesAt? file depth)
      return lists.flatten
    | _ => none

/-- The entries of a file. -/
def read? (file : ByteArray) : Option (List Entry) := do
  guard ((← slice? file 0 16) == fileSignature)
  entriesAt? file 20 1

end Scaffold.Database

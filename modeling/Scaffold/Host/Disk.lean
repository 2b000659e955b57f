/-
A file system with links, as on a disk.

* A `Disk` holds files, folders and links by the names that lead to them from its
  root;
* `Disk.resolve` follows a path, links on the way included, to the names of what it
  means; whether a link at its end is followed too is up to the operation;
* a `DiskFault` says why an operation fails;
* `Disk.answer` answers the calls of a run. What is at a path is looked at without
  following a link there, and writing follows it.
-/
import Scaffold.Bytes
import Scaffold.Dictionary
import Scaffold.Host
import Scaffold.Path

namespace Scaffold

open Scaffold.Path

/-- Why an operation on a disk fails. -/
inductive DiskFault where
  | notFound
  | occupied
  | notFolder
  | isFolder
  | nameTooLong
  | notEmpty
  | tooManyLinks
  | busy
  deriving Repr, DecidableEq

/-- All faults, each with its number and its text. -/
def DiskFault.numbered : List (Nat × String × DiskFault) :=
  [(2, "No such file or directory", notFound), (16, "Device or resource busy", busy),
   (17, "File exists", occupied), (20, "Not a directory", notFolder),
   (21, "Is a directory", isFolder), (36, "File name too long", nameTooLong),
   (39, "Directory not empty", notEmpty), (40, "Too many levels of symbolic links", tooManyLinks)]

/-- A reason with its number. -/
def DiskFault.reason (number : Nat) (text : String) : String :=
  s!"{text} (os error {number})"

/-- The text of a fault, with its number. -/
def DiskFault.message (f : DiskFault) : String :=
  match numbered.find? fun entry => entry.2.2 = f with
  | some (number, text, _) => reason number text
  | none => ""

/-- What is at some names of a disk. -/
inductive Disk.Slot where
  | file (bytes : ByteArray)
  | folder
  | link (target : String)
  deriving DecidableEq

/-- A file system with links. The root is a folder that is always there, and relative
paths start at the working folder. -/
structure Disk where
  slots : Dictionary (List String) Disk.Slot := ∅
  working : List String := []
  deriving DecidableEq, Inhabited

namespace Disk

/-- What is at some names. -/
def slot? (d : Disk) (names : List String) : Option Slot :=
  if names.isEmpty then some .folder else d.slots.get? names

/-- The greatest size of a name in bytes. -/
def maxNameSize : Nat := 255

/-- How many links are followed at most. -/
def maxLinks : Nat := 40

/-- The names that components lead to from a folder. What is at their end need not be
there; a link there is followed if `follow` says so. -/
def resolveFrom (d : Disk) (follow : Bool) (links : Nat) (folder : List String) (key : Key) :
    Except DiskFault (List String) :=
  match key with
  | [] => .ok folder
  | .root :: rest => resolveFrom d follow links [] rest
  | .here :: rest => resolveFrom d follow links folder rest
  | .up :: rest => resolveFrom d follow links folder.dropLast rest
  | .name text :: rest =>
    if maxNameSize < text.utf8ByteSize then .error .nameTooLong
    else
      let names := folder ++ [text]
      match d.slot? names with
      | none => if rest.isEmpty then .ok names else .error .notFound
      | some .folder => resolveFrom d follow links names rest
      | some (.file _) => if rest.isEmpty then .ok names else .error .notFolder
      | some (.link target) =>
        if rest.isEmpty && !follow then .ok names
        else
          match links with
          | 0 => .error .tooManyLinks
          | left + 1 => resolveFrom d follow left folder (components target ++ rest)
termination_by (links, key.length)

/-- The names that a path leads to. -/
def resolve (d : Disk) (follow : Bool) (path : String) : Except DiskFault (List String) :=
  if path = "" then .error .notFound
  else resolveFrom d follow maxLinks d.working (components path)

/-- The slot that a path leads to, if something is there. -/
def find (d : Disk) (follow : Bool) (path : String) : Except DiskFault (List String × Slot) := do
  let names ← d.resolve follow path
  match d.slot? names with
  | some slot => return (names, slot)
  | none => throw .notFound

/-- Whether a path leads to a folder. -/
def isFolder (d : Disk) (path : String) : Bool :=
  match d.find true path with
  | .ok (_, .folder) => true
  | _ => false

/-- The names of what is directly in a folder, ascending. -/
def children (d : Disk) (folder : List String) : List String :=
  d.slots.keys.filterMap fun names =>
    if names.dropLast = folder then names.getLast? else none

/-! ### Operations -/

/-- What is at a path. A missing file is no fault. -/
def entry (d : Disk) (path : String) : Except DiskFault (Option Entry) :=
  match d.find false path with
  | .ok (_, .folder) => .ok (some ⟨.folder, 0⟩)
  | .ok (_, .file bytes) => .ok (some ⟨.file, bytes.size⟩)
  | .ok (_, .link target) => .ok (some ⟨.file, target.utf8ByteSize⟩)
  | .error .notFound => .ok none
  | .error fault => .error fault

/-- Makes one folder; the one above it has to be there. -/
def makeOne (d : Disk) (path : String) : Except DiskFault Disk := do
  let names ← d.resolve false path
  if (d.slot? names).isSome then throw .occupied
  return { d with slots := d.slots.insert names .folder }

/-- Makes a folder and those above it that are missing, with at most `bound` of
them. -/
def makeWithin : Nat → Disk → String → Except DiskFault Unit × Disk
  | 0, d, _ => (.error .notFound, d)
  | bound + 1, d, path =>
    if path = "" then (.ok (), d)
    else
      match d.makeOne path with
      | .ok d => (.ok (), d)
      | .error .notFound =>
        match parent? path with
        | none => (.error .notFound, d)
        | some parent =>
          match makeWithin bound d parent with
          | (.error fault, d) => (.error fault, d)
          | (.ok (), d) =>
            match d.makeOne path with
            | .ok d => (.ok (), d)
            | .error fault => if d.isFolder path then (.ok (), d) else (.error fault, d)
      | .error fault => if d.isFolder path then (.ok (), d) else (.error fault, d)

/-- Makes a folder and those above it. -/
def makeFolder (d : Disk) (path : String) : Except DiskFault Unit × Disk :=
  makeWithin (path.length + 1) d path

/-- Writes a file, through links. -/
def write (d : Disk) (path : String) (bytes : ByteArray) : Except DiskFault Disk := do
  let names ← d.resolve true path
  match d.slot? names with
  | some .folder => throw .isFolder
  | _ => return { d with slots := d.slots.insert names (.file bytes) }

/-- The bytes of a file, through links. -/
def read (d : Disk) (path : String) : Except DiskFault ByteArray := do
  match ← d.find true path with
  | (_, .file bytes) => return bytes
  | _ => throw .isFolder

/-- The names of what is in a folder, ascending. -/
def list (d : Disk) (path : String) : Except DiskFault (List String) := do
  match ← d.find true path with
  | (names, .folder) => return d.children names
  | _ => throw .notFolder

/-- Removes a file or a link. -/
def removeFile (d : Disk) (path : String) : Except DiskFault Disk := do
  match ← d.find false path with
  | (_, .folder) => throw .isFolder
  | (names, _) => return { d with slots := d.slots.erase names }

/-- Removes an empty folder. -/
def removeFolder (d : Disk) (path : String) : Except DiskFault Disk := do
  match ← d.find false path with
  | ([], _) => throw .busy
  | (names, .folder) =>
    if (d.children names).isEmpty then return { d with slots := d.slots.erase names }
    else throw .notEmpty
  | _ => throw .notFolder

/-- Makes a link. -/
def makeLink (d : Disk) (path target : String) : Except DiskFault Disk := do
  let names ← d.resolve false path
  if (d.slot? names).isSome then throw .occupied
  return { d with slots := d.slots.insert names (.link target) }

/-! ### Calls -/

/-- The failure of an operation at a path. -/
def failure (path operation : String) (fault : DiskFault) : Failure :=
  .filesystem path s!"Failed to {operation}: {fault.message}"

/-- The reply of an operation that changes a disk, and the disk after it. -/
def changed (d : Disk) (path operation : String) :
    Except DiskFault Disk → Except Failure Unit × Disk
  | .ok d => (.ok (), d)
  | .error fault => (.error (failure path operation fault), d)

/-- The reply to a call, and the disk after it. -/
def answer (outside : Outside) (d : Disk) : (c : Call) → c.Reply × Disk
  | .entry path => ((d.entry path).mapError (failure path "inspect path"), d)
  | .makeFolder path =>
    let (made, d) := d.makeFolder path
    (made.mapError (failure path "create directory"), d)
  | .write path bytes => d.changed path "write file" (d.write path bytes)
  | .read path => ((d.read path).mapError (failure path "read file"), d)
  | .list path => ((d.list path).mapError (failure path "list directory"), d)
  | .removeFile path => d.changed path "remove file" (d.removeFile path)
  | .removeFolder path => d.changed path "remove directory" (d.removeFolder path)
  | .fetch url => (outside.fetch url, d)
  | .generate request => (outside.generate request, d)
  | .command text folder => (outside.command text folder, d)

/-- A host that keeps its files on a disk. -/
def host (outside : Outside) : Host (StateM Disk) :=
  fun call d => answer outside d call

end Disk

end Scaffold

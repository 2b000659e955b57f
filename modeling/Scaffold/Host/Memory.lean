/-
A file system that is kept in memory.

Paths are the same when they have the same components. A file is made in a folder
that is there, or beside all folders when its path has a single component.

* `Memory` holds files and folders by the components of their paths;
* its operations give the changed file system, also when they fail: making a
  folder may fail after folders on the way were made;
* `Memory.answer` answers the calls of a run.
-/
import Scaffold.Bytes
import Scaffold.Dictionary
import Scaffold.Host
import Scaffold.Path

namespace Scaffold

open Scaffold.Path

/-- What is at a path of a file system in memory. A file keeps the spelling of the
path under which it was made. -/
inductive Memory.Slot where
  | file (path : String) (bytes : ByteArray)
  | folder
  deriving DecidableEq

/-- A file system in memory. -/
structure Memory where
  slots : Dictionary Key Memory.Slot := ∅
  deriving DecidableEq, Inhabited

namespace Memory

/-- The file system without files and folders. -/
def empty : Memory := {}

/-- What is at the components of a path. -/
def slot? (fs : Memory) (key : Key) : Option Slot := fs.slots.get? key

/-- Whether a folder is at a path. -/
def isFolder (fs : Memory) (path : String) : Bool :=
  fs.slot? (components path) = some .folder

/-- The bytes of the file at a path. -/
def bytes? (fs : Memory) (path : String) : Option ByteArray :=
  match fs.slot? (components path) with
  | some (.file _ bytes) => some bytes
  | _ => none

/-- The paths of all folders, in the order of their components. -/
def folders (fs : Memory) : List String :=
  fs.slots.entries.filterMap fun
    | (key, .folder) => some (ofComponents key)
    | _ => none

/-- The paths and the bytes of all files, in the order of their components. -/
def files (fs : Memory) : List (String × ByteArray) :=
  fs.slots.entries.filterMap fun
    | (_, .file path bytes) => some (path, bytes)
    | _ => none

/-! ### Operations -/

/-- What is at a path. -/
def entry (fs : Memory) (path : String) : Option Entry :=
  (fs.slot? (components path)).map fun
    | .file _ bytes => ⟨.file, bytes.size⟩
    | .folder => ⟨.folder, 0⟩

/-- Makes the folder `done ++ rest` and the folders between `done` and it. -/
def makeFolders (fs : Memory) (done : Key) : Key → Except Failure Unit × Memory
  | [] => (.ok (), fs)
  | component :: rest =>
    let here := done ++ [component]
    match fs.slot? here with
    | some (.file _ _) =>
      (.error (.filesystem (ofComponents here) "A file with this name already exists"), fs)
    | some .folder => makeFolders fs here rest
    | none => makeFolders ⟨fs.slots.insert here .folder⟩ here rest

/-- Makes a folder and the folders above it. -/
def makeFolder (fs : Memory) (path : String) : Except Failure Unit × Memory :=
  makeFolders fs [] (components path)

/-- Whether a file may be made under a key, as to the folder above it. -/
def hasParent (fs : Memory) (key : Key) : Bool :=
  match Key.parent? key with
  | none | some [] => true
  | some parent => fs.slot? parent = some .folder

/-- Writes a file. -/
def write (fs : Memory) (path : String) (bytes : ByteArray) : Except Failure Unit × Memory :=
  let key := components path
  match fs.slot? key with
  | some .folder =>
    (.error (.filesystem path "A directory with this name already exists"), fs)
  | found =>
    if !fs.hasParent key then (.error (.filesystem path "Parent directory does not exist"), fs)
    else
      let spelling := match found with
        | some (.file spelling _) => spelling
        | _ => path
      (.ok (), ⟨fs.slots.insert key (.file spelling bytes)⟩)

/-- The bytes of a file. -/
def read (fs : Memory) (path : String) : Except Failure ByteArray :=
  match fs.bytes? path with
  | some bytes => .ok bytes
  | none => .error (.filesystem path "File not found")

/-- The keys of what is directly in a folder, ascending. -/
def childKeys (fs : Memory) (key : Key) : List Key :=
  fs.slots.keys.filter fun child => Key.parent? child = some key

/-- The names of what is directly in a folder, ascending. -/
def list (fs : Memory) (path : String) : Except Failure (List String) :=
  if fs.isFolder path then
    .ok ((fs.childKeys (components path)).filterMap fun key =>
      match key.getLast? with
      | some (.name text) => some text
      | _ => none)
  else .error (.filesystem path "Directory not found")

/-- Removes a file. -/
def removeFile (fs : Memory) (path : String) : Except Failure Unit × Memory :=
  match fs.bytes? path with
  | some _ => (.ok (), ⟨fs.slots.erase (components path)⟩)
  | none => (.error (.filesystem path "File not found"), fs)

/-- Removes a folder with nothing in it. -/
def removeFolder (fs : Memory) (path : String) : Except Failure Unit × Memory :=
  if !fs.isFolder path then (.error (.filesystem path "Directory not found"), fs)
  else if !(fs.childKeys (components path)).isEmpty then
    (.error (.filesystem path "Directory not empty"), fs)
  else (.ok (), ⟨fs.slots.erase (components path)⟩)

/-! ### Calls -/

/-- The reply to a call, and the file system after it. -/
def answer (outside : Outside) (fs : Memory) : (c : Call) → c.Reply × Memory
  | .entry path => (.ok (fs.entry path), fs)
  | .makeFolder path => fs.makeFolder path
  | .write path bytes => fs.write path bytes
  | .read path => (fs.read path, fs)
  | .list path => (fs.list path, fs)
  | .removeFile path => fs.removeFile path
  | .removeFolder path => fs.removeFolder path
  | .fetch url => (outside.fetch url, fs)
  | .generate request => (outside.generate request, fs)
  | .command text folder => (outside.command text folder, fs)

/-- A host that keeps its files in memory. -/
def host (outside : Outside) : Host (StateM Memory) :=
  fun call fs => answer outside fs call

end Memory

end Scaffold

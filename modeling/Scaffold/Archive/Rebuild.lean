/-
Rebuilding an archive with variables replaced in its text.

* `replaced` is what becomes of a member: the names, methods and permissions
  stay, and text members get the values of variables;
* `readMembers` reads the members of an archive within the bound on their size;
* `rebuild` is the archive of the replaced members.
-/
import Scaffold.Archive
import Scaffold.Archive.Run
import Scaffold.Zip.Reader

namespace Scaffold.Archive

open Variable Zip

/-- The total size of members that is accepted. -/
def maxExpandedBytes : Nat := 256 * 1024 * 1024

/-- Why an archive cannot be rebuilt. -/
inductive Fault where
  | notArchive (fault : Zip.Fault)
  | unreadable (index : Nat) (refusal : Refusal)
  | tooLarge
  | damaged (name : String) (damage : Damage)
  deriving Repr, DecidableEq

/-- The text of a fault. -/
def Fault.message : Fault → String
  | notArchive fault => "not a valid archive: " ++ fault.message
  | unreadable index refusal => s!"unreadable entry #{index}: {refusal.message}"
  | tooLarge => s!"archive expands beyond {maxExpandedBytes} bytes"
  | damaged name damage => s!"cannot read {name}: {damage.message}"

/-! ### Members -/

/-- The text of a member with variables replaced: run by run in office documents,
with escaped values in other markup, and plainly elsewhere. -/
def replacedText (kind : Kind) (env : Environment) (member text : String) : String :=
  if kind = .office then substituteRuns env text
  else if isMarkup member then substituteWith env escapeMarkup text
  else substitute env text

/-- The bytes of a member with variables replaced, if it is a text member. -/
def replacedData (kind : Kind) (env : Environment) (member : String) (data : ByteArray) :
    ByteArray :=
  if kind.hasText member then
    match String.fromUTF8? data with
    | some text => (replacedText kind env member text).toUTF8
    | none => data
  else data

/-- The recorded mode of a rebuilt member: the permissions it had, or the usual
ones, and whether it is a folder. -/
def rebuiltMode (isFolder : Bool) (mode : Option Nat) : Nat :=
  if isFolder then 0o40000 + (mode.map (· % 0o1000)).getD 0o755
  else 0o100000 + (mode.map (· % 0o1000)).getD 0o644

/-- What becomes of a member. Folders hold no bytes. -/
def replaced (kind : Kind) (env : Environment) (m : Member) : Member :=
  let mode := some (rebuiltMode m.isFolder m.mode)
  if m.isFolder then ⟨m.name, .stored, mode, .empty⟩
  else ⟨m.name, m.method, mode, replacedData kind env m.name m.data⟩

/-! ### Archives -/

/-- The members with the given headers. `index` counts the members before them, and
`expanded` is the size that is recorded for those. Of a file that is longer than it is
recorded no more is read than is accepted, and one byte. -/
def membersFrom (bytes : ByteArray) (index expanded : Nat) :
    List Header → Except Fault (List Member)
  | [] => return []
  | h :: rest =>
    match h.method with
    | .error refusal => throw (.unreadable index refusal)
    | .ok method =>
      if isFolderName h.name then
        return ⟨h.name, method, h.mode, .empty⟩ :: (← membersFrom bytes (index + 1) expanded rest)
      else if maxExpandedBytes < expanded + h.size then throw .tooLarge
      else match h.contentUpTo (maxExpandedBytes + 1) method bytes with
        | .error damage => throw (.damaged h.name damage)
        | .ok data =>
          return ⟨h.name, method, h.mode, data⟩
            :: (← membersFrom bytes (index + 1) (expanded + h.size) rest)

/-- The members of an archive. -/
def readMembers (bytes : ByteArray) : Except Fault (List Member) :=
  match headers bytes with
  | .error fault => throw (.notArchive fault)
  | .ok headers => membersFrom bytes 0 0 headers

/-- The archive with variables replaced in its text members. -/
def rebuild (kind : Kind) (env : Environment) (bytes : ByteArray) : Except Fault ByteArray :=
  return write ((← readMembers bytes).map (replaced kind env))

end Scaffold.Archive

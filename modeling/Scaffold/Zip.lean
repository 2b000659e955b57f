/-
Archives of members: what one member is, and writing them.

* `Method` is how the bytes of a member are packed;
* `Member` is a name with its mode and bytes, and `Member.isFolder` reads from the
  name whether it is a folder;
* `write` lays out members one after the other, then their directory.
-/
import Scaffold.Bytes
import Scaffold.Checksum
import Scaffold.Deflate

namespace Scaffold.Zip

/-- How bytes are packed. -/
inductive Method where
  | stored
  | deflated
  deriving Repr, DecidableEq

/-- The number of a method. -/
def Method.code : Method → Nat
  | .stored => 0
  | .deflated => 8

/-- The bytes as the method packs them. -/
def Method.pack : Method → ByteArray → ByteArray
  | .stored, bytes => bytes
  | .deflated, bytes => Deflate.store bytes

/-- A member of an archive. Its mode holds the kind and the permissions of a file,
if they are recorded. -/
structure Member where
  name : String
  method : Method
  mode : Option Nat
  data : ByteArray
  deriving DecidableEq

/-- Whether a name is that of a folder. -/
def isFolderName (name : String) : Bool :=
  match name.toList.getLast? with
  | some c => c == '/' || c == '\\'
  | none => false

/-- Whether the member is a folder. -/
def Member.isFolder (m : Member) : Bool := isFolderName m.name

/-! ### Writing -/

/-- What the local and the central header of a member share. -/
def sharedFields (m : Member) (packed : ByteArray) : List (Nat × Nat) :=
  let name := m.name.toUTF8
  let isAscii := m.name.toList.all (·.toNat < 0x80)
  [(2, 20), (2, if isAscii then 0 else 0x800), (2, m.method.code), (2, 0), (2, 0x21),
   (4, (Checksum.crc32 m.data).toNat), (4, packed.size), (4, m.data.size), (2, name.size), (2, 0)]

/-- The local header and the packed bytes of a member. -/
def localRecord (m : Member) : ByteArray :=
  let packed := m.method.pack m.data
  Bytes.fields ((4, 0x04034B50) :: sharedFields m packed) ++ m.name.toUTF8 ++ packed

/-- The directory record of a member whose local header starts at `place`. -/
def centralRecord (m : Member) (place : Nat) : ByteArray :=
  Bytes.fields ([(4, 0x02014B50), (2, 0x0314)] ++ sharedFields m (m.method.pack m.data)
    ++ [(2, 0), (2, 0), (2, 0), (4, m.mode.getD 0 * 65536), (4, place)]) ++ m.name.toUTF8

/-- The record at the end of an archive. -/
def endRecord (count size place : Nat) : ByteArray :=
  Bytes.fields [(4, 0x06054B50), (2, 0), (2, 0), (2, count), (2, count), (4, size), (4, place),
    (2, 0)]

/-- An archive of the given members. -/
def write (members : List Member) : ByteArray :=
  let (records, directory) := members.foldl (fun (s : ByteArray × ByteArray) m =>
    (s.1 ++ localRecord m, s.2 ++ centralRecord m s.1.size)) (.empty, .empty)
  records ++ directory ++ endRecord members.length directory.size records.size

end Scaffold.Zip

/-
Reading archives.

* `headers` finds the directory of an archive from its end and reads it. A record
  that looks like the end but leads to no sound directory is passed over for one
  before it;
* `Header.content` unpacks the bytes of a member and compares their checksum, and
  `Header.contentUpTo` stops after some of them;
* `members?` reads a whole archive.
-/
import Scaffold.Text.Utf8
import Scaffold.Zip

namespace Scaffold.Zip

open Bytes

/-- Why bytes are no archive. -/
inductive Fault where
  | noEndRecord
  | cutEndRecord
  | badDirectoryPlace
  | noDirectory
  deriving Repr, DecidableEq

/-- The text of a fault. -/
def Fault.message : Fault → String
  | noEndRecord => "invalid Zip archive: Could not find EOCD"
  | cutEndRecord => "i/o error"
  | badDirectoryPlace => "invalid Zip archive: Invalid CDFH offset in EOCD"
  | noDirectory => "invalid Zip archive: No CDFH found"

/-- Why a member cannot be opened. -/
inductive Refusal where
  | encrypted
  | unknownMethod
  deriving Repr, DecidableEq

/-- The text of a refusal. -/
def Refusal.message : Refusal → String
  | encrypted => "unsupported Zip archive: Password required to decrypt file"
  | unknownMethod => "unsupported Zip archive: Compression method not supported"

/-- Why the bytes of a member cannot be had. -/
inductive Damage where
  | malformed
  | wrongChecksum
  deriving Repr, DecidableEq

/-- The text of a damage. -/
def Damage.message : Damage → String
  | malformed => "corrupt deflate stream"
  | wrongChecksum => "Invalid checksum"

/-- A member as the directory describes it. -/
structure Header where
  name : String
  method : Except Refusal Method
  mode : Option Nat
  size : Nat
  packedSize : Nat
  checksum : Nat
  start : Nat

/-! ### Names and modes -/

/-- The upper half of the code page that names are in without a mark. -/
def codePage : Array Char :=
  "ÇüéâäàåçêëèïîìÄÅÉæÆôöòûùÿÖÜ¢£¥₧ƒáíóúñÑªº¿⌐¬½¼¡«»░▒▓│┤╡╢╖╕╣║╗╝╜╛┐└┴┬├─┼╞╟╚╔╩╦╠═╬╧╨╤╥╙╘╒╓╫╪┘┌█▄▌▐▀αßΓπΣσµτΦΘΩδ∞φε∩≡±≥≤⌠⌡÷≈°∙·√ⁿ²■\u00A0".toList.toArray

/-- The character of a byte in that code page. -/
def codePageChar (b : UInt8) : Char :=
  if b < 0x80 then Char.ofNat b.toNat else codePage[b.toNat - 0x80]?.getD Text.replacementChar

/-- A name from its bytes; `marked` says that they are UTF-8. -/
def nameOf (marked : Bool) (bytes : ByteArray) : String :=
  String.ofList (if marked then Text.ofBytes bytes.toList else bytes.toList.map codePageChar)

/-- The recorded mode: that of a Unix system, or one made from the folder and the
read-only marks of a DOS system. -/
def modeOf (madeBy attributes : Nat) : Option Nat :=
  if attributes == 0 then none
  else match madeBy / 256 with
    | 3 => some (attributes / 65536)
    | 0 =>
      let mode := if attributes / 16 % 2 == 1 then 0o40775 else 0o100664
      some (if attributes % 2 == 1 then mode &&& 0o555 else mode)
    | _ => none

/-! ### The directory -/

/-- Where a member's packed bytes start, from the place of its local header. -/
def dataStart? (bytes : ByteArray) (place : Nat) : Option Nat := do
  guard ((← little? bytes place 4) == 0x04034B50)
  let _ ← slice? bytes place 30
  return place + 30 + (← little? bytes (place + 26) 2) + (← little? bytes (place + 28) 2)

/-- The header at a place of the directory, and the place after it. The directory
starts at `directory`, and places in it count from `origin`. -/
def header? (bytes : ByteArray) (origin directory place : Nat) : Option (Header × Nat) := do
  let word (offset width : Nat) := little? bytes (place + offset) width
  guard ((← word 0 4) == 0x02014B50)
  let flags ← word 8 2
  let nameSize ← word 28 2
  let attributes ← word 38 4
  let localPlace := (← word 42 4) + origin
  let next := place + 46 + nameSize + (← word 30 2) + (← word 32 2)
  guard (next ≤ bytes.size)
  let name := nameOf (flags / 0x800 % 2 == 1) (← slice? bytes (place + 46) nameSize)
  guard (localPlace < directory)
  let start ← dataStart? bytes localPlace
  guard (start ≤ directory)
  let method := match flags % 2 == 1, ← word 10 2 with
    | true, _ => .error .encrypted
    | false, 0 => .ok .stored
    | false, 8 => .ok .deflated
    | false, _ => .error .unknownMethod
  return (⟨name, method, modeOf (← word 4 2) attributes, ← word 24 4, ← word 20 4,
    ← word 16 4, start⟩, next)

/-- As many headers as asked, from a place on. -/
def headersFrom? (bytes : ByteArray) (origin directory : Nat) : Nat → Nat → Option (List Header)
  | 0, _ => some []
  | count + 1, place => do
    let (header, next) ← header? bytes origin directory place
    return header :: (← headersFrom? bytes origin directory count next)

/-- The headers with those of one name joined: the last one stands in the place of
the first. -/
def byName (headers : List Header) : List Header :=
  headers.foldl (fun acc h =>
    if acc.any (·.name == h.name) then acc.map fun a => if a.name == h.name then h else a
    else acc ++ [h]) []

/-- Whether a word of four bytes stands at a place. -/
def hasWord (bytes : ByteArray) (word place : Nat) : Bool :=
  little? bytes place 4 == some word

/-- The directory that the end record at `place` leads to: where it starts and how
far it is from where the record says. An empty archive has none. -/
def directoryOf (bytes : ByteArray) (place : Nat) : Except Fault (Option (Nat × Nat)) := do
  let some comment := little? bytes (place + 20) 2 | throw .cutEndRecord
  let some total := little? bytes (place + 10) 2 | throw .cutEndRecord
  let some said := little? bytes (place + 16) 4 | throw .cutEndRecord
  if bytes.size < place + 22 + comment then throw .cutEndRecord
  if total == 0 then return none
  if place ≤ said then throw .badDirectoryPlace
  match (List.range (place - 3 - said)).find? fun i => hasWord bytes 0x02014B50 (said + i) with
  | none => throw .noDirectory
  | some shift => return some (said + shift, shift)

/-- The headers that the end record at `place` leads to. -/
def headersOf? (bytes : ByteArray) (place : Nat) : Option (Nat × Nat) → Option (List Header)
  | none => some []
  | some (directory, origin) => do
    guard ((← little? bytes (place + 4) 2) == (← little? bytes (place + 6) 2))
    headersFrom? bytes origin directory (← little? bytes (place + 8) 2) directory

/-- The headers by the first of some end records that leads to any; `fault` is the
first fault since a directory was found. -/
def headersAt (bytes : ByteArray) (fault : Option Fault) : List Nat → Except Fault (List Header)
  | [] => throw (fault.getD .noEndRecord)
  | place :: places =>
    match directoryOf bytes place with
    | .error .cutEndRecord => headersAt bytes (fault.or (some .cutEndRecord)) places
    | .error f => headersAt bytes (some f) places
    | .ok found =>
      match headersOf? bytes place found with
      | some headers => return byName headers
      | none => headersAt bytes none places

/-- The members of an archive as its directory describes them. -/
def headers (bytes : ByteArray) : Except Fault (List Header) :=
  headersAt bytes none
    ((List.range bytes.size).reverse.filter fun place => hasWord bytes 0x06054B50 place)

/-! ### Content -/

/-- What the packed bytes of a member unpack to. -/
def Header.unpacked? (h : Header) (method : Method) (bytes : ByteArray) : Option ByteArray :=
  let packed := bytes.extract h.start (h.start + h.packedSize)
  match method with
  | .stored => some packed
  | .deflated => Deflate.inflate? packed

/-- The bytes of a member that is packed by a method. -/
def Header.content (h : Header) (method : Method) (bytes : ByteArray) : Except Damage ByteArray :=
  match h.unpacked? method bytes with
  | none => throw .malformed
  | some data =>
    if (Checksum.crc32 data).toNat == h.checksum then return data else throw .wrongChecksum

/-- The first bytes of a member, as many as `limit`. Only a member that ends before has its
checksum compared. -/
def Header.contentUpTo (limit : Nat) (h : Header) (method : Method) (bytes : ByteArray) :
    Except Damage ByteArray :=
  match h.unpacked? method bytes with
  | none => throw .malformed
  | some data => if limit ≤ data.size then return data.extract 0 limit else h.content method bytes

/-- The member that a header describes, if it can be opened and is undamaged. -/
def Header.member? (h : Header) (bytes : ByteArray) : Option Member := do
  let method ← h.method.toOption
  let data ← (h.content method bytes).toOption
  return ⟨h.name, method, h.mode, data⟩

/-- All members of an archive. -/
def members? (bytes : ByteArray) : Option (List Member) := do
  (← (headers bytes).toOption).mapM (·.member? bytes)

end Scaffold.Zip

/-
Checksums of bytes.

* `crc32` is the remainder of the bytes, as a polynomial over the field of two
  elements, by the polynomial 0xEDB88320 (bits reversed);
* `adler32` is the pair of the sum of the bytes and the sum of those sums, each
  modulo 65521.
-/

namespace Scaffold.Checksum

/-- One division step of the cyclic checksum. -/
def crcStep (r : UInt32) : UInt32 :=
  if r &&& 1 == 1 then (r >>> 1) ^^^ 0xEDB88320 else r >>> 1

/-- The remainder of a byte. -/
def crcByte (b : UInt8) : UInt32 :=
  Nat.repeat crcStep 8 b.toUInt32

/-- The remainders of all bytes. -/
def crcTable : Array UInt32 :=
  (Array.range 256).map fun n => crcByte (UInt8.ofNat n)

/-- The cyclic checksum. -/
def crc32 (bytes : ByteArray) : UInt32 :=
  bytes.foldl (fun (r : UInt32) b => (r >>> 8) ^^^ crcTable[(r.toUInt8 ^^^ b).toNat]?.getD 0) 0xFFFFFFFF
    ^^^ 0xFFFFFFFF

/-- The checksum by two sums. -/
def adler32 (bytes : ByteArray) : Nat :=
  let sums := bytes.foldl (fun (s : Nat × Nat) b =>
    let low := (s.1 + b.toNat) % 65521
    (low, (s.2 + low) % 65521)) (1, 0)
  sums.2 * 65536 + sums.1

end Scaffold.Checksum

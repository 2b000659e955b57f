/-
Images of one colour in the portable network graphics format.

* `encode` writes true colour with eight bits a channel, unfiltered and
  uncompressed;
* `decode?` reads an image so written: its size, and the bytes of its pixels.
-/
import Scaffold.Checksum
import Scaffold.Deflate
import Scaffold.Image

namespace Scaffold.Image.Png

/-- What the format starts with. -/
def signature : ByteArray := ⟨#[0x89, 0x50, 0x4E, 0x47, 0x0D, 0x0A, 0x1A, 0x0A]⟩

/-- A part of an image file: its length, kind, content and checksum. -/
def chunk (kind : String) (content : ByteArray) : ByteArray :=
  let body := kind.toUTF8 ++ content
  Bytes.big 4 content.size ++ body ++ Bytes.big 4 (Checksum.crc32 body).toNat

/-- Bytes in a stream with a header and a checksum. -/
def stream (bytes : ByteArray) : ByteArray :=
  ⟨#[0x78, 0x01]⟩ ++ Deflate.store bytes ++ Bytes.big 4 (Checksum.adler32 bytes)

/-- Bytes as many times as asked. -/
def repeated (times : Nat) (bytes : ByteArray) : ByteArray :=
  Nat.repeat (· ++ bytes) times .empty

/-- An image of one colour. -/
def encode (width height : Nat) (color : Color) : ByteArray :=
  let row := ⟨#[0]⟩ ++ repeated width ⟨#[color.red, color.green, color.blue]⟩
  let header := Bytes.big 4 width ++ Bytes.big 4 height ++ ⟨#[8, 2, 0, 0, 0]⟩
  signature ++ chunk "IHDR" header ++ chunk "IDAT" (stream (repeated height row))
    ++ chunk "IEND" .empty

/-- The size and the pixel bytes of an image with a single part of pixel data. -/
def decode? (bytes : ByteArray) : Option (Nat × Nat × ByteArray) := do
  guard ((← Bytes.slice? bytes 0 8) == signature)
  let width ← Bytes.big? bytes 16 4
  let height ← Bytes.big? bytes 20 4
  let size ← Bytes.big? bytes 33 4
  let rows ← Deflate.inflate? (← Bytes.slice? bytes 43 (size - 2))
  let stride := 3 * width + 1
  return (width, height, (List.range height).foldl (fun out i =>
    out ++ rows.extract (i * stride + 1) ((i + 1) * stride)) .empty)

end Scaffold.Image.Png

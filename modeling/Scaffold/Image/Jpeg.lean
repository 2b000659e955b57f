/-
Images of one colour in the baseline format of the joint photographic experts.

Every block of eight by eight pixels of such an image is flat, so that only its
mean is coded: in full for the first block, and as unchanged for all others.
-/
import Scaffold.Bytes
import Scaffold.Image

namespace Scaffold.Image.Jpeg

/-! ### Colour -/

/-- A weighted sum of channels in units of 2⁻¹⁶, rounded. -/
def weighted (color : Color) (red green blue : Int) : Int :=
  (red * color.red.toNat + green * color.green.toNat + blue * color.blue.toNat + 0x8000) / 0x10000

/-- The lightness and the two differences of a colour, around zero. -/
def levels (color : Color) : List Int :=
  [weighted color 19595 38470 7471 - 128,
   weighted color (-11059) (-21709) 32768,
   weighted color 32768 (-27439) (-5329)]

/-! ### Bits -/

/-- The lowest bits of a number, most significant first. -/
def bitsOf (count n : Nat) : List Bool :=
  (List.range count).map fun i => n.testBit (count - 1 - i)

/-- How many words of each length the code of means has. -/
def meanCounts : List Nat := [0, 1, 5, 1, 1, 1, 1, 1, 1, 0, 0, 0, 0, 0, 0, 0]

/-- The word for a mean that takes so many bits. -/
def meanWord (size : Nat) : List Bool :=
  if size == 0 then bitsOf 2 0
  else if size ≤ 5 then bitsOf 3 (size + 1)
  else bitsOf (size - 2) (Nat.pow 2 (size - 2) - 2)

/-- How many bits a mean takes. -/
def sizeOf (n : Nat) : Nat := if n == 0 then 0 else n.log2 + 1

/-- A flat block of the given mean, and the mark that nothing follows in it. -/
def block (mean : Int) : List Bool :=
  let size := sizeOf mean.natAbs
  let value := if mean < 0 then Nat.pow 2 size - 1 - mean.natAbs else mean.natAbs
  meanWord size ++ bitsOf size value ++ [false]

/-- The byte of eight bits. -/
def byteOf (bits : List Bool) : UInt8 :=
  UInt8.ofNat (bits.foldl (fun n b => 2 * n + b.toNat) 0)

/-- Bits as bytes, the last one filled with ones; a zero follows each byte of ones. -/
def pack : Nat → List Bool → List UInt8
  | _, [] => []
  | 0, _ => []
  | bound + 1, bits =>
    let b := byteOf ((bits ++ List.replicate 7 true).take 8)
    (if b == 0xFF then [b, 0] else [b]) ++ pack bound (bits.drop 8)

/-- The bits of all blocks: those of the first three, then zeros, nine for each
later triple. -/
def scan (color : Color) (triples : Nat) : ByteArray :=
  let first := (levels color).flatMap fun level => block (8 * level)
  let zeros := 9 * (triples - 1)
  let fill := min zeros ((8 - first.length % 8) % 8)
  let start := first ++ List.replicate fill false
  let rest := zeros - fill
  ⟨(pack start.length start).toArray⟩ ++ ⟨Array.replicate (rest / 8) 0⟩
    ++ ⟨(pack 1 (List.replicate (rest % 8) false)).toArray⟩

/-! ### Segments -/

/-- A segment of an image file: its mark, length and content. -/
def segment (mark : UInt8) (content : List Nat) : ByteArray :=
  ⟨#[0xFF, mark]⟩ ++ Bytes.big 2 (content.length + 2) ++ ⟨(content.map UInt8.ofNat).toArray⟩

/-- An image of one colour. -/
def encode (width height : Nat) (color : Color) : ByteArray :=
  let triples := ((width + 7) / 8) * ((height + 7) / 8)
  ⟨#[0xFF, 0xD8]⟩
    ++ segment 0xE0 [0x4A, 0x46, 0x49, 0x46, 0, 1, 1, 0, 0, 1, 0, 1, 0, 0]
    ++ segment 0xDB (0 :: List.replicate 64 1)
    ++ segment 0xC0 ([8, height / 256, height % 256, width / 256, width % 256, 3]
      ++ [1, 0x11, 0, 2, 0x11, 0, 3, 0x11, 0])
    ++ segment 0xC4 (0 :: meanCounts ++ List.range 12)
    ++ segment 0xC4 (0x10 :: 1 :: List.replicate 15 0 ++ [0])
    ++ segment 0xDA [3, 1, 0, 2, 0, 3, 0, 0, 63, 0]
    ++ scan color triples ++ ⟨#[0xFF, 0xD9]⟩

/-- The width and height of an image so written. -/
def sizeOf? (bytes : ByteArray) : Option (Nat × Nat) := do
  guard ((← Bytes.big? bytes 0 2) == 0xFFD8)
  return (← Bytes.big? bytes 96 2, ← Bytes.big? bytes 94 2)

end Scaffold.Image.Jpeg

/-
Placeholder images: their size, colour and encoding.

* `Color.ofHex?` reads a colour of three or six digits;
* `Plan.ofTexts` settles an image from the name of its file and texts with
  attributes.
-/
import Scaffold.Markup.Element
import Scaffold.Text.Decimal

namespace Scaffold.Image

open Text

/-- A colour of three channels. -/
structure Color where
  red : UInt8
  green : UInt8
  blue : UInt8
  deriving Repr, DecidableEq

/-- The colour of a background that cannot be read. -/
def Color.grey : Color := ⟨0xCC, 0xCC, 0xCC⟩

/-- A channel from two hexadecimal digits; a plus sign may stand in place of the
first. -/
def channel? (first second : Char) : Option UInt8 := do
  let low ← hexValue? second
  let high ← if first == '+' then some 0 else hexValue? first
  return UInt8.ofNat (16 * high + low)

/-- A colour of three or six hexadecimal digits, after any number signs. -/
def Color.ofHex? (text : String) : Option Color := do
  match (trim text.toList).dropWhile (· == '#') with
  | [r, g, b] => return ⟨← channel? r r, ← channel? g g, ← channel? b b⟩
  | [r, s, g, h, b, c] => return ⟨← channel? r s, ← channel? g h, ← channel? b c⟩
  | _ => none

/-- How an image is written. -/
inductive Encoding where
  | png
  | jpeg
  deriving Repr, DecidableEq

/-- The name of an encoding. -/
def Encoding.name : Encoding → String
  | png => "png"
  | jpeg => "jpeg"

/-- The greatest width and height. -/
def maxDimension : Nat := 10000

/-- What an image looks like. -/
structure Plan where
  width : Nat := 100
  height : Nat := 100
  background : String := "#CCCCCC"
  encoding : Encoding := .png
  deriving Repr, DecidableEq

namespace Plan

/-- The colour of the image. -/
def color (p : Plan) : Color :=
  (Color.ofHex? p.background).getD .grey

/-- A width or height: a number of 32 bits, brought into bounds. -/
def dimension? (value : List Char) : Option Nat := do
  let n ← unsigned? (trim value)
  guard (n < 0x100000000)
  return max 1 (min n maxDimension)

/-- The encoding of a name. -/
def encoding? (value : List Char) : Option Encoding :=
  match String.ofList (asciiLower value) with
  | "png" => some .png
  | "jpg" | "jpeg" => some .jpeg
  | _ => none

/-- The plan with the settings of a text. -/
def apply (p : Plan) (text : String) : Plan :=
  let value? := fun key => Markup.valueOf? key (Markup.attributes text.toList)
  { width := ((value? "width").bind dimension?).getD p.width
    height := ((value? "height").bind dimension?).getD p.height
    background := ((value? "background").map fun v => String.ofList (trim v)).getD p.background
    encoding := ((value? "format").bind encoding?).getD p.encoding }

/-- The encoding that the name of a file asks for. -/
def encodingOfName (name : String) : Encoding :=
  let cs := asciiLower name.toList
  if endsWith ".jpg".toList cs || endsWith ".jpeg".toList cs then .jpeg else .png

/-- The plan of an image from the name of its file and texts with settings, later
ones winning. -/
def ofTexts (name : String) (texts : List String) : Plan :=
  texts.foldl apply { encoding := encodingOfName name }

end Plan

end Scaffold.Image

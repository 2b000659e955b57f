/-
The content of files: whether bytes are text, and how much of a text is shown.
-/

namespace Scaffold.Content

/-- How many bytes of a file are looked at. -/
def sampleSize : Nat := 8192

/-- Control codes other than line ends, tabs and form feeds. -/
def isControlByte (b : UInt8) : Bool :=
  b < 0x20 && b != 0x0A && b != 0x0D && b != 0x09 && b != 0x0C

/-- Bytes are no text if a zero is among the first ones, or more than a tenth of
them are control codes. -/
def isBinary (bytes : ByteArray) : Bool :=
  let sample := (bytes.extract 0 sampleSize).toList
  sample.contains 0 || sample.length < 10 * sample.countP isControlByte

/-- The first characters of a text, and a note when others follow. -/
def truncate (text : String) (limit : Nat) : String :=
  let cs := text.toList
  if cs.length ≤ limit then text
  else String.ofList (cs.take limit) ++ "\n... (truncated)"

end Scaffold.Content

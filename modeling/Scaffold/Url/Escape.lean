/-
Percent signs in addresses.

A byte may be written as a percent sign and two hexadecimal digits. Each part of an
address has its own characters that are written so; bytes outside ASCII always are.
-/
import Scaffold.Text.Ranges

namespace Scaffold.Url

open Text

/-- A digit of base sixteen, capital. -/
def capitalHexDigit (n : Nat) : Char :=
  if n < 10 then Char.ofNat ('0'.toNat + n) else Char.ofNat ('A'.toNat + (n - 10))

/-- A byte as a percent sign and two digits. -/
def escapeByte (b : UInt8) : List Char :=
  ['%', capitalHexDigit (b.toNat / 16), capitalHexDigit (b.toNat % 16)]

/-- A character, escaped if it is a control code, not ASCII, or in the given list. -/
def escapeChar (special : List Char) (c : Char) : List Char :=
  if c.toNat < 0x20 ∨ 0x7F ≤ c.toNat ∨ c ∈ special then
    (String.singleton c).toUTF8.toList.flatMap escapeByte
  else [c]

/-- Characters that are escaped in a fragment. -/
def fragmentSpecials : List Char := " \"<>`".toList

/-- Characters that are escaped in a path. -/
def pathSpecials : List Char := fragmentSpecials ++ "#?\x7b\x7d".toList

/-- Characters that are escaped in a user name or password. -/
def userSpecials : List Char := pathSpecials ++ "/:;=@[\\]^|".toList

/-- Characters that are escaped in a query. -/
def querySpecials : List Char := " \"#<>'".toList

/-- The bytes of a text, with escapes read. -/
def unescape : List Char → List UInt8
  | [] => []
  | '%' :: a :: b :: rest =>
    match hexValue? a, hexValue? b with
    | some high, some low => UInt8.ofNat (16 * high + low) :: unescape rest
    | _, _ => '%'.toNat.toUInt8 :: unescape (a :: b :: rest)
  | c :: rest => (String.singleton c).toUTF8.toList ++ unescape rest

end Scaffold.Url

/-
Numeric addresses of hosts, of four bytes and of eight words.

* `Ipv4.ofHost?` reads an address of four bytes in any of its spellings: one to
  four numbers, each decimal, octal or hexadecimal;
* `Ipv4.ofDotted?` reads its plain spelling only;
* `Ipv6.read?` reads an address of eight words;
* `Ipv4.text` and `Ipv6.text` write the plain spelling.
-/
import Scaffold.Text.Decimal
import Scaffold.Text.Ranges
import Scaffold.Text.Split

namespace Scaffold.Url

open Text

/-- An address of four bytes. -/
structure Ipv4 where
  value : UInt32
  deriving Repr, DecidableEq, Inhabited

/-- An address of eight words. -/
structure Ipv6 where
  words : Vector UInt16 8
  deriving Repr, DecidableEq

namespace Ipv4

/-- The address with four given bytes. -/
def ofBytes (a b c d : Nat) : Ipv4 :=
  ⟨UInt32.ofNat (((a * 256 + b) * 256 + c) * 256 + d)⟩

/-- The bytes of an address. -/
def bytes (a : Ipv4) : List Nat :=
  let n := a.value.toNat
  [n / 0x1000000, n / 0x10000 % 256, n / 0x100 % 256, n % 256]

/-- The four bytes in decimal. -/
def text (a : Ipv4) : List Char :=
  join ['.'] (a.bytes.map digits)

/-! ### Spellings -/

/-- A number of the given base, where every character is a digit of it. -/
def baseNumber? (base : Nat) (cs : List Char) : Option Nat :=
  cs.foldlM (fun n c => ((hexValue? c).filter (· < base)).map fun d => base * n + d) 0

/-- A number with its base: `0x` is hexadecimal, and another zero in front octal. -/
def number? : List Char → Option Nat
  | [] => none
  | '0' :: 'x' :: rest | '0' :: 'X' :: rest => baseNumber? 16 rest
  | '0' :: d :: rest => baseNumber? 8 (d :: rest)
  | cs => baseNumber? 10 cs

/-- The numbers between the points of a host; one empty part at the end does not
count. -/
def numberParts (host : List Char) : List (List Char) :=
  let parts := splitOn '.' host
  if parts.getLast? = some [] then parts.dropLast else parts

/-- Whether a host can only be meant as an address: its last part is a number. -/
def endsInNumber (host : List Char) : Bool :=
  match (numberParts host).getLast? with
  | none => false
  | some last => isDigits last || (number? last).isSome

/-- The address of numbers, of which the last one fills all bytes that are left. -/
def ofNumbers? (numbers : List Nat) : Option Ipv4 :=
  match numbers.reverse with
  | [] => none
  | last :: front =>
    let front := front.reverse
    if 4 < numbers.length ∨ front.any (255 < ·) ∨ Nat.pow 256 (4 - front.length) ≤ last then none
    else
      let high := front.zipIdx.foldl (fun n p => n + p.1 * Nat.pow 256 (3 - p.2)) 0
      some ⟨UInt32.ofNat (high + last)⟩

/-- The address that a host spells. -/
def ofHost? (host : List Char) : Option Ipv4 :=
  ((numberParts host).mapM number?).bind ofNumbers?

/-- A byte in decimal without a needless zero. -/
def byte? (cs : List Char) : Option Nat :=
  if cs.length ≤ 3 ∧ (cs.head? ≠ some '0' ∨ cs.length = 1) then (number? cs).filter (· < 256)
  else none

/-- The address of four bytes in decimal between points. -/
def ofDotted? (cs : List Char) : Option Ipv4 :=
  match splitOn '.' cs with
  | [a, b, c, d] => do return ofBytes (← byte? a) (← byte? b) (← byte? c) (← byte? d)
  | _ => none

end Ipv4

namespace Ipv6

/-- The words of an address. -/
def toList (a : Ipv6) : List Nat :=
  a.words.toList.map UInt16.toNat

/-- The address with given words. -/
def ofWords? (words : List Nat) : Option Ipv6 :=
  let words := words.map UInt16.ofNat
  if h : words.toArray.size = 8 then some ⟨⟨words.toArray, h⟩⟩ else none

/-- The address of four bytes that an address stands for. -/
def mapped? (a : Ipv6) : Option Ipv4 :=
  match a.toList with
  | [0, 0, 0, 0, 0, 0xFFFF, high, low] =>
    some (Ipv4.ofBytes (high / 256) (high % 256) (low / 256) (low % 256))
  | _ => none

/-! ### Reading -/

/-- Up to four digits of base sixteen at the start of a text. -/
def wordDigits (cs : List Char) : List Char :=
  (cs.takeWhile fun c => (hexValue? c).isSome).take 4

/-- The last two words, given as four bytes in decimal. -/
def byteWords? (cs : List Char) : Option (List Nat) := do
  match (← Ipv4.ofDotted? cs).bytes with
  | [a, b, c, d] => some [256 * a + b, 256 * c + d]
  | _ => none

/-- Words between colons, at least one, up to two colons or the end. Gives what
follows two colons, if they were there. -/
def words? : Nat → List Char → Option (List Nat × Option (List Char))
  | 0, _ => none
  | fuel + 1, cs =>
    match byteWords? cs with
    | some words => some (words, none)
    | none =>
      let ds := wordDigits cs
      if ds.isEmpty then none
      else match cs.drop ds.length with
        | [] => some ([hexNumber ds], none)
        | [':'] => none
        | ':' :: ':' :: rest => some ([hexNumber ds], some rest)
        | ':' :: rest => (words? fuel rest).map fun p => (hexNumber ds :: p.1, p.2)
        | _ => none

/-- The words behind two colons. -/
def lastWords? (cs : List Char) : Option (List Nat) :=
  if cs.isEmpty then some []
  else match words? cs.length cs with
    | some (words, none) => some words
    | _ => none

/-- The address with words in front of and behind two colons, which stand for at
least one word of zero. -/
def filled? (front back : List Nat) : Option Ipv6 :=
  if front.length + back.length < 8 then
    ofWords? (front ++ List.replicate (8 - front.length - back.length) 0 ++ back)
  else none

/-- The address of a text. -/
def read? (cs : List Char) : Option Ipv6 :=
  match cs with
  | ':' :: ':' :: rest => (lastWords? rest).bind (filled? [])
  | _ =>
    match words? cs.length cs with
    | some (words, none) => ofWords? words
    | some (front, some rest) => (lastWords? rest).bind (filled? front)
    | none => none

/-! ### Writing -/

/-- The length of the run of zeros at the start of some words. -/
def zeros (words : List Nat) : Nat :=
  (words.takeWhile (· == 0)).length

/-- The start and the length of the first longest run of zeros. -/
def longestZeros (words : List Nat) : Nat × Nat :=
  (List.range words.length).foldl (fun best i =>
    let n := zeros (words.drop i)
    if best.2 < n then (i, n) else best) (0, 0)

/-- Words in hexadecimal with colons between them. -/
def wordsText (words : List Nat) : List Char :=
  join [':'] (words.map (Nat.toDigits 16))

/-- The words in hexadecimal; two colons stand for the first longest run of at
least two zeros. -/
def text (a : Ipv6) : List Char :=
  let words := a.toList
  let (start, length) := longestZeros words
  if length < 2 then wordsText words
  else wordsText (words.take start) ++ "::".toList ++ wordsText (words.drop (start + length))

end Ipv6

end Scaffold.Url

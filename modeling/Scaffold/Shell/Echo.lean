/-
The texts that commands write, with their escapes.

* `echoed` writes the words of `echo`: an escape stands for a character, and one of
  them ends the output;
* `formatted` writes words in a format, which is used again while there are words left.
-/
import Scaffold.Text.Decimal
import Scaffold.Text.Split

namespace Scaffold.Shell

open Text

/-- The bytes of a text. -/
def bytesOf (cs : List Char) : List UInt8 :=
  (String.ofList cs).toUTF8.toList

/-- The byte that a letter behind a backslash stands for. -/
def escapeLetter? : Char → Option UInt8
  | 'a' => some 7
  | 'b' => some 8
  | 't' => some 9
  | 'n' => some 10
  | 'v' => some 11
  | 'f' => some 12
  | 'r' => some 13
  | '\\' => some 92
  | _ => none

/-- The octal digits at the start of a text, three at most. -/
def octalDigits (cs : List Char) : List Char :=
  (cs.take 3).takeWhile fun c => '0' ≤ c && c ≤ '7'

/-- The byte that octal digits write. -/
def octalByte (ds : List Char) : UInt8 :=
  UInt8.ofNat (ds.foldl (fun n d => 8 * n + digitValue d) 0)

/-- The bytes of a text with escapes, and whether the output goes on behind it. Octal
numbers begin with a zero. -/
def withEscapes (bound : Nat) (cs : List Char) : List UInt8 × Bool :=
  match bound, cs with
  | 0, _ | _, [] => ([], true)
  | _ + 1, '\\' :: 'c' :: _ => ([], false)
  | bound + 1, '\\' :: '0' :: rest =>
    let ds := octalDigits rest
    let (bytes, goesOn) := withEscapes bound (rest.drop ds.length)
    (octalByte ds :: bytes, goesOn)
  | bound + 1, '\\' :: c :: rest =>
    match escapeLetter? c with
    | some b =>
      let (bytes, goesOn) := withEscapes bound rest
      (b :: bytes, goesOn)
    | none =>
      let (bytes, goesOn) := withEscapes bound (c :: rest)
      (92 :: bytes, goesOn)
  | bound + 1, c :: rest =>
    let (bytes, goesOn) := withEscapes bound rest
    (bytesOf [c] ++ bytes, goesOn)

/-- What `echo` writes for its words. -/
def echoed (words : List String) : List UInt8 :=
  let (isLine, words) := match words with
    | "-n" :: rest => (false, rest)
    | words => (true, words)
  let text := (" ".intercalate words).toList
  let (bytes, goesOn) := withEscapes text.length text
  bytes ++ if isLine && goesOn then [10] else []

/-- How a value is to be written, as a format says behind a percent sign. -/
structure Directive where
  flags : List Char
  width : Nat
  places : Option Nat
  letter : Char
  deriving Repr, DecidableEq

/-- The directive at the start of a text, and what follows it. -/
def Directive.read? (cs : List Char) : Option (Directive × List Char) :=
  let isFlag (c : Char) : Bool := ['-', '+', ' ', '#', '0'].contains c
  let flags := cs.takeWhile isFlag
  let rest := cs.dropWhile isFlag
  let width := decimalValue (rest.takeWhile Char.isDigit)
  let rest := rest.dropWhile Char.isDigit
  let (places, rest) := match rest with
    | '.' :: rest =>
      (some (decimalValue (rest.takeWhile Char.isDigit)), rest.dropWhile Char.isDigit)
    | rest => (none, rest)
  match rest with
  | letter :: rest => some (⟨flags, width, places, letter⟩, rest)
  | [] => none

/-- The digits of a number in a base up to sixteen. -/
def digitsIn (base n : Nat) : List Char := Nat.toDigits base n

/-- A number as a directive asks for it. -/
def Directive.number (d : Directive) (n : Int) : List Char :=
  let size := if n < 0 && d.letter ≠ 'd' && d.letter ≠ 'i' then (n % 0x10000000000000000).toNat else n.natAbs
  let ds := match d.letter with
    | 'x' => digitsIn 16 size
    | 'X' => (digitsIn 16 size).map Char.toUpper
    | 'o' => digitsIn 8 size
    | _ => digits size
  let ds := padLeft (d.places.getD 0) '0' ds
  let sign := if d.letter = 'd' || d.letter = 'i' then
      if n < 0 then ['-'] else if d.flags.contains '+' then ['+'] else []
    else []
  if d.flags.contains '0' && !d.flags.contains '-' && d.places.isNone then
    sign ++ padLeft (d.width - sign.length) '0' ds
  else sign ++ ds

/-- Bytes filled up to the width of a directive. -/
def Directive.fill (d : Directive) (bytes : List UInt8) : List UInt8 :=
  let blanks := List.replicate (d.width - bytes.length) 32
  if d.flags.contains '-' then bytes ++ blanks else blanks ++ bytes

/-- What a format writes, the words that it leaves, the words that are no numbers, and
whether it was broken off. -/
structure Formatted where
  bytes : List UInt8 := []
  words : List String
  faults : List String := []
  isOver : Bool := false

/-- More bytes in front of what a format writes. -/
def Formatted.after (f : Formatted) (bytes : List UInt8) : Formatted :=
  { f with bytes := bytes ++ f.bytes }

/-- What a word is as a number: a number in decimal or in another base, or the code of
the character behind a quote. -/
def numberOf? (word : List Char) : Option Int :=
  match word with
  | [] => some 0
  | '\'' :: c :: _ | '"' :: c :: _ => some c.toNat
  | '0' :: 'x' :: rest =>
    if rest.isEmpty then none
    else rest.foldlM (fun n c =>
      ("0123456789abcdef".toList.idxOf? c.toLower).map fun d => 16 * n + (d : Int)) 0
  | '0' :: rest =>
    if rest.all fun c => '0' ≤ c && c ≤ '7' then
      some (rest.foldl (fun n c => 8 * n + (digitValue c : Int)) 0)
    else none
  | word => signed? word

/-- What a format says once. -/
def formattedOnce (bound : Nat) (format : List Char) (words : List String) : Formatted :=
  match bound, format with
  | 0, _ | _, [] => { words }
  | bound + 1, '%' :: '%' :: rest => (formattedOnce bound rest words).after [37]
  | bound + 1, '%' :: rest =>
    match Directive.read? rest with
    | none => { words, faults := ["%: invalid directive"], isOver := true }
    | some (d, rest) =>
      let word := (words.head?.getD "").toList
      let cut (cs : List UInt8) := match d.places with
        | some n => cs.take n
        | none => cs
      if ['d', 'i', 'u', 'x', 'X', 'o'].contains d.letter then
        let (value, faults) := match numberOf? word with
          | some n => (n, [])
          | none =>
            let isPart := word.head?.any Char.isDigit
            (((signed? (word.takeWhile Char.isDigit)).getD 0 : Int),
              [String.ofList word ++
                if isPart then ": not completely converted" else ": expected numeric value"])
        let next := formattedOnce bound rest (words.drop 1)
        { next.after (d.fill (bytesOf (d.number value))) with faults := faults ++ next.faults }
      else if d.letter = 's' then
        (formattedOnce bound rest (words.drop 1)).after (d.fill (cut (bytesOf word)))
      else if d.letter = 'c' then
        (formattedOnce bound rest (words.drop 1)).after (d.fill (bytesOf (word.take 1)))
      else if d.letter = 'b' then
        let (bytes, goesOn) := withEscapes word.length word
        if goesOn then (formattedOnce bound rest (words.drop 1)).after (d.fill (cut bytes))
        else { bytes := d.fill (cut bytes), words := [], isOver := true }
      else
        let shown := '%' :: (format.drop 1).take (format.length - 1 - rest.length)
        { words, faults := [String.ofList shown ++ ": invalid directive"], isOver := true }
  | bound + 1, '\\' :: c :: rest =>
    let ds := octalDigits (c :: rest)
    if !ds.isEmpty then
      (formattedOnce bound ((c :: rest).drop ds.length) words).after [octalByte ds]
    else match escapeLetter? c with
      | some b => (formattedOnce bound rest words).after [b]
      | none => (formattedOnce bound (c :: rest) words).after [92]
  | bound + 1, c :: rest => (formattedOnce bound rest words).after (bytesOf [c])

/-- What `printf` writes: its format with its words, again while words are left that
it takes. -/
def formatted (format : List Char) : Nat → List String → Formatted
  | 0, words => { words }
  | bound + 1, words =>
    let first := formattedOnce format.length format words
    if first.isOver || first.words.isEmpty || first.words.length = words.length then first
    else
      let others := formatted format bound first.words
      { others.after first.bytes with faults := first.faults ++ others.faults }

end Scaffold.Shell

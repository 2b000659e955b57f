/-
The normal form of composed characters.

Two spellings of one text differ in whether an accent is part of its letter. The
normal form takes letters apart, sorts the marks after each letter by their class,
and puts together what makes one character.
* `normal` gives the normal form of code points that are no singletons and no
  exceptions from composition;
* syllables of Korean letters are computed, all others are looked up.
-/
import Scaffold.Text.Decimal
import Scaffold.Text.Normal.Table
import Scaffold.Text.Ranges

namespace Scaffold.Text

/-! ### Tables -/

/-- The words of a table. -/
def tableWords (text : String) : List (List Char) :=
  wordsBy (fun c => c == ' ' || c == '\n') text.toList

/-- The parts of a word before and after a separator. -/
def halves (separator : Char) (word : List Char) : List Char × List Char :=
  (word.takeWhile (· != separator), (word.dropWhile (· != separator)).drop 1)

/-- Intervals with their combining class. -/
def combiningClasses : Array (Nat × Nat × Nat) :=
  ((tableWords combiningClassText).map fun word =>
    let (span, number) := halves ':' word
    let (first, last) := spanOfHex span
    (first, last, decimalValue number)).toArray

/-- Composed code points with their parts. -/
def compositions : Array (Nat × Nat × Nat) :=
  ((tableWords compositionText).map fun word =>
    let (whole, parts) := halves '=' word
    let (first, second) := halves '+' parts
    (hexNumber whole, hexNumber first, hexNumber second)).toArray

/-- The class of a mark, and zero for other characters. -/
def combiningClass (n : Nat) : Nat :=
  match combiningClasses.find? fun e => e.1 ≤ n && n ≤ e.2.1 with
  | some e => e.2.2
  | none => 0

/-! ### Syllables -/

/-- The first syllable; all others follow in the order of their three letters. -/
def firstSyllable : Nat := 0xAC00

/-- The first leading letter, of 19. -/
def firstLead : Nat := 0x1100

/-- The first vowel, of 21. -/
def firstVowel : Nat := 0x1161

/-- One less than the first trailing letter, of 27. -/
def firstTrail : Nat := 0x11A7

/-- The letters of a syllable. -/
def syllableParts? (n : Nat) : Option (List Nat) :=
  if firstSyllable ≤ n ∧ n < firstSyllable + 19 * 21 * 28 then
    let i := n - firstSyllable
    let trail := i % 28
    some ([firstLead + i / 588, firstVowel + i % 588 / 28]
      ++ (if trail = 0 then [] else [firstTrail + trail]))
  else none

/-- A syllable of two letters, or of a syllable of two letters and a third. -/
def syllable? (a b : Nat) : Option Nat :=
  if firstLead ≤ a ∧ a < firstLead + 19 ∧ firstVowel ≤ b ∧ b < firstVowel + 21 then
    some (firstSyllable + ((a - firstLead) * 21 + (b - firstVowel)) * 28)
  else if firstSyllable ≤ a ∧ a < firstSyllable + 19 * 21 * 28 ∧ (a - firstSyllable) % 28 = 0
      ∧ firstTrail < b ∧ b < firstTrail + 28 then
    some (a + (b - firstTrail))
  else none

/-! ### The normal form -/

/-- A code point taken apart. No character is composed in more steps than the
fuel that `normal` gives. -/
def takeApart : Nat → Nat → List Nat
  | 0, n => [n]
  | fuel + 1, n =>
    match syllableParts? n with
    | some parts => parts
    | none =>
      match compositions.find? fun e => e.1 == n with
      | some (_, first, second) => takeApart fuel first ++ [second]
      | none => [n]

/-- Puts a code point behind others, given in reverse: a mark goes in front of
marks of greater class. -/
def placeMark (n : Nat) : List Nat → List Nat
  | [] => [n]
  | m :: rest =>
    let k := combiningClass n
    if 0 < k ∧ k < combiningClass m then m :: placeMark n rest else n :: m :: rest

/-- The code point that two code points compose. -/
def composed? (a b : Nat) : Option Nat :=
  (syllable? a b).or ((compositions.find? fun e => e.2.1 == a && e.2.2 == b).map Prod.fst)

/-- Composes a letter with what follows. `marks` holds, in reverse, the marks
behind the letter that did not compose, and `last` the class of the latest. -/
def composeFrom (letter : Nat) (marks : List Nat) (last : Nat) : List Nat → List Nat
  | [] => letter :: marks.reverse
  | n :: rest =>
    let k := combiningClass n
    let one := if marks.isEmpty ∨ last < k then composed? letter n else none
    match one with
    | some whole => composeFrom whole marks last rest
    | none =>
      if k = 0 then letter :: marks.reverse ++ composeFrom n [] 0 rest
      else composeFrom letter (n :: marks) k rest

/-- Composes every letter; marks without a letter in front stay. -/
def compose : List Nat → List Nat
  | [] => []
  | n :: rest => if combiningClass n = 0 then composeFrom n [] 0 rest else n :: compose rest

/-- The normal form of code points. -/
def normal (codes : List Nat) : List Nat :=
  compose ((codes.flatMap (takeApart 8)).foldl (fun done n => placeMark n done) []).reverse

end Scaffold.Text

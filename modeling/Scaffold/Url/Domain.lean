/-
Domain names in ASCII.

A domain name may be written in any script. `toAscii?` maps its characters to those
that stand for them, brings it to normal form, and writes each label that is not
ASCII with the mark `xn--` in front. A name is refused when
* a character is refused, or a label starts with a combining mark;
* a joiner stands where nothing joins, or a label mixes writing directions;
* a marked label does not stand for a label that needs the mark.
-/
import Scaffold.Pattern.Property
import Scaffold.Text.Normal
import Scaffold.Url.Domain.Direction
import Scaffold.Url.Domain.Punycode
import Scaffold.Url.Domain.Table

namespace Scaffold.Url.Domain

open Text

/-! ### Mapping -/

/-- A run: the first of successive code points, and their images. -/
structure Run where
  first : Nat
  images : Array (List Nat)

/-- A run written in hexadecimal. -/
def Run.ofWord (word : List Char) : Run :=
  let (first, images) := halves '=' word
  ⟨hexNumber first,
    ((splitOn ',' images).map fun image => (splitOn '+' image).map hexNumber).toArray⟩

/-- The runs of the mapping. -/
def runs : Array Run :=
  ((tableWords mappingRuns).map Run.ofWord).toArray

/-- The image of a code point in a run. -/
def Run.image? (r : Run) (n : Nat) : Option (List Nat) :=
  if r.first ≤ n then r.images[n - r.first]? else none

/-- The code points that a code point stands for; none if it is refused. -/
def mapCode (n : Nat) : Option (List Nat) :=
  if refusedRanges.containsCode n then none
  else if ignoredRanges.containsCode n then some []
  else some <|
    ((mappingShifts.findSome? fun s => (s.image? n).map fun m => [m]).or
      (runs.findSome? fun r => r.image? n)).getD [n]

/-! ### Labels -/

/-- Whether a code point is ASCII. -/
def isAscii (n : Nat) : Bool :=
  n < 0x80

/-- The combining marks of all kinds. -/
def markSet : Pattern.CharSet :=
  Pattern.categoriesSet ["mn", "mc", "me"]

/-- The class of the marks that join consonants. -/
def joiningClass : Nat := 9

/-- Whether a joiner may stand between what is in front, in reverse, and what
follows: after a mark that joins consonants, or, without joining, between letters
that would join. -/
def joinerAllowed (joins : Bool) (front rest : List Nat) : Bool :=
  (match front with
    | n :: _ => combiningClass n == joiningClass
    | [] => false)
  || (!joins
    && ((front.dropWhile transparentRanges.containsCode).head?.any joinsLeftRanges.containsCode)
    && ((rest.dropWhile transparentRanges.containsCode).head?.any joinsRightRanges.containsCode))

/-- Whether every joiner of a label may stand where it does, where `front` is the
start of the label in reverse. -/
def joinersAllowed (front : List Nat) : List Nat → Bool
  | [] => true
  | n :: rest =>
    (if n = 0x200C then joinerAllowed false front rest
      else if n = 0x200D then joinerAllowed true front rest
      else true)
    && joinersAllowed (n :: front) rest

/-- The writing direction of a character. -/
inductive Direction where
  | left
  | right
  | arabicNumber
  | europeanNumber
  | mark
  | neutral
  deriving DecidableEq, Repr

/-- The writing direction of a code point. -/
def direction (n : Nat) : Direction :=
  if rightToLeftRanges.containsCode n then .right
  else if arabicNumberRanges.containsCode n then .arabicNumber
  else if europeanNumberRanges.containsCode n then .europeanNumber
  else if nonspacingRanges.containsCode n then .mark
  else if neutralRanges.containsCode n then .neutral
  else .left

/-- The direction that a label ends with, marks aside. -/
def lastDirection? (directions : List Direction) : Option Direction :=
  (directions.reverse.dropWhile (· == .mark)).head?

/-- Whether a label keeps to one direction. -/
def isOneWay (label : List Nat) : Bool :=
  let ds := label.map direction
  match ds.head? with
  | none => true
  | some .right =>
    !ds.contains .left
      && (lastDirection? ds).any (fun d => d == .right || d == .europeanNumber || d == .arabicNumber)
      && !(ds.contains .europeanNumber && ds.contains .arabicNumber)
  | some .left =>
    !ds.contains .right && !ds.contains .arabicNumber
      && (lastDirection? ds).any (fun d => d == .left || d == .europeanNumber)
  | some _ => false

/-- Whether a label is part of a name that is written from right to left. -/
def isRightToLeft (label : List Nat) : Bool :=
  label.any fun n => direction n == .right || direction n == .arabicNumber

/-- Whether a label that is not ASCII may be part of a name. -/
def isLabel (label : List Nat) : Bool :=
  !(label.head?.any fun n => Pattern.CharSet.contains markSet n) && joinersAllowed [] label

/-- The mark of a label that was written in ASCII. -/
def mark : List Char := "xn--".toList

/-- The label that a label stands for: a marked one is read, and must be a label
in normal form that needs its mark. -/
def expandLabel? (label : List Nat) : Option (List Nat) :=
  match after? mark (label.map Char.ofNat) with
  | none => some label
  | some body => do
    let codes := (← Punycode.decode? body).map Char.toNat
    if codes.all isAscii || normal codes != codes || codes.any (fun n => mapCode n != some [n]) then
      none
    else some codes

/-- A label in ASCII. -/
def asciiLabel (label : List Nat) : List Char :=
  let cs := label.map Char.ofNat
  if label.all isAscii then cs else mark ++ Punycode.encode cs

/-- The ASCII characters that no domain name has. -/
def isForbidden (c : Char) : Bool :=
  c.toNat ≤ 0x20 || c.toNat == 0x7F || "%#/:<>?@[\\]^|".toList.contains c

/-- The ASCII form of a domain name. -/
def toAscii? (cs : List Char) : Option (List Char) := do
  let mapped ← cs.mapM fun c => mapCode c.toNat
  let codes := normal mapped.flatten
  let labels ← (splitLabels codes).mapM expandLabel?
  let plain := labels.all fun label => label.all isAscii || isLabel label
  let oneWay := !labels.any isRightToLeft || labels.all isOneWay
  let ascii := join ['.'] (labels.map asciiLabel)
  if plain && oneWay && !ascii.any isForbidden then some ascii else none
where
  /-- The labels between the points of a name. -/
  splitLabels (codes : List Nat) : List (List Nat) :=
    (splitOn '.' (codes.map Char.ofNat)).map fun label => label.map Char.toNat

end Scaffold.Url.Domain

/-
Deciding whether a pattern occurs in a text.

A pattern becomes a program of small steps, and all places the program can be at
are followed together while the text is read once.

* `Expr.weight` estimates the memory of a program without building it;
* `Program.ofExpr` builds the program;
* `Program.occursIn` runs it.
-/
import Scaffold.Pattern.Property
import Scaffold.Pattern.Syntax

namespace Scaffold.Pattern

open Text

/-! ### Weight -/

/-- The number of bytes of a code point in UTF-8. -/
def encodedSize (n : Nat) : Nat :=
  if n < 0x80 then 1 else if n < 0x800 then 2 else if n < 0x10000 then 3 else 4

/-- The memory of one step of a program. -/
def stepWeight : Nat := 32

/-- The memory that the steps for a set of characters take. -/
def setWeight (s : CharSet) : Nat :=
  match s with
  | [] => stepWeight
  | [(a, b)] => if a == b then stepWeight * encodedSize a else stepWeight * encodedSize b
  | _ =>
    if CharSet.isAscii s then stepWeight + 8 * s.length
    else s.foldl (fun n (_, b) => n + 8 * encodedSize b) 0 + stepWeight * 4

/-- The memory of the program of a pattern. -/
def Expr.weight : Expr → Nat
  | .empty => stepWeight
  | .chars s => setWeight s
  | .look _ => stepWeight
  | .seq a b => a.weight + b.weight
  | .alt a b => a.weight + b.weight + stepWeight
  | .group e => e.weight + 2 * stepWeight
  | .rep e low high =>
    match high with
    | none => max low 1 * e.weight + stepWeight
    | some high => low * e.weight + (high - low) * (e.weight + stepWeight) + stepWeight

/-- The memory that a program may take. -/
def maxWeight : Nat := 10485760

/-! ### Programs -/

/-- One step of a program; numbers are positions in the program. -/
inductive Step where
  | char (set : Ranges) (next : Nat)
  | look (l : Look) (next : Nat)
  | split (first second : Nat)
  | done

/-- A program, built from its end. -/
abbrev Steps := Array Step

/-- Adds a step and gives its position. -/
def addStep (p : Steps) (s : Step) : Nat × Steps :=
  (p.size, p.push s)

/-- Adds a piece of program several times, each in front of the one before. -/
def addTimes (add : Nat → Steps → Nat × Steps) : Nat → Nat → Steps → Nat × Steps
  | 0, next, p => (next, p)
  | n + 1, next, p =>
    let (start, p) := add next p
    addTimes add n start p

/-- Adds the program of a pattern in front of the step at `next`, and gives the
position where it starts. -/
def Expr.add : Expr → Nat → Steps → Nat × Steps
  | .empty, next, p => (next, p)
  | .chars s, next, p => addStep p (.char ⟨s.toArray⟩ next)
  | .look l, next, p => addStep p (.look l next)
  | .seq a b, next, p =>
    let (middle, p) := b.add next p
    a.add middle p
  | .alt a b, next, p =>
    let (first, p) := a.add next p
    let (second, p) := b.add next p
    addStep p (.split first second)
  | .group e, next, p => e.add next p
  | .rep e low none, next, p =>
    let (loop, p) := addStep p .done
    let (body, p) := e.add loop p
    addTimes (fun next p => e.add next p) low loop (p.setIfInBounds loop (.split body next))
  | .rep e low (some high), next, p =>
    let option := fun inner p =>
      let (body, p) := e.add inner p
      addStep p (.split body next)
    let (start, p) := addTimes option (high - low) next p
    addTimes (fun next p => e.add next p) low start p

/-- A program with the position where it starts. -/
structure Program where
  steps : Steps
  start : Nat

/-- The program of a pattern. -/
def Program.ofExpr (e : Expr) : Program :=
  let (done, p) := addStep #[] .done
  let (start, p) := e.add done p
  ⟨p, start⟩

/-! ### Running -/

/-- The sets of word characters. -/
structure WordSets where
  unicode : Ranges
  ascii : Ranges

/-- The word characters, ready for look-up. -/
def wordSets : WordSets :=
  ⟨⟨wordSet.toArray⟩, ⟨asciiWordSet.toArray⟩⟩

/-- Whether a neighbour of a place is a word character. -/
def isWordNeighbour (unicode : Bool) (c : Option Char) : Bool :=
  match c with
  | none => false
  | some c => if unicode then wordSets.unicode.contains c else wordSets.ascii.contains c

/-- Whether a condition holds between two neighbours; where there is none, the
text starts or ends. -/
def Look.holds (before after : Option Char) : Look → Bool
  | .textStart => before.isNone
  | .textEnd => after.isNone
  | .lineStart => before.isNone || before = some '\n'
  | .lineEnd => after.isNone || after = some '\n'
  | .lineStartCrlf =>
    before.isNone || before = some '\n' || (before = some '\r' && after != some '\n')
  | .lineEndCrlf =>
    after.isNone || after = some '\r' || (after = some '\n' && before != some '\r')
  | .wordBoundary u => isWordNeighbour u before != isWordNeighbour u after
  | .notWordBoundary u => isWordNeighbour u before == isWordNeighbour u after
  | .wordStart u => !isWordNeighbour u before && isWordNeighbour u after
  | .wordEnd u => isWordNeighbour u before && !isWordNeighbour u after
  | .wordStartHalf u => !isWordNeighbour u before
  | .wordEndHalf u => !isWordNeighbour u after

/-- The places of a run between two characters: those that wait for a character,
a mark for each place that was seen in the current round, and whether the end of
the program was reached. -/
structure Places where
  waiting : List Nat
  seen : Array Nat
  found : Bool

/-- Follows all steps that take no character from the places on a stack. Places
seen in the same round are left out, so the fuel is the number of pushes. -/
def follow (p : Steps) (before after : Option Char) (round : Nat) :
    Nat → List Nat → Places → Places
  | 0, _, places => places
  | _, [], places => places
  | fuel + 1, pc :: stack, places =>
    if places.seen[pc]? = some round then follow p before after round fuel stack places
    else
      let places := { places with seen := places.seen.setIfInBounds pc round }
      match p[pc]? with
      | none => follow p before after round fuel stack places
      | some (.char _ _) =>
        follow p before after round fuel stack { places with waiting := pc :: places.waiting }
      | some (.look l next) =>
        if l.holds before after then follow p before after round fuel (next :: stack) places
        else follow p before after round fuel stack places
      | some (.split a b) => follow p before after round fuel (a :: b :: stack) places
      | some .done => { places with found := true }

/-- The places after a character. -/
def advance (p : Steps) (c : Char) (waiting : List Nat) : List Nat :=
  waiting.filterMap fun (pc : Nat) =>
    match p[pc]? with
    | some (.char set next) => if set.contains c then some next else none
    | _ => none

/-- Whether the program reaches its end from the given places or from its start
at this or a later place of the text. -/
def Program.search (p : Program) (before : Option Char) (round : Nat) (active : List Nat)
    (seen : Array Nat) : List Char → Bool
  | [] =>
    (follow p.steps before none round (2 * p.steps.size + active.length + 2)
      (p.start :: active) ⟨[], seen, false⟩).found
  | c :: rest =>
    let places := follow p.steps before (some c) round (2 * p.steps.size + active.length + 2)
      (p.start :: active) ⟨[], seen, false⟩
    places.found
      || p.search (some c) (round + 1) (advance p.steps c places.waiting) places.seen rest

/-- Whether the pattern of a program occurs in a text. -/
def Program.occursIn (p : Program) (cs : List Char) : Bool :=
  p.search none 1 [] (Array.replicate p.steps.size 0) cs

end Scaffold.Pattern

/-
Changing text line by line.

The bytes of a text are its characters here.

* `firstPart` and `lastPart` are a part of a text, `sorted` and `distinct` order its lines;
* `cutFields` and `exchanged` change what is in them;
* an `Edit` is an order for some lines, and `edited` carries orders out.
-/
import Scaffold.Shell.Files
import Scaffold.Shell.LinePattern

namespace Scaffold.Shell

open Text

/-! ### Lines -/

/-- The lines of a text, without their ends. -/
def linesOf (cs : List Char) : List (List Char) :=
  let lines := splitOn '\n' cs
  if lines.getLast? = some [] then lines.dropLast else lines

/-- The text of some lines. -/
def ofLines (lines : List (List Char)) : List Char :=
  lines.flatMap (· ++ ['\n'])

/-- The lines of a text with their ends; the last one need not have one. -/
def fullLines (cs : List Char) : List (List Char) :=
  let lines := splitOn '\n' cs
  lines.dropLast.map (· ++ ['\n']) ++ (lines.getLast?.toList.filter (· ≠ []))


/-! ### Parts of a text -/

/-- The first lines or bytes of a text; with `fromEnd` all but the last. -/
def firstPart (inBytes fromEnd : Bool) (n : Nat) (cs : List Char) : List Char :=
  if inBytes then cs.take (if fromEnd then cs.length - n else n)
  else
    let lines := fullLines cs
    (lines.take (if fromEnd then lines.length - n else n)).flatten

/-- The last lines or bytes of a text; with `fromStart` all from the given one on. -/
def lastPart (inBytes fromStart : Bool) (n : Nat) (cs : List Char) : List Char :=
  if inBytes then cs.drop (if fromStart then n - 1 else cs.length - n)
  else
    let lines := fullLines cs
    (lines.drop (if fromStart then n - 1 else lines.length - n)).flatten

/-! ### Order -/

/-- The number at the start of a line. -/
def leadingNumber (line : List Char) : Int :=
  match line.dropWhile (· == ' ') with
  | '-' :: rest => -(decimalValue (rest.takeWhile Char.isDigit) : Int)
  | rest => decimalValue (rest.takeWhile Char.isDigit)

/-- Whether a line comes before another or is equal to it. -/
def lineLe (a b : List Char) : Bool := !decide (b < a)

/-- The lines of a text in order. -/
def sorted (options : Options) (cs : List Char) : List Char :=
  let fold (line : List Char) := if options.has 'f' then line.map Char.toUpper else line
  let le (a b : List Char) : Bool :=
    if options.has 'n' then
      let m := leadingNumber a
      let n := leadingNumber b
      m < n || m = n && (options.has 'u' || lineLe a b)
    else if fold a = fold b then options.has 'u' || lineLe a b
    else lineLe (fold a) (fold b)
  let lines := (linesOf cs).mergeSort fun a b => if options.has 'r' then le b a else le a b
  let same (a b : List Char) : Bool :=
    if options.has 'n' then leadingNumber a = leadingNumber b else fold a = fold b
  let kept := if !options.has 'u' then lines
    else lines.foldr (fun line rest =>
        line :: match rest with
          | next :: others => if same line next then others else rest
          | [] => [])
      []
  ofLines kept

/-- Neighbours that are equal, with their number. -/
def runsOf : List (List Char) → List (Nat × List Char)
  | [] => []
  | line :: rest =>
    match runsOf rest with
    | (n, next) :: others => if line = next then (n + 1, line) :: others else (1, line) :: (n, next) :: others
    | [] => [(1, line)]

/-- The lines of a text, those that follow an equal one left out. -/
def distinct (options : Options) (cs : List Char) : List Char :=
  let runs := (runsOf (linesOf cs)).filter fun (n, _) =>
    !(options.has 'd' && n = 1) && !(options.has 'u' && 1 < n)
  ofLines (runs.map fun (n, line) =>
    if options.has 'c' then padLeft 7 ' ' (digits n) ++ ' ' :: line else line)

/-! ### Fields -/

/-- The ranges of a list such as `1,3-5,7-`. -/
def rangesOf? (cs : List Char) : Option (List (Nat × Option Nat)) :=
  (splitOn ',' cs).mapM fun part =>
    match splitOnce '-' part with
    | none => (number? part).map fun n => (n, some n)
    | some ([], high) => (number? high).map fun n => (1, some n)
    | some (low, []) => (number? low).map fun n => (n, none)
    | some (low, high) => do
      let m ← number? low
      let n ← number? high
      return (m, some n)

/-- Whether a position is in one of some ranges. -/
def inRanges (ranges : List (Nat × Option Nat)) (i : Nat) : Bool :=
  ranges.any fun (low, high) => low ≤ i && high.all (i ≤ ·)

/-- The fields of a line between marks. A line without a mark is kept whole, or left
out. -/
def cutFields (mark : Char) (onlyMarked : Bool) (ranges : List (Nat × Option Nat))
    (line : List Char) : Option (List Char) :=
  if !line.contains mark then if onlyMarked then none else some line
  else
    let fields := (splitOn mark line).zipIdx.filter fun (_, i) => inRanges ranges (i + 1)
    some (join [mark] (fields.map Prod.fst))

/-- The bytes of a line at some positions. -/
def cutBytes (ranges : List (Nat × Option Nat)) (line : List Char) : List Char :=
  (line.zipIdx.filter fun (_, i) => inRanges ranges (i + 1)).map Prod.fst

/-! ### Characters -/

/-- The characters that a set names: single ones, ranges, classes and escapes. -/
def setChars : List Char → List Char
  | [] => []
  | '[' :: ':' :: rest =>
    let name := rest.takeWhile (· != ':')
    match Wildcard.classes.find? fun entry => entry.1 = name with
    | some (_, ranges) =>
      let found := (ranges.flatMap fun (a, b) =>
        (List.range' a.toNat (b.toNat + 1 - a.toNat)).map Char.ofNat)
      found.mergeSort (fun a b => decide (a ≤ b)) ++ setChars (rest.drop (name.length + 2))
    | none => '[' :: ':' :: setChars rest
  | '\\' :: c :: rest =>
    let meant := match c with
      | 'n' => '\n'
      | 't' => '\t'
      | 'r' => '\r'
      | '0' => '\x00'
      | c => c
    meant :: setChars rest
  | a :: '-' :: b :: rest =>
    (List.range' a.toNat (b.toNat + 1 - a.toNat)).map Char.ofNat ++ setChars rest
  | c :: rest => c :: setChars rest
termination_by cs => cs.length
decreasing_by
  all_goals simp_wf
  all_goals omega

/-- Equal neighbours of a set become one. -/
def squeezed (set : List Char) : List Char → List Char
  | [] => []
  | c :: rest =>
    if set.contains c && rest.head? = some c then squeezed set rest else c :: squeezed set rest

/-- A text with its characters exchanged, removed or squeezed. -/
def exchanged (options : Options) (first : List Char) (second : Option (List Char))
    (cs : List Char) : List Char :=
  let named := setChars first
  let isFrom (c : Char) : Bool := named.contains c != (options.has 'c' || options.has 'C')
  let others := (second.map setChars).getD []
  if options.has 'd' then
    let kept := cs.filter fun c => !isFrom c
    if options.has 's' then squeezed others kept else kept
  else
    match second with
    | none =>
      if options.has 's' then
        cs.foldr (fun c rest => if isFrom c && rest.head? = some c then rest else c :: rest) []
      else cs
    | some _ =>
      let new := cs.map fun c =>
        if !isFrom c then c
        else
          let i := if options.has 'c' || options.has 'C' then others.length - 1 else named.idxOf c
          (others[i]? <|> others.getLast?).getD c
      if options.has 's' then squeezed others new else new

/-! ### Counts -/

/-- The words of a text. -/
def wordsOf (cs : List Char) : Nat :=
  ((splitBy (fun c => c == ' ' || ('\t' ≤ c && c ≤ '\r')) cs).filter (· ≠ [])).length

/-- The counts of a text that are asked for. -/
def countsOf (options : Options) (cs : List Char) : List Nat :=
  let asked := ['l', 'w', 'm', 'c'].filter options.has
  let asked := if asked.isEmpty then ['l', 'w', 'c'] else asked
  asked.map fun
    | 'l' => cs.count '\n'
    | 'w' => wordsOf cs
    | _ => cs.length

/-! ### Editing -/

/-- Which lines an order is for. -/
inductive Address where
  | line (n : Nat)
  | last
  | found (pattern : LinePattern)
  deriving Repr, Inhabited

/-- What is done with a line. -/
inductive Order where
  | replace (pattern : LinePattern) (new : List Char) (all : Bool) (skipped : Nat) (prints : Bool)
  | delete
  | print
  | quit
  | number
  deriving Repr, Inhabited

/-- An order with the lines that it is for. -/
structure Edit where
  start : Option Address
  stop : Option Address
  isNegated : Bool
  order : Order
  deriving Repr, Inhabited

/-- Text up to a mark that no backslash hides, and what follows it. A backslash in front
of the mark goes away. -/
def upTo? (mark : Char) : List Char → Option (List Char × List Char)
  | [] => none
  | '\\' :: c :: rest =>
    (upTo? mark rest).map fun found =>
      (if c == mark then (c :: found.1, found.2) else ('\\' :: c :: found.1, found.2))
  | c :: rest =>
    if c == mark then some ([], rest)
    else (upTo? mark rest).map fun found => (c :: found.1, found.2)

/-- The address at the start of a text, and what follows it. -/
def address? (isExtended : Bool) : List Char → Option (Address × List Char)
  | '$' :: rest => some (.last, rest)
  | '/' :: rest => do
    let (text, rest) ← upTo? '/' rest
    let pattern ← LinePattern.read? isExtended text
    return (.found pattern, rest)
  | cs => do
    let n ← number? (cs.takeWhile Char.isDigit)
    return (.line n, cs.dropWhile Char.isDigit)

/-- The order at the start of a text, and what follows it. -/
def order? (isExtended : Bool) : List Char → Option (Order × List Char)
  | 'd' :: rest => some (.delete, rest)
  | 'p' :: rest => some (.print, rest)
  | 'q' :: rest => some (.quit, rest)
  | '=' :: rest => some (.number, rest)
  | 's' :: mark :: rest => do
    let (old, rest) ← upTo? mark rest
    let (new, rest) ← upTo? mark rest
    let pattern ← LinePattern.read? isExtended old
    let flags := rest.takeWhile fun c => c.isAlphanum
    let times := decimalValue (flags.filter Char.isDigit)
    return (.replace pattern new (flags.contains 'g') (times - 1) (flags.contains 'p'),
      rest.drop flags.length)
  | _ => none

/-- The orders of a text, in at most `bound` steps. -/
def edits? (isExtended : Bool) : Nat → List Char → Option (List Edit)
  | 0, _ => none
  | bound + 1, cs => do
    match cs.dropWhile fun c => c == ' ' || c == ';' || c == '\n' with
    | [] => return []
    | cs =>
      let (start, rest) := match address? isExtended cs with
        | some (a, rest) => (some a, rest)
        | none => (none, cs)
      let (stop, rest) := match rest with
        | ',' :: rest => match address? isExtended rest with
          | some (a, rest) => (some a, rest)
          | none => (none, rest)
        | _ => (none, rest)
      let (isNegated, rest) := match rest with
        | '!' :: rest => (true, rest)
        | _ => (false, rest)
      let (order, rest) ← order? isExtended (rest.dropWhile (· == ' '))
      return ⟨start, stop, isNegated, order⟩ :: (← edits? isExtended bound rest)

/-- Whether an address is that of a line. -/
def Address.isAt (isLast : Bool) (n : Nat) (text : List Char) : Address → Bool
  | .line m => m = n
  | .last => isLast
  | .found pattern => pattern.occursIn text

/-- Whether an order is for a line, and whether its range is open behind the line. -/
def Edit.isFor (e : Edit) (isOpen isLast : Bool) (n : Nat) (text : List Char) : Bool × Bool :=
  let (inside, stays) := match e.start, e.stop with
    | none, _ => (true, false)
    | some a, none => (a.isAt isLast n text, false)
    | some a, some b =>
      if isOpen then (true, !(b.isAt isLast n text || match b with
        | .line m => m ≤ n
        | _ => false))
      else if a.isAt isLast n text then (true, match b with
        | .line m => n < m
        | _ => true)
      else (false, false)
  (inside != e.isNegated, stays)

/-- What orders make of a line: its text unless it was deleted, what was written in
front of it, and whether it is the last one. The marks tell which ranges are open. -/
def applyEdits (isLast : Bool) (n : Nat) :
    List (Edit × Bool) → List Char → Option (List Char) × List Char × Bool × List Bool
  | [], text => (some text, [], false, [])
  | (e, isOpen) :: rest, text =>
    let (applies, stays) := e.isFor isOpen isLast n text
    let goOn (text written : List Char) (ends : Bool) :=
      let (result, more, isOver, marks) := applyEdits isLast n rest text
      (result, written ++ more, ends || isOver, stays :: marks)
    if !applies then goOn text [] false
    else match e.order with
      | .delete => (none, [], false, stays :: rest.map Prod.snd)
      | .print => goOn text (text ++ ['\n']) false
      | .number => goOn text (digits n ++ ['\n']) false
      | .quit => (some text, [], true, stays :: rest.map Prod.snd)
      | .replace pattern new all skipped prints =>
        let (text, isChanged) := pattern.replace new all skipped text
        goOn text (if prints && isChanged then text ++ ['\n'] else []) false

/-- Lines changed by orders, from a number on. A quiet run writes only what is asked
for. -/
def editLines (isQuiet : Bool) (edits : List Edit) : Nat → List Bool → List (List Char) → List Char
  | _, _, [] => []
  | n, marks, line :: rest =>
    let (result, written, ends, marks) := applyEdits rest.isEmpty n (edits.zip marks) line
    let shown := match result with
      | some text => if isQuiet then [] else text ++ ['\n']
      | none => []
    written ++ shown ++ if ends then [] else editLines isQuiet edits (n + 1) marks rest

/-- A text changed by orders. A last line without an end keeps to that. -/
def edited (isQuiet : Bool) (edits : List Edit) (cs : List Char) : List Char :=
  let new := editLines isQuiet edits 1 (edits.map fun _ => false) (linesOf cs)
  if cs.getLast? ≠ some '\n' && new.getLast? = some '\n' then new.dropLast else new

end Scaffold.Shell

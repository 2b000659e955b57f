/-
Reading pattern texts.

A pattern is read in one pass. Groups, classes and alternations that are open
are kept on stacks, so that every step takes at least one character.

* `Flags` are the modes that a pattern may switch;
* `readEscape`, `readClass` and `readRepetition` read one construct each;
* `Expr.read?` reads a whole pattern, and fails where the text is no pattern.
-/
import Scaffold.Pattern.Property
import Scaffold.Pattern.Syntax
import Scaffold.Text.Blank
import Scaffold.Text.Decimal

namespace Scaffold.Pattern

open Text

/-- The modes of a pattern. -/
structure Flags where
  ignoreCase : Bool := false
  multiLine : Bool := false
  dotAll : Bool := false
  swapGreed : Bool := false
  unicode : Bool := true
  crlf : Bool := false
  verbose : Bool := false
  deriving Repr

/-! ### Characters -/

/-- The rest of a text after blanks and comments, which verbose mode ignores.
`comment` holds inside a comment. -/
def skipVerbose (comment : Bool) : List Char → List Char
  | [] => []
  | c :: rest =>
    if comment then skipVerbose (c != '\n') rest
    else if isBlank c then skipVerbose false rest
    else if c == '#' then skipVerbose true rest
    else c :: rest

/-- The rest of a text after what the current mode ignores. -/
def skip (f : Flags) (cs : List Char) : List Char :=
  if f.verbose then skipVerbose false cs else cs

/-- Characters with a meaning of their own in patterns. -/
def isMeta (c : Char) : Bool :=
  "\\.+*?()|[]\x7b\x7d^$#&-~".toList.contains c

/-- Characters that a backslash may precede without giving them a meaning. -/
def isEscapable (c : Char) : Bool :=
  isMeta c || (c.toNat < 0x80 && !c.isAlphanum && c != '<' && c != '>')

/-- The code point written by hexadecimal digits, if it is a character. -/
def charOfHex? (ds : List Char) : Option Char :=
  let n := hexNumber ds
  if ds.isEmpty || !ds.all fun c => (hexValue? c).isSome then none
  else if h : n.isValidChar then some (Char.ofNatAux n h) else none

/-- Characters up to a closing brace, with what the mode ignores left out, and
what follows the brace. -/
def untilBrace? (f : Flags) (fuel : Nat) (cs : List Char) : Option (List Char × List Char) :=
  match fuel, cs with
  | _, [] | 0, _ => none
  | _ + 1, '}' :: rest => some ([], rest)
  | fuel + 1, c :: rest =>
    (untilBrace? f fuel (skip f rest)).map fun (inner, tail) => (c :: inner, tail)

/-- A given number of characters, with what the mode ignores left out. -/
def takeDigits? (f : Flags) : Nat → List Char → Option (List Char × List Char)
  | 0, cs => some ([], cs)
  | _ + 1, [] => none
  | n + 1, c :: rest =>
    (takeDigits? f n (if n = 0 then rest else skip f rest)).map fun (inner, tail) =>
      (c :: inner, tail)

/-! ### Escapes -/

/-- What one escape, dot or ordinary character means. -/
inductive Primitive where
  | char (c : Char)
  | set (s : CharSet)
  | look (l : Look)

/-- A character written by its number after `x`, `u` or `U`. -/
def readHex? (f : Flags) (digits : Nat) (cs : List Char) : Option (Char × List Char) := do
  match skip f cs with
  | '{' :: body =>
    let (ds, rest) ← untilBrace? f (body.length + 1) (skip f body)
    some (← charOfHex? ds, skip f rest)
  | body =>
    let (ds, rest) ← takeDigits? f digits body
    some (← charOfHex? ds, skip f rest)

/-- The set of a property in braces: a name, or a kind and a value joined by an
equals sign, a colon, or a sign of inequality. The flag tells a negation. -/
def propertyOfText? (cs : List Char) : Option (CharSet × Bool) :=
  let split (sep : List Char) : Option (List Char × List Char) :=
    (List.range (cs.length + 1)).findSome? fun k =>
      (after? sep (cs.drop k)).map fun rest => (cs.take k, rest)
  match split "!=".toList with
  | some (kind, value) => (propertyValue? kind value).map (·, true)
  | none =>
    match (split [':']).or (split ['=']) with
    | some (kind, value) => (propertyValue? kind value).map (·, false)
    | none => (property? cs).map (·, false)

/-- A set, folded for case and negated as asked. -/
def foldNegate (f : Flags) (negated : Bool) (s : CharSet) : CharSet :=
  let upper := if f.unicode then CharSet.maxCode else CharSet.maxByte
  let s := if !f.ignoreCase then s.normalize else if f.unicode then s.fold else s.asciiFold
  if negated then s.complement upper else s

/-- A property after `p` or `P`. -/
def readProperty? (f : Flags) (negated : Bool) (cs : List Char) :
    Option (CharSet × List Char) := do
  if !f.unicode then none
  else match skip f cs with
    | [] => none
    | '{' :: body =>
      let (name, rest) ← untilBrace? f (body.length + 1) (skip f body)
      let (s, inverted) ← propertyOfText? name
      some (foldNegate f (negated != inverted) s, rest)
    | '\\' :: _ => none
    | c :: rest =>
      some (foldNegate f negated (← generalCategory? (normalizedName [c])), skip f rest)

/-- The longest text of letters and hyphens, as word conditions are named by. -/
def boundaryName (f : Flags) : Nat → List Char → List Char × List Char
  | 0, cs => ([], cs)
  | _, [] => ([], [])
  | fuel + 1, c :: rest =>
    if c.isAlpha || c == '-' then
      let (name, tail) := boundaryName f fuel (skip f rest)
      (c :: name, tail)
    else ([], c :: rest)

/-- A word condition: a plain boundary, or one named in braces. Braces that do
not start with a letter or hyphen belong to a repetition. -/
def readBoundary? (f : Flags) (cs : List Char) : Option (Look × List Char) :=
  let plain := some (Look.wordBoundary f.unicode, cs)
  match cs with
  | '{' :: body =>
    match skip f body with
    | [] => none
    | c :: rest =>
      if c.isAlpha || c == '-' then
        match boundaryName f (rest.length + 1) (c :: rest) with
        | (name, '}' :: tail) =>
          match String.ofList name with
          | "start" => some (.wordStart f.unicode, tail)
          | "end" => some (.wordEnd f.unicode, tail)
          | "start-half" => some (.wordStartHalf f.unicode, tail)
          | "end-half" => some (.wordEndHalf f.unicode, tail)
          | _ => none
        | _ => none
      else plain
  | _ => plain

/-- What follows a backslash. -/
def readEscape? (f : Flags) (cs : List Char) : Option (Primitive × List Char) := do
  match cs with
  | [] => none
  | c :: rest =>
    if c == 'x' || c == 'u' || c == 'U' then
      let short := c == 'x' && (skip f rest).head? != some '{'
      let (d, tail) ← readHex? f (if c == 'x' then 2 else if c == 'u' then 4 else 8) rest
      if short && !f.unicode && 0x80 ≤ d.toNat then none else some (.char d, tail)
    else if c == 'p' || c == 'P' then
      let (s, tail) ← readProperty? f (c == 'P') rest
      some (.set s, tail)
    else if c == 'd' || c == 's' || c == 'w' then
      some (.set (shorthandClass f.unicode c), rest)
    else if c == 'D' || c == 'S' || c == 'W' then
      let upper := if f.unicode then CharSet.maxCode else CharSet.maxByte
      some (.set ((shorthandClass f.unicode c.toLower).complement upper), rest)
    else if isEscapable c then some (.char c, rest)
    else match c with
      | 'a' => some (.char '\x07', rest)
      | 'f' => some (.char '\x0c', rest)
      | 't' => some (.char '\t', rest)
      | 'n' => some (.char '\n', rest)
      | 'r' => some (.char '\r', rest)
      | 'v' => some (.char '\x0b', rest)
      | 'A' => some (.look .textStart, rest)
      | 'z' => some (.look .textEnd, rest)
      | 'b' => do
        let (l, tail) ← readBoundary? f rest
        some (.look l, tail)
      | 'B' => some (.look (.notWordBoundary f.unicode), rest)
      | '<' => some (.look (.wordStart f.unicode), rest)
      | '>' => some (.look (.wordEnd f.unicode), rest)
      | _ => none

/-! ### Classes -/

/-- How two parts of a class are combined. -/
inductive ClassOp where
  | inter
  | diff
  | symmDiff

/-- The set that two parts of a class make. -/
def ClassOp.combine (f : Flags) (op : ClassOp) (s t : CharSet) : CharSet :=
  let upper := if f.unicode then CharSet.maxCode else CharSet.maxByte
  let prepare := fun s => foldNegate f false s
  match op with
  | .inter => CharSet.inter upper (prepare s) (prepare t)
  | .diff => CharSet.diff upper (prepare s) (prepare t)
  | .symmDiff => CharSet.symmDiff upper (prepare s) (prepare t)

/-- A class that is open: whether it is negated, the finished left side of an
operator, and the items read since. -/
structure OpenClass where
  negated : Bool
  left : Option (ClassOp × CharSet)
  items : CharSet

/-- The set of an open class up to here. -/
def OpenClass.value (f : Flags) (k : OpenClass) : CharSet :=
  match k.left with
  | none => k.items.normalize
  | some (op, s) => op.combine f s k.items

/-- The set of a class that is closed. -/
def OpenClass.close (f : Flags) (k : OpenClass) : CharSet :=
  foldNegate f k.negated (k.value f)

/-- The class with an item added. -/
def OpenClass.add (k : OpenClass) (s : CharSet) : OpenClass :=
  { k with items := s ++ k.items }

/-- The class after an operator. -/
def OpenClass.operate (f : Flags) (op : ClassOp) (k : OpenClass) : OpenClass :=
  { k with left := some (op, k.value f), items := [] }

/-- Hyphens at the start of a class, which stand for themselves. -/
def leadingHyphens (f : Flags) : Nat → List Char → Nat × List Char
  | fuel + 1, '-' :: rest =>
    let (n, tail) := leadingHyphens f fuel (skip f rest)
    (n + 1, tail)
  | _, cs => (0, cs)

/-- Opens a class whose bracket was read. -/
def openClass? (f : Flags) (cs : List Char) : Option (OpenClass × List Char) :=
  let body := skip f cs
  let (negated, body) := match body with
    | '^' :: rest => (true, skip f rest)
    | _ => (false, body)
  let (hyphens, body) := leadingHyphens f body.length body
  let k : OpenClass := ⟨negated, none, if hyphens = 0 then [] else CharSet.single '-'⟩
  match body with
  | [] => none
  | ']' :: rest => if hyphens = 0 then some (k.add (CharSet.single ']'), skip f rest) else some (k, body)
  | _ => some (k, body)

/-- A named ASCII class inside a class, after its first bracket. -/
def asciiClassAt? (cs : List Char) : Option ((CharSet × Bool) × List Char) :=
  match cs with
  | ':' :: body =>
    let (negated, body) := match body with
      | '^' :: rest => (true, rest)
      | _ => (false, body)
    match after? [':', ']'] (body.dropWhile (· != ':')) with
    | some rest =>
      (asciiClass? (String.ofList (body.takeWhile (· != ':')))).map fun s => ((s, negated), rest)
    | none => none
  | _ => none

/-- One character or escape of a class. -/
def classItem? (f : Flags) : List Char → Option (Primitive × List Char)
  | [] => none
  | '\\' :: rest => readEscape? f rest
  | c :: rest => some (.char c, rest)

/-- The set of an item that is no end of an interval. -/
def itemSet? (f : Flags) : Primitive → Option CharSet
  | .char c => if !f.unicode && 0x80 ≤ c.toNat then none else some (CharSet.single c)
  | .set s => some s
  | .look _ => none

/-- An item of a class, or an interval between two characters. -/
def classRange? (f : Flags) (cs : List Char) : Option (CharSet × List Char) := do
  let (first, rest) ← classItem? f cs
  let rest := skip f rest
  match rest with
  | [] => none
  | '-' :: tail =>
    let next := (skip f tail).head?
    if next = some ']' ∨ next = some '-' then some (← itemSet? f first, rest)
    else match first, ← classItem? f (skip f tail) with
      | .char a, (.char b, rest) =>
        if b.toNat < a.toNat then none
        else if !f.unicode && 0x80 ≤ b.toNat then none
        else some ([(a.toNat, b.toNat)], rest)
      | _, _ => none
  | _ => some (← itemSet? f first, rest)

/-- Reads a class whose first bracket was read; `inner` is the innermost open
class, and `outer` are the classes around it. -/
def readClass? (f : Flags) :
    Nat → OpenClass → List OpenClass → List Char → Option (CharSet × List Char)
  | 0, _, _, _ => none
  | fuel + 1, inner, outer, cs =>
    match skip f cs with
    | [] => none
    | '[' :: rest =>
      match asciiClassAt? rest with
      | some ((s, negated), tail) => readClass? f fuel (inner.add (foldNegate f negated s)) outer tail
      | none => do
        let (k, tail) ← openClass? f rest
        readClass? f fuel k (inner :: outer) tail
    | ']' :: rest =>
      match outer with
      | [] => some (inner.close f, rest)
      | k :: others => readClass? f fuel (k.add (inner.close f)) others rest
    | '&' :: '&' :: rest => readClass? f fuel (inner.operate f .inter) outer rest
    | '-' :: '-' :: rest => readClass? f fuel (inner.operate f .diff) outer rest
    | '~' :: '~' :: rest => readClass? f fuel (inner.operate f .symmDiff) outer rest
    | body => do
      let (s, tail) ← classRange? f body
      readClass? f fuel (inner.add s) outer tail

/-! ### Repetitions -/

/-- A number of a counted repetition, with blanks around it. It must fit four
bytes; the inner option is empty where no digit stands. -/
def readBound? (f : Flags) (cs : List Char) : Option (Option Nat × List Char) :=
  let body := trimStart cs
  let rec digitsOf : Nat → List Char → List Char × List Char
    | 0, cs => ([], cs)
    | fuel + 1, c :: rest =>
      if c.isDigit then
        let (ds, tail) := digitsOf fuel (skip f rest)
        (c :: ds, tail)
      else ([], c :: rest)
    | _, [] => ([], [])
  let (ds, rest) := digitsOf (body.length + 1) body
  let rest := skip f (trimStart rest)
  if ds.isEmpty then some (none, rest)
  else if decimalValue ds < 0x100000000 then some (some (decimalValue ds), rest)
  else none

/-- A counted repetition after its brace: its bounds, and what follows. -/
def readCounts? (f : Flags) (cs : List Char) : Option ((Nat × Option Nat) × List Char) := do
  let (low, rest) ← readBound? f (skip f cs)
  match rest with
  | '}' :: tail => some ((← low, low), tail)
  | ',' :: body =>
    match skip f body with
    | '}' :: tail => some ((← low, none), tail)
    | [] => none
    | body =>
      let low ← low
      let (high, rest) ← readBound? f body
      let high ← high
      match rest with
      | '}' :: tail => if high < low then none else some ((low, some high), tail)
      | _ => none
  | _ => none

/-- The text after the question mark that makes a repetition lazy. -/
def skipLazy (cs : List Char) : List Char :=
  match cs with
  | '?' :: rest => rest
  | _ => cs

/-! ### Groups -/

/-- What stands in a sequence: a pattern, or a change of modes, which cannot be
repeated. -/
inductive Item where
  | expr (e : Expr)
  | flags

/-- The sequence of items given in reverse. -/
def sequence : List Item → Expr
  | [] => .empty
  | [.expr e] => e
  | .expr e :: rest => .seq (sequence rest) e
  | .flags :: rest => sequence rest

/-- An open group: the alternatives finished so far and the items of the current
one, both in reverse. -/
structure OpenGroup where
  branches : List Expr
  items : List Item

/-- The pattern of a group that is closed. -/
def OpenGroup.close (g : OpenGroup) : Expr :=
  g.branches.foldl (fun acc branch => .alt branch acc) (sequence g.items)

/-- The group with an item added. -/
def OpenGroup.add (g : OpenGroup) (e : Expr) : OpenGroup :=
  { g with items := .expr e :: g.items }

/-- The modes with one of them switched. -/
def Flags.set? (f : Flags) (letter : Char) (on : Bool) : Option Flags :=
  match letter with
  | 'i' => some { f with ignoreCase := on }
  | 'm' => some { f with multiLine := on }
  | 's' => some { f with dotAll := on }
  | 'U' => some { f with swapGreed := on }
  | 'u' => some { f with unicode := on }
  | 'R' => some { f with crlf := on }
  | 'x' => some { f with verbose := on }
  | _ => none

/-- Mode letters up to a colon or a closing parenthesis. No letter may come
twice, and a minus sign must come before the last letter and at most once. -/
def readFlags? (f : Flags) (on : Bool) (seen : List Char) :
    List Char → Option (Flags × List Char × List Char)
  | [] => none
  | c :: rest =>
    if c == ':' || c == ')' then
      if seen.head? = some '-' then none else some (f, seen, c :: rest)
    else if seen.contains c then none
    else if c == '-' then readFlags? f false (c :: seen) rest
    else do readFlags? (← f.set? c on) on (c :: seen) rest

/-- Whether a character may stand in the name of a group. -/
def isGroupNameChar (isFirst : Bool) (c : Char) : Bool :=
  c == '_' || (if isFirst then isAlphabetic c
    else c == '.' || c == '[' || c == ']' || isAlphanumeric c)

/-- The name of a group up to its closing angle bracket. -/
def groupName? (cs : List Char) : Option (List Char × List Char) :=
  let name := cs.takeWhile (· != '>')
  match name, cs.dropWhile (· != '>') with
  | c :: more, _ :: rest =>
    if isGroupNameChar true c && more.all (isGroupNameChar false) then some (name, rest) else none
  | _, _ => none

/-- How a parenthesis goes on. -/
inductive GroupHead where
  | opens (flags : Flags) (name : Option (List Char)) (rest : List Char)
  | switches (flags : Flags) (rest : List Char)

/-- Reads what follows an opening parenthesis. Conditions on the text around the
place are not part of the language. -/
def readGroupHead? (f : Flags) (cs : List Char) : Option GroupHead :=
  match skip f cs with
  | '?' :: '=' :: _ | '?' :: '!' :: _ | '?' :: '<' :: '=' :: _ | '?' :: '<' :: '!' :: _ => none
  | '?' :: 'P' :: '<' :: rest | '?' :: '<' :: rest => do
    let (name, rest) ← groupName? rest
    some (.opens f (some name) rest)
  | '?' :: rest => do
    let (flags, seen, rest) ← readFlags? f true [] rest
    match rest with
    | ')' :: rest => if seen.isEmpty then none else some (.switches flags rest)
    | _ :: rest => some (.opens flags none rest)
    | [] => none
  | rest => some (.opens f none rest)

/-! ### Patterns -/

/-- The deepest allowed nesting of patterns. -/
def maxNesting : Nat := 250

/-- The nesting of a pattern that was read. A sequence and a choice count once
however long they are: `inSeq` and `inAlt` hold inside the one that was counted. -/
def Expr.nesting (inSeq inAlt : Bool) : Expr → Nat
  | .empty | .chars _ | .look _ => 0
  | .seq a b => (if inSeq then 0 else 1) + max (a.nesting true false) (b.nesting false false)
  | .alt a b => (if inAlt then 0 else 1) + max (a.nesting false false) (b.nesting false true)
  | .group e | .rep e _ _ => e.nesting false false + 1

/-- The pattern of one character. -/
def charExpr (f : Flags) (c : Char) : Expr :=
  let s := CharSet.single c
  .chars (if !f.ignoreCase then s else if f.unicode then s.fold else s.asciiFold)

/-- The pattern of a set, which must not hold single bytes beyond ASCII. -/
def setExpr? (f : Flags) (s : CharSet) : Option Expr :=
  if f.unicode || CharSet.isAscii s then some (.chars s) else none

/-- The pattern of a dot. -/
def dotExpr? (f : Flags) : Option Expr :=
  if !f.unicode then none
  else some <| .chars <|
    if f.dotAll then [(0, CharSet.maxCode)]
    else CharSet.complement CharSet.maxCode
      (if f.crlf then [(0x0A, 0x0A), (0x0D, 0x0D)] else [(0x0A, 0x0A)])

/-- The condition of a caret. -/
def startLook (f : Flags) : Look :=
  if !f.multiLine then .textStart else if f.crlf then .lineStartCrlf else .lineStart

/-- The condition of a dollar sign. -/
def endLook (f : Flags) : Look :=
  if !f.multiLine then .textEnd else if f.crlf then .lineEndCrlf else .lineEnd

/-- Repeats the last item of a group; there must be one. -/
def repeatLast? (g : OpenGroup) (low : Nat) (high : Option Nat) : Option OpenGroup :=
  match g.items with
  | .expr e :: items => some { g with items := .expr (.rep e low high) :: items }
  | _ => none

/-- Reads a pattern. `outer` holds the groups around the current one, each with
the modes that come back when the current one ends; `names` the group names. -/
def readExpr? : Nat → Flags → OpenGroup → List (OpenGroup × Flags) → List (List Char) →
    List Char → Option Expr
  | 0, _, _, _, _, _ => none
  | fuel + 1, f, g, outer, names, cs =>
    match skip f cs with
    | [] => if outer.isEmpty then some g.close else none
    | '(' :: rest => do
      match ← readGroupHead? f rest with
      | .switches flags rest =>
        readExpr? fuel flags { g with items := .flags :: g.items } outer names rest
      | .opens flags name rest =>
        if (name.map names.contains).getD false then none
        else readExpr? fuel flags ⟨[], []⟩ ((g, f) :: outer) (name.toList ++ names) rest
    | ')' :: rest =>
      match outer with
      | [] => none
      | (parent, flags) :: others =>
        readExpr? fuel flags (parent.add (.group g.close)) others names rest
    | '|' :: rest =>
      readExpr? fuel f ⟨sequence g.items :: g.branches, []⟩ outer names rest
    | '[' :: rest => do
      let (k, body) ← openClass? f rest
      let (s, rest) ← readClass? f (body.length + 1) k [] body
      readExpr? fuel f (g.add (← setExpr? f s)) outer names rest
    | '?' :: rest => do
      readExpr? fuel f (← repeatLast? g 0 (some 1)) outer names (skipLazy rest)
    | '*' :: rest => do
      readExpr? fuel f (← repeatLast? g 0 none) outer names (skipLazy rest)
    | '+' :: rest => do
      readExpr? fuel f (← repeatLast? g 1 none) outer names (skipLazy rest)
    | '{' :: rest => do
      let ((low, high), rest) ← readCounts? f rest
      readExpr? fuel f (← repeatLast? g low high) outer names (skipLazy (skip f rest))
    | '\\' :: rest => do
      let (p, rest) ← readEscape? f rest
      match p with
      | .char c => readExpr? fuel f (g.add (charExpr f c)) outer names rest
      | .set s => readExpr? fuel f (g.add (← setExpr? f s)) outer names rest
      | .look l => readExpr? fuel f (g.add (.look l)) outer names rest
    | '.' :: rest => do readExpr? fuel f (g.add (← dotExpr? f)) outer names rest
    | '^' :: rest => readExpr? fuel f (g.add (.look (startLook f))) outer names rest
    | '$' :: rest => readExpr? fuel f (g.add (.look (endLook f))) outer names rest
    | c :: rest => readExpr? fuel f (g.add (charExpr f c)) outer names rest

/-- Reads a whole pattern. -/
def Expr.read? (cs : List Char) : Option Expr := do
  let e ← readExpr? (cs.length + 1) {} ⟨[], []⟩ [] [] cs
  if e.nesting false false ≤ maxNesting then some e else none

end Scaffold.Pattern

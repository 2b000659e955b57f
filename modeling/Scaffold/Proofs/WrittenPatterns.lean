import Mathlib.Tactic
import Scaffold.Pattern.Screen

/-!
Patterns as they are usually written, and which of them are slow.

* `Written.Choice` is a pattern of literals, escapes, flat classes, groups and alternation, with
  at most one repetition for each atom. `Choice.text` is its text;
* `Choice.pieces` lists all atoms of a pattern with their repetitions, at any depth, in the order
  in which they end;
* `Choice.HasHazard` says which shapes are slow. `Choice.hasHazard_iff`: they are found by going
  through the pieces once, if it is remembered whether a repeated group has ended
  (`Hazardous`).
-/

namespace Scaffold.Pattern

open Text

namespace Written

/-! ### Patterns as they are written -/

/-- How often an atom may occur. The numbers fit four bytes. -/
inductive Repetition where
  | star
  | plus
  | optional
  | exactly (n : UInt32)
  | atLeast (n : UInt32)
  | between (low high : UInt32)

namespace Repetition

/-- The text of a repetition. -/
def text : Repetition → List Char
  | star => ['*']
  | plus => ['+']
  | optional => ['?']
  | exactly n => '{' :: digits n.toNat ++ ['}']
  | atLeast n => '{' :: (digits n.toNat ++ [',']) ++ ['}']
  | between low high => '{' :: (digits low.toNat ++ ',' :: digits high.toNat) ++ ['}']

/-- Whether an atom may occur more than once. -/
def isMany : Repetition → Bool
  | star | plus | atLeast _ => true
  | optional => false
  | exactly n => 1 < n.toNat
  | between _ high => 1 < high.toNat

end Repetition

/-- A repetition, which may ask for the fewest occurrences. -/
structure Quantifier where
  repetition : Repetition
  isLazy : Bool

/-- The text of a quantifier. -/
def Quantifier.text (q : Quantifier) : List Char :=
  q.repetition.text ++ if q.isLazy then ['?'] else []

/-- A member of a class: a character or an escape. -/
inductive ClassItem where
  | char (c : Char)
  | escape (c : Char)

/-- The text of a member of a class. -/
def ClassItem.text : ClassItem → List Char
  | char c => [c]
  | escape c => ['\\', c]

/-- A class without other classes in it. Its first member may be a closing bracket, but not a
caret that would negate it. -/
structure CharClass where
  isNegated : Bool
  first : ClassItem
  rest : List ClassItem
  first_plain : ∀ c, first = .char c → c ≠ '[' ∧ c ≠ '\\' ∧ (c = '^' → isNegated = true)
  rest_plain : ∀ c, .char c ∈ rest → c ≠ '[' ∧ c ≠ '\\' ∧ c ≠ ']'

/-- The text of a class after its opening bracket. -/
def CharClass.inside (k : CharClass) : List Char :=
  (if k.isNegated then ['^'] else []) ++ k.first.text ++ k.rest.flatMap ClassItem.text ++ [']']

/-- Whether a character stands for itself, or for a condition on its place, wherever it is
written outside classes. -/
def isOrdinary (c : Char) : Bool :=
  c ∉ ['\\', '[', '(', ')', '|', '*', '+', '?', '{']

mutual

/-- What a quantifier may stand behind. -/
inductive Atom where
  | literal (c : {c : Char // isOrdinary c = true})
  /-- A backslash with one character. -/
  | escape (c : Char)
  | set (k : CharClass)
  | group (captures : Bool) (body : Choice)

/-- Atoms with their quantifiers, one after the other. -/
inductive Sequence where
  | empty
  | cons (a : Atom) (q : Option Quantifier) (rest : Sequence)

/-- Sequences to choose from. -/
inductive Choice where
  | only (s : Sequence)
  | or (s : Sequence) (rest : Choice)

end

/-- The text of a quantifier, if there is one. -/
def quantifierText (q : Option Quantifier) : List Char :=
  (q.map Quantifier.text).getD []

mutual

/-- The text of an atom. -/
def Atom.text : Atom → List Char
  | .literal c => [c.val]
  | .escape c => ['\\', c]
  | .set k => '[' :: k.inside
  | .group captures body => '(' :: (if captures then [] else ['?', ':']) ++ body.text ++ [')']

/-- The text of a sequence. -/
def Sequence.text : Sequence → List Char
  | .empty => []
  | .cons a q rest => a.text ++ quantifierText q ++ rest.text

/-- The text of a choice. -/
def Choice.text : Choice → List Char
  | .only s => s.text
  | .or s rest => s.text ++ '|' :: rest.text

end

/-! ### Hazards of a tree -/

/-- An atom with its quantifier. -/
structure Piece where
  atom : Atom
  quantifier : Option Quantifier

mutual

/-- The pieces inside an atom. -/
def Atom.pieces : Atom → List Piece
  | .group _ body => body.pieces
  | _ => []

/-- The pieces of a sequence, at any depth. -/
def Sequence.pieces : Sequence → List Piece
  | .empty => []
  | .cons a q rest => a.pieces ++ ⟨a, q⟩ :: rest.pieces

/-- The pieces of a choice, at any depth, in the order in which they end. -/
def Choice.pieces : Choice → List Piece
  | .only s => s.pieces
  | .or s rest => s.pieces ++ rest.pieces

end

/-- Whether there is more than one sequence to choose from. -/
def Choice.isAlternation : Choice → Bool
  | .only _ => false
  | .or .. => true

namespace Piece

/-- Whether a piece may occur more than once. -/
def isMany (p : Piece) : Bool :=
  p.quantifier.any fun q => q.repetition.isMany

/-- What a group holds. -/
def body? (p : Piece) : Option Choice :=
  match p.atom with
  | .group _ body => some body
  | _ => none

/-- Whether a piece is a group that may occur more than once. -/
def isManyGroup (p : Piece) : Bool :=
  p.isMany && p.body?.isSome

/-- Whether a piece is a group of several choices. -/
def isAlternation (p : Piece) : Bool :=
  p.body?.any Choice.isAlternation

/-- Whether a piece refers back to a group by its number. -/
def isBackreference (p : Piece) : Bool :=
  match p.atom with
  | .escape c => c.isDigit && c != '0'
  | _ => false

end Piece

/-- Whether a pattern holds an alternation at any depth. -/
def Choice.alternates (r : Choice) : Bool :=
  r.isAlternation || r.pieces.any Piece.isAlternation

/-- Whether a piece is a repeated group that holds a repetition or an alternation. -/
def Piece.isNested (p : Piece) : Bool :=
  p.isMany && p.body?.any fun body => body.pieces.any Piece.isMany || body.alternates

/-- A slow shape: a repeated group that holds a repetition or an alternation, or a reference
back behind the end of a repeated group. -/
def Choice.HasHazard (r : Choice) : Prop :=
  (∃ p ∈ r.pieces, p.isNested = true) ∨
    ∃ front p back, r.pieces = front ++ p :: back ∧ p.isManyGroup = true ∧
      ∃ q ∈ back, q.isBackreference = true

/-- The hazards of pieces of which some repeated group may have ended before. -/
def Hazardous (repeated : Bool) : List Piece → Prop
  | [] => False
  | p :: rest => p.isNested = true ∨ (repeated = true ∧ p.isBackreference = true) ∨
      Hazardous (repeated || p.isManyGroup) rest

lemma hazardous_append {repeated : Bool} {front back : List Piece} :
    Hazardous repeated (front ++ back) ↔
      Hazardous repeated front ∨ Hazardous (repeated || front.any Piece.isManyGroup) back := by
  induction front generalizing repeated with
  | nil => simp [Hazardous]
  | cons p rest ih => simp only [List.cons_append, Hazardous, ih, List.any_cons, or_assoc,
      Bool.or_assoc]

lemma hazardous_iff {repeated : Bool} {ps : List Piece} :
    Hazardous repeated ps ↔ (∃ p ∈ ps, p.isNested = true) ∨
      (repeated = true ∧ ∃ q ∈ ps, q.isBackreference = true) ∨
      ∃ front p back, ps = front ++ p :: back ∧ p.isManyGroup = true ∧
        ∃ q ∈ back, q.isBackreference = true := by
  induction ps generalizing repeated with
  | nil => simp [Hazardous]
  | cons p rest ih =>
      have hsplit : (∃ front g back, p :: rest = front ++ g :: back ∧ g.isManyGroup = true ∧
            ∃ q ∈ back, q.isBackreference = true) ↔
          (p.isManyGroup = true ∧ ∃ q ∈ rest, q.isBackreference = true) ∨
            ∃ front g back, rest = front ++ g :: back ∧ g.isManyGroup = true ∧
              ∃ q ∈ back, q.isBackreference = true := by
        constructor
        · rintro ⟨front, g, back, heq, hg⟩
          cases front with
          | nil =>
              obtain ⟨rfl, rfl⟩ := List.cons.inj heq
              exact Or.inl hg
          | cons x front =>
              obtain ⟨-, rfl⟩ := List.cons.inj heq
              exact Or.inr ⟨front, g, back, rfl, hg⟩
        · rintro (hp | ⟨front, g, back, rfl, hg⟩)
          · exact ⟨[], p, rest, rfl, hp⟩
          · exact ⟨p :: front, g, back, rfl, hg⟩
      simp only [Hazardous, ih, hsplit, List.exists_mem_cons_iff, Bool.or_eq_true, or_and_right,
        and_or_left, or_assoc, or_left_comm]

lemma Choice.hasHazard_iff (r : Choice) : r.HasHazard ↔ Hazardous false r.pieces := by
  simp [Choice.HasHazard, hazardous_iff]

end Written

end Scaffold.Pattern

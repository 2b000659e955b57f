/-
Edit scripts: how one list of lines becomes another.

An `Edit` covers a range of the old lines and a range of the new ones: it keeps
lines, deletes old ones or inserts new ones, and `replace` does both. An edit that
covers no lines on one side still notes where it stands there.
-/

namespace Scaffold.Diff

/-- What an edit does with the lines that it covers. -/
inductive Action where
  | keep
  | delete
  | insert
  | replace
  deriving Repr, DecidableEq, Inhabited

/-- A step of an edit script: `oldCount` old lines from `oldStart` on stand against
`newCount` new lines from `newStart` on. -/
structure Edit where
  action : Action
  oldStart : Nat
  oldCount : Nat
  newStart : Nat
  newCount : Nat
  deriving Repr, DecidableEq, Inhabited

namespace Edit

/-- Keeps lines. -/
def keep (oldStart newStart count : Nat) : Edit :=
  ⟨.keep, oldStart, count, newStart, count⟩

/-- Deletes old lines. -/
def delete (oldStart count newStart : Nat) : Edit :=
  ⟨.delete, oldStart, count, newStart, 0⟩

/-- Inserts new lines. -/
def insert (oldStart newStart count : Nat) : Edit :=
  ⟨.insert, oldStart, 0, newStart, count⟩

/-- The line after the last old line. -/
def oldEnd (e : Edit) : Nat := e.oldStart + e.oldCount

/-- The line after the last new line. -/
def newEnd (e : Edit) : Nat := e.newStart + e.newCount

/-- Whether an edit covers no lines at all. -/
def isEmpty (e : Edit) : Bool := e.oldCount == 0 && e.newCount == 0

/-- The edit moved towards the start. -/
def moveUp (n : Nat) (e : Edit) : Edit :=
  { e with oldStart := e.oldStart - n, newStart := e.newStart - n }

/-- The edit moved towards the end. -/
def moveDown (n : Nat) (e : Edit) : Edit :=
  { e with oldStart := e.oldStart + n, newStart := e.newStart + n }

/-- The edit with more lines on the sides that it covers. -/
def grow (n : Nat) (e : Edit) : Edit :=
  match e.action with
  | .keep | .replace => { e with oldCount := e.oldCount + n, newCount := e.newCount + n }
  | .delete => { e with oldCount := e.oldCount + n }
  | .insert => { e with newCount := e.newCount + n }

/-- A kept range without its last lines. -/
def dropEnd (n : Nat) (e : Edit) : Edit :=
  { e with oldCount := e.oldCount - n, newCount := e.newCount - n }

/-- A kept range without its first lines. -/
def dropStart (n : Nat) (e : Edit) : Edit :=
  (e.dropEnd n).moveDown n

end Edit

/-- The lines of two texts. -/
structure Sides where
  old : Array String
  new : Array String

/-- How many lines two ranges have in common at their starts, where at most `fuel`
lines are compared. -/
def commonStart (a b : Array String) (i j : Nat) : Nat → Nat
  | 0 => 0
  | fuel + 1 =>
    match a[i]?, b[j]? with
    | some x, some y => if x = y then commonStart a b (i + 1) (j + 1) fuel + 1 else 0
    | _, _ => 0

/-- How many lines two ranges have in common at their ends, where the ranges end
in front of lines `i` and `j`, and at most `fuel` lines are compared. -/
def commonEnd (a b : Array String) (i j : Nat) : Nat → Nat
  | 0 => 0
  | fuel + 1 =>
    match i, j with
    | i + 1, j + 1 =>
      match a[i]?, b[j]? with
      | some x, some y => if x = y then commonEnd a b i j fuel + 1 else 0
      | _, _ => 0
    | _, _ => 0

end Scaffold.Diff

/-
Finding a short edit script.

Two ranges are compared by searching from both ends at once. On each diagonal the
search keeps the furthest point that a given number of deletions and insertions
reaches; where both searches meet, the ranges are cut in two, and the parts are
compared in the same way.
* `meetingPoint?` is where the searches meet;
* `Sides.script` lists the edits of the whole texts in order.
-/
import Scaffold.Diff.Edit

namespace Scaffold.Diff

/-- The furthest point on each diagonal, as the number of lines on the old side.
Diagonals are counted from `-offset`. -/
structure Frontier where
  points : Array Nat
  offset : Nat

namespace Frontier

/-- A frontier with room for diagonals up to a distance. -/
def ofReach (reach : Nat) : Frontier :=
  ⟨Array.replicate (2 * reach + 3) 0, reach + 1⟩

/-- The furthest point on a diagonal. -/
def get (f : Frontier) (k : Int) : Nat :=
  (f.points[(k + f.offset).toNat]?).getD 0

/-- Sets the furthest point on a diagonal. -/
def set (f : Frontier) (k : Int) (x : Nat) : Frontier :=
  { f with points := f.points.setIfInBounds (k + f.offset).toNat x }

/-- Where the path to diagonal `k` starts in round `d`: behind an insertion on the
diagonal above, or a deletion on the one below. -/
def start (f : Frontier) (d k : Int) : Nat :=
  if k = -d ∨ (k ≠ d ∧ f.get (k - 1) < f.get (k + 1)) then f.get (k + 1)
  else f.get (k - 1) + 1

end Frontier

/-- A range of old lines against a range of new lines. -/
structure Window where
  oldStart : Nat
  oldCount : Nat
  newStart : Nat
  newCount : Nat

/-- The diagonals of a round, in the order in which they are searched. -/
def diagonals (d : Nat) : List Int :=
  (List.range (d + 1)).map fun (i : Nat) => (d : Int) - 2 * i

/-- What a search has found: the frontiers, or the point where they met. -/
abbrev Search := Except (Nat × Nat) (Frontier × Frontier)

/-- Searches one diagonal from the start. -/
def searchForward (s : Sides) (w : Window) (d : Nat) (state : Frontier × Frontier) (k : Int) :
    Search :=
  let (forward, backward) := state
  let delta : Int := w.oldCount - w.newCount
  let x := forward.start d k
  let y := (x - k).toNat
  let run := if x < w.oldCount ∧ y < w.newCount then
      commonStart s.old s.new (w.oldStart + x) (w.newStart + y)
        (min (w.oldCount - x) (w.newCount - y))
    else 0
  let forward := forward.set k (x + run)
  if delta % 2 ≠ 0 ∧ (k - delta).natAbs + 1 ≤ d
      ∧ w.oldCount ≤ x + run + backward.get (-(k - delta)) then
    .error (w.oldStart + x, w.newStart + y)
  else .ok (forward, backward)

/-- Searches one diagonal from the end. -/
def searchBackward (s : Sides) (w : Window) (d : Nat) (state : Frontier × Frontier) (k : Int) :
    Search :=
  let (forward, backward) := state
  let delta : Int := w.oldCount - w.newCount
  let x := backward.start d k
  let y := (x - k).toNat
  let run := if x < w.oldCount ∧ y < w.newCount then
      commonEnd s.old s.new (w.oldStart + w.oldCount - x) (w.newStart + w.newCount - y)
        (min (w.oldCount - x) (w.newCount - y))
    else 0
  let x := x + run
  let y := y + run
  let backward := backward.set k x
  if delta % 2 = 0 ∧ (k - delta).natAbs ≤ d
      ∧ w.oldCount ≤ x + forward.get (-(k - delta)) then
    .error (w.oldCount - x + w.oldStart, w.newCount - y + w.newStart)
  else .ok (forward, backward)

/-- One round of the search, first from the start and then from the end. -/
def searchRound (s : Sides) (w : Window) (state : Frontier × Frontier) (d : Nat) : Search := do
  let state ← (diagonals d).foldlM (searchForward s w d) state
  (diagonals d).foldlM (searchBackward s w d) state

/-- The number of rounds that a search may need. -/
def reach (w : Window) : Nat :=
  (w.oldCount + w.newCount + 1) / 2 + 1

/-- Where the searches from both ends of two ranges meet. -/
def meetingPoint? (s : Sides) (w : Window) : Option (Nat × Nat) :=
  let start := Frontier.ofReach (reach w)
  match (List.range (reach w)).foldlM (searchRound s w) (start, start) with
  | .error point => some point
  | .ok _ => none

/-- The edits of two ranges. The fuel is above the number of lines. -/
def edits (s : Sides) : Nat → Window → List Edit
  | 0, _ => []
  | fuel + 1, w =>
    let front := commonStart s.old s.new w.oldStart w.newStart (min w.oldCount w.newCount)
    let oldStart := w.oldStart + front
    let newStart := w.newStart + front
    let back := commonEnd s.old s.new (w.oldStart + w.oldCount) (w.newStart + w.newCount)
      (min (w.oldCount - front) (w.newCount - front))
    let oldCount := w.oldCount - front - back
    let newCount := w.newCount - front - back
    let middle :=
      if oldCount = 0 ∧ newCount = 0 then []
      else if newCount = 0 then [Edit.delete oldStart oldCount newStart]
      else if oldCount = 0 then [Edit.insert oldStart newStart newCount]
      else match meetingPoint? s ⟨oldStart, oldCount, newStart, newCount⟩ with
        | some (x, y) =>
          edits s fuel ⟨oldStart, x - oldStart, newStart, y - newStart⟩
            ++ edits s fuel ⟨x, oldStart + oldCount - x, y, newStart + newCount - y⟩
        | none =>
          [Edit.delete oldStart oldCount newStart, Edit.insert oldStart newStart newCount]
    (if front = 0 then [] else [Edit.keep w.oldStart w.newStart front])
      ++ middle
      ++ (if back = 0 then [] else [Edit.keep (oldStart + oldCount) (newStart + newCount) back])

/-- The edits that lead from the old lines to the new ones. -/
def Sides.script (s : Sides) : List Edit :=
  edits s (s.old.size + s.new.size + 1) ⟨0, s.old.size, 0, s.new.size⟩

end Scaffold.Diff

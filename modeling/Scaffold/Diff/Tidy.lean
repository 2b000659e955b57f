/-
Edit scripts that read well.

An insertion whose lines are also found next to it can be moved without changing
what the script does. Edits are moved up and then down as far as they go, so that
edits of one kind meet and are joined.
* `tidy` moves and joins the deletions, then the insertions;
* `joined` joins neighbours, and a deletion with an insertion to a replacement.
-/
import Scaffold.Diff.Edit

namespace Scaffold.Diff

/-- A script with one edit singled out: the edits in front of it are in reverse. -/
structure Focus where
  front : List Edit
  edit : Edit
  back : List Edit

/-- How many lines an insertion can move up over kept lines. A deletion stays. -/
def roomAbove (s : Sides) (kept e : Edit) : Nat :=
  commonEnd s.old s.new kept.oldEnd e.newEnd (min kept.oldCount e.newCount)

/-- How many lines an insertion can move down over kept lines. A deletion stays. -/
def roomBelow (s : Sides) (kept e : Edit) : Nat :=
  commonStart s.old s.new kept.oldStart e.newStart (min kept.oldCount e.newCount)

/-- Kept lines grown at their start, or new ones in front of other edits. -/
def keepBelow (kept : Edit) (n : Nat) (e : Edit) : List Edit → List Edit
  | next :: rest =>
    if next.action = .keep then (next.moveUp n).grow n :: rest
    else Edit.keep (kept.oldEnd - n) (e.newEnd - n) n :: next :: rest
  | [] => [Edit.keep (kept.oldEnd - n) (e.newEnd - n) n]

/-- Kept lines grown at their end, or new ones behind other edits. -/
def keepAbove (kept : Edit) (n : Nat) (e : Edit) : List Edit → List Edit
  | previous :: rest =>
    if previous.action = .keep then previous.grow n :: rest
    else Edit.keep kept.oldStart e.newStart n :: previous :: rest
  | [] => [Edit.keep kept.oldStart e.newStart n]

/-- An edit in front of others, unless it covers nothing. -/
def consNonempty (e : Edit) (rest : List Edit) : List Edit :=
  if e.isEmpty then rest else e :: rest

/-- Moves the edit up as far as it goes. -/
def moveUp (s : Sides) : Nat → Focus → Focus
  | 0, f => f
  | fuel + 1, f =>
    match f.front with
    | [] => f
    | previous :: front =>
      match previous.action with
      | .keep =>
        let n := roomAbove s previous f.edit
        if n ≠ 0 then
          moveUp s fuel ⟨consNonempty (previous.dropEnd n) front, f.edit.moveUp n,
            keepBelow previous n f.edit f.back⟩
        else if previous.isEmpty then moveUp s fuel { f with front := front }
        else f
      | action =>
        if action = f.edit.action then
          moveUp s fuel ⟨front, previous.grow (f.edit.oldCount + f.edit.newCount), f.back⟩
        else moveUp s fuel ⟨front, f.edit, previous :: f.back⟩

/-- Moves the edit down as far as it goes. -/
def moveDown (s : Sides) : Nat → Focus → Focus
  | 0, f => f
  | fuel + 1, f =>
    match f.back with
    | [] => f
    | next :: back =>
      match next.action with
      | .keep =>
        let n := roomBelow s next f.edit
        if n ≠ 0 then
          moveDown s fuel ⟨keepAbove next n f.edit f.front, f.edit.moveDown n,
            consNonempty (next.dropStart n) back⟩
        else if next.isEmpty then moveDown s fuel { f with back := back }
        else f
      | action =>
        if action = f.edit.action then
          moveDown s fuel ⟨f.front, f.edit.grow (next.oldCount + next.newCount), back⟩
        else moveDown s fuel ⟨next :: f.front, f.edit, back⟩

/-- Tidies the edits of one kind, where `front` holds in reverse what is done. The
fuel is above the number of edits that are left, and `steps` above the number of
moves of one edit. -/
def tidyAction (s : Sides) (action : Action) (steps : Nat) :
    Nat → List Edit → List Edit → List Edit
  | 0, front, back => front.reverse ++ back
  | _, front, [] => front.reverse
  | fuel + 1, front, e :: back =>
    if e.action = action then
      let f := moveDown s steps (moveUp s steps ⟨front, e, back⟩)
      tidyAction s action steps fuel (f.edit :: f.front) f.back
    else tidyAction s action steps fuel (e :: front) back

/-- Moves and joins the deletions, then the insertions. -/
def tidy (s : Sides) (script : List Edit) : List Edit :=
  let steps := s.old.size + s.new.size + 2 * script.length + 2
  let script := tidyAction s .delete steps (2 * steps) [] script
  tidyAction s .insert steps (2 * steps) [] script

/-! ### Joining -/

/-- Edits that wait for neighbours: kept lines, or deletions and insertions. -/
structure Pending where
  kept : Option Edit := none
  deleted : Option Edit := none
  inserted : Option Edit := none

/-- The change that waits: a deletion with an insertion is a replacement. -/
def Pending.change (p : Pending) : List Edit :=
  match p.deleted, p.inserted with
  | some d, some i => [⟨.replace, d.oldStart, d.oldCount, i.newStart, i.newCount⟩]
  | some d, none => [d]
  | none, some i => [i]
  | none, none => []

/-- An edit joined to one that waits. -/
def joinTo (waiting : Option Edit) (e : Edit) : Option Edit :=
  match waiting with
  | none => some e
  | some w => some (w.grow (max e.oldCount e.newCount))

/-- Joins neighbours of one kind, and a deletion with the insertion next to it. -/
def joinFrom (p : Pending) : List Edit → List Edit
  | [] => p.kept.toList ++ p.change
  | e :: rest =>
    match e.action with
    | .keep => p.change ++ joinFrom { kept := joinTo p.kept e } rest
    | .delete => p.kept.toList
        ++ joinFrom { deleted := joinTo p.deleted e, inserted := p.inserted } rest
    | _ => p.kept.toList
        ++ joinFrom { deleted := p.deleted, inserted := joinTo p.inserted e } rest

/-- The script with neighbours joined. -/
def joined (script : List Edit) : List Edit :=
  joinFrom {} script

end Scaffold.Diff

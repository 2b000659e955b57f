/-
Differences between two texts.

* `lines` cuts a text after its line ends;
* `groups` cuts an edit script into groups of changes with up to three kept lines
  around them;
* `hunks` lists the groups as `Hunk`s with their lines, up to a number of lines.
-/
import Scaffold.Diff.Search
import Scaffold.Diff.Tidy
import Scaffold.Json.Value
import Scaffold.Text.Blank

namespace Scaffold.Diff

open Text

/-- The lines of a text with their line ends. A carriage return ends a line, and a
line feed behind it belongs to it. -/
def lines (cs : List Char) : List (List Char) :=
  match cs with
  | [] => []
  | '\r' :: '\n' :: rest => ['\r', '\n'] :: lines rest
  | c :: rest =>
    if c = '\n' ∨ c = '\r' then [c] :: lines rest
    else match lines rest with
      | [] => [[c]]
      | line :: more => (c :: line) :: more

/-- The lines of two texts. -/
def Sides.ofTexts (old new : String) : Sides :=
  ⟨((lines old.toList).map String.ofList).toArray, ((lines new.toList).map String.ofList).toArray⟩

/-- The edit script of two texts. -/
def Sides.edits (s : Sides) : List Edit :=
  joined (tidy s s.script)

/-! ### Groups -/

/-- The number of kept lines that are shown around a change. -/
def contextLines : Nat := 3

/-- The last kept lines of a range in front of the first change. -/
def trimFirst : List Edit → List Edit
  | e :: rest =>
    if e.action = .keep then e.dropStart (e.oldCount - contextLines) :: rest else e :: rest
  | [] => []

/-- The first kept lines of a range behind the last change. -/
def trimLast (script : List Edit) : List Edit :=
  match script.reverse with
  | e :: rest =>
    if e.action = .keep then ((e.dropEnd (e.oldCount - contextLines)) :: rest).reverse else script
  | [] => []

/-- Cuts a script inside long ranges of kept lines; `group` holds, in reverse, the
group that is not complete. -/
def cut (group : List Edit) : List Edit → List (List Edit)
  | [] => if group.all fun e => e.action = .keep then [] else [group.reverse]
  | e :: rest =>
    if e.action = .keep ∧ 2 * contextLines < e.oldCount then
      (e.dropEnd (e.oldCount - contextLines) :: group).reverse
        :: cut [e.dropStart (e.oldCount - contextLines)] rest
    else cut (e :: group) rest

/-- The groups of changes of a script. -/
def groups (script : List Edit) : List (List Edit) :=
  cut [] (trimLast (trimFirst script))

/-! ### Hunks -/

/-- What a line of a hunk stands for. -/
inductive LineKind where
  | add
  | remove
  | context
  | truncated
  deriving Repr, DecidableEq

/-- The name of a kind of line. -/
def LineKind.name : LineKind → String
  | add => "add"
  | remove => "remove"
  | context => "context"
  | truncated => "truncated"

/-- A line of a hunk, without its line end. -/
structure Line where
  kind : LineKind
  content : String
  deriving Repr, DecidableEq

/-- A group of changes: where it stands in both texts, counted from one, and its
lines. -/
structure Hunk where
  oldStart : Nat
  oldCount : Nat
  newStart : Nat
  newCount : Nat
  lines : List Line
  deriving Repr, DecidableEq

/-- The lines of a range, without their line ends. -/
def rangeLines (kind : LineKind) (texts : Array String) (start count : Nat) : List Line :=
  ((texts.toList.drop start).take count).map fun text =>
    ⟨kind, String.ofList (dropEndWhile (fun c => c == '\n' || c == '\r') text.toList)⟩

/-- The lines of an edit. -/
def Edit.lines (s : Sides) (e : Edit) : List Line :=
  match e.action with
  | .keep => rangeLines .context s.old e.oldStart e.oldCount
  | _ => rangeLines .remove s.old e.oldStart e.oldCount
      ++ rangeLines .add s.new e.newStart e.newCount

/-- The hunk of a group, if it has an edit. -/
def hunk? (s : Sides) (group : List Edit) : Option Hunk := do
  let first ← group.head?
  let last ← group.getLast?
  some {
    oldStart := first.oldStart + 1
    oldCount := last.oldEnd - first.oldStart
    newStart := first.newStart + 1
    newCount := last.newEnd - first.newStart
    lines := group.flatMap (Edit.lines s)
  }

/-- The line that stands for lines that are left out. -/
def truncationLine (limit : Nat) : Line :=
  ⟨.truncated, s!"... (diff truncated after {limit} lines)"⟩

/-- The hunks up to a number of lines, of which `room` are left. -/
def limited (limit : Nat) : Nat → List Hunk → List Hunk
  | _, [] => []
  | room, h :: rest =>
    if room < h.lines.length then
      [{ h with lines := h.lines.take room ++ [truncationLine limit] }]
    else h :: limited limit (room - h.lines.length) rest

/-- The differences between two texts, in at most `limit` lines. -/
def hunks (old new : String) (limit : Nat) : List Hunk :=
  let s := Sides.ofTexts old new
  limited limit limit ((groups s.edits).filterMap (hunk? s))

/-! ### Values -/

/-- The value of a hunk. -/
def Hunk.toValue (h : Hunk) : Json.Value :=
  .object [("old_start", .natural h.oldStart), ("old_count", .natural h.oldCount),
    ("new_start", .natural h.newStart), ("new_count", .natural h.newCount),
    ("lines", .array (h.lines.map fun l =>
      .object [("line_type", .text l.kind.name), ("content", .text l.content)]))]

end Scaffold.Diff

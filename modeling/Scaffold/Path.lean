/-
Paths as text.

A path is kept as it was written; `components` is what it means, and two spellings
of one path have the same components. Empty parts and inner parts `.` mean nothing.
* `join` appends a relative path;
* `parent?`, `fileName?` and `extension?` take a path apart;
* `ofComponents` writes a path in its plain spelling.
-/
import Scaffold.Text.Split

namespace Scaffold.Path

open Text

/-- A part of a path. -/
inductive Component where
  | root
  | here
  | up
  | name (text : String)
  deriving Repr, DecidableEq, Inhabited

namespace Component

/-- The place of a kind of component in the order of components. -/
def rank : Component → Nat
  | root => 0
  | here => 1
  | up => 2
  | name _ => 3

/-- The text of a component. -/
def text : Component → String
  | root => "/"
  | here => "."
  | up => ".."
  | name text => text

/-- Components in order: names come last, and among each other by their text. -/
def lt (a b : Component) : Prop :=
  a.rank < b.rank ∨ (a.rank = b.rank ∧ a.text < b.text)

instance : LT Component := ⟨lt⟩

instance : DecidableLT Component := fun a b =>
  inferInstanceAs (Decidable (a.rank < b.rank ∨ (a.rank = b.rank ∧ a.text < b.text)))

end Component

/-- What a path means. -/
abbrev Key := List Component

/-- The component of a part of a path that is not at its start, if it means one. -/
def component? (part : List Char) : Option Component :=
  if part = [] ∨ part = ['.'] then none
  else if part = ['.', '.'] then some .up
  else some (.name (String.ofList part))

/-- The component of the first part of a relative path. -/
def firstComponent? (part : List Char) : Option Component :=
  if part = ['.'] then some .here else component? part

/-- The components of a path. -/
def components (path : String) : Key :=
  match splitOn '/' path.toList with
  | [] => []
  | first :: rest =>
    (if first = [] ∧ rest ≠ [] then [.root] else (firstComponent? first).toList)
      ++ rest.filterMap component?

/-- Whether a path starts at the root. -/
def isAbsolute (path : String) : Bool :=
  path.toList.head? = some '/'

/-- A path followed by another; an absolute path stands for itself. -/
def join (base path : String) : String :=
  if isAbsolute path then path
  else if base = "" then path
  else if base.toList.getLast? = some '/' then base ++ path
  else base ++ "/" ++ path

/-- The path with given components, in its plain spelling. -/
def ofComponents (key : Key) : String :=
  key.foldl (fun path c => join path c.text) ""

/-- The parts of a path behind its root, and whether it has a root. -/
def parts (path : String) : Bool × List (List Char) :=
  match splitOn '/' path.toList with
  | [] :: next :: rest => (true, next :: rest)
  | parts => (false, parts)

/-- Parts without those at the end that mean nothing. A relative path may consist
of one part `.`, which means something. -/
def dropIdle (isRooted : Bool) (parts : List (List Char)) : List (List Char) :=
  let kept := (parts.reverse.dropWhile fun p => p = [] ∨ p = ['.']).reverse
  if kept.isEmpty && !isRooted && parts.head? = some ['.'] then [['.']] else kept

/-- The path in front of the last component. -/
def parent? (path : String) : Option String :=
  let (isRooted, parts) := parts path
  match dropIdle isRooted parts with
  | [] => none
  | kept =>
    let front := dropIdle isRooted kept.dropLast
    some (String.ofList ((if isRooted then ['/'] else []) ++ Text.join ['/'] front))

/-- The last component, if it is a name. -/
def fileName? (path : String) : Option String :=
  match (components path).getLast? with
  | some (.name text) => some text
  | _ => none

/-- What stands after the last point of the last name, unless the point is the
name's first character. -/
def extension? (path : String) : Option String :=
  (fileName? path).bind fun name =>
    (splitLast '.' name.toList).bind fun (front, back) =>
      if front.isEmpty then none else some (String.ofList back)

/-- The key of a path's parent. -/
def Key.parent? (key : Key) : Option Key :=
  match key.getLast? with
  | none | some .root => none
  | some _ => some key.dropLast

/-- The components that lead from one place to another. -/
def Key.leading : Key → Key → Key
  | b :: base, p :: path =>
    if b = p then Key.leading base path else (b :: base).map (fun _ => .up) ++ p :: path
  | base, path => base.map (fun _ => .up) ++ path

end Scaffold.Path

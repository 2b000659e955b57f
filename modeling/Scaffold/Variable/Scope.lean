/-
Where variables are looked up.

* A `Scope` is a stack of layers of bindings; an inner layer hides the outer
  ones, and binding changes the innermost layer only.
* A plain `Dictionary` can be a source too: its keys may be spelled in any way.
* `builtins` lists the variables that every run has.
* `Environment` is what text is substituted in: a day and a look-up.
-/
import Scaffold.Calendar.Date
import Scaffold.Dictionary
import Scaffold.Variable.Name

namespace Scaffold.Variable

open Calendar Text

/-- Bindings of raw names to values. -/
abbrev Bindings := Dictionary String String

/-- Layers of bindings by canonical key, innermost first. -/
structure Scope where
  inner : Bindings
  outer : List Bindings
  deriving Inhabited

namespace Scope

/-- The scope without bindings. -/
def empty : Scope := ⟨∅, []⟩

/-- The scope with a new innermost layer. -/
def push (s : Scope) : Scope := ⟨∅, s.inner :: s.outer⟩

/-- The scope without its innermost layer; the outermost layer stays. -/
def pop (s : Scope) : Scope :=
  match s.outer with
  | [] => s
  | layer :: layers => ⟨layer, layers⟩

/-- The scope with a variable bound in its innermost layer. -/
def bind (s : Scope) (name value : String) : Scope :=
  { s with inner := s.inner.insert (canonicalKey name) value }

/-- The scope with variables bound one after the other. -/
def bindAll (s : Scope) (pairs : List (String × String)) : Scope :=
  pairs.foldl (fun s p => s.bind p.1 p.2) s

/-- The scope with one layer that binds the given pairs, later ones winning. -/
def ofPairs (pairs : List (String × String)) : Scope :=
  empty.bindAll pairs

/-- The value of the innermost layer that binds a canonical key. -/
def getKey (key : String) : List Bindings → Option String
  | [] => none
  | layer :: layers => (layer.get? key).or (getKey key layers)

/-- The value of a variable named in any spelling. -/
def get? (s : Scope) (name : String) : Option String :=
  getKey (canonicalKey name) (s.inner :: s.outer)

/-- All visible bindings by canonical key. -/
def flatten (s : Scope) : Bindings :=
  (s.inner :: s.outer).foldr (fun layer acc => acc.union layer) ∅

end Scope

/-- The value of a variable in a plain dictionary: at its canonical key, else at
its bare name, else at the first key that spells the same name. -/
def lookupIn (bindings : Bindings) (name : String) : Option String :=
  let bare := bareName name
  (bindings.get? (canonicalKey name)).or <| (bindings.get? bare).or <|
    (bindings.entries.find? fun e => bareName e.1 == bare).map Prod.snd

/-- What text is substituted in: the current day, and the values of variables
named in any spelling. -/
structure Environment where
  today : Date
  lookup : String → Option String

/-- The environment of a scope. -/
def Scope.environment (s : Scope) (today : Date) : Environment :=
  ⟨today, s.get?⟩

/-! ### Built-in variables -/

/-- The variables of a day, and the project name where one is known. -/
def builtins (today : Date) (project : Option String) : List (String × String) :=
  [("%DATE%", String.ofList today.iso),
   ("%YEAR%", String.ofList (integerDigits today.year)),
   ("%MONTH%", String.ofList (padded 2 today.month)),
   ("%DAY%", String.ofList (padded 2 today.day))]
    ++ (project.map fun name => ("%PROJECT_NAME%", name)).toList

/-- The bare names of the built-in variables. -/
def builtinNames : List String :=
  ["DATE", "YEAR", "MONTH", "DAY", "PROJECT_NAME"]

/-- The scope of the built-in variables, overridden by the given pairs. -/
def Scope.withBuiltins (today : Date) (project : Option String)
    (pairs : List (String × String)) : Scope :=
  (Scope.ofPairs (builtins today project)).bindAll pairs

/-- A variable that was bound has its value. -/
@[simp]
theorem Scope.get?_bind_self (s : Scope) (name value : String) :
    (s.bind name value).get? name = some value := by
  simp [Scope.get?, Scope.bind, Scope.getKey]

/-- Binding a variable changes no variable of another name. -/
theorem Scope.get?_bind_of_ne (s : Scope) {name other : String} (value : String)
    (h : bareName other ≠ bareName name) : (s.bind name value).get? other = s.get? other := by
  have hk : canonicalKey other ≠ canonicalKey name := fun e => h (canonicalKey_inj.mp e)
  simp [Scope.get?, Scope.bind, Scope.getKey, Dictionary.get?_insert_of_ne _ _ hk]

/-- A new layer hides nothing. -/
@[simp]
theorem Scope.get?_push (s : Scope) (name : String) : s.push.get? name = s.get? name := by
  cases s
  simp [Scope.get?, Scope.push, Scope.getKey, Dictionary.get?, EmptyCollection.emptyCollection,
    Dictionary.empty, Dictionary.find?]

end Scaffold.Variable

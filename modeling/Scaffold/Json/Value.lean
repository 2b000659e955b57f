/-
Values of the JSON language.

A `Value` keeps the members of objects in the order of the text, repeated names
included, and tells apart the three kinds of numbers that a text can give.
* `Value.member?` is the first member of a name;
* `Value.object?` and `Value.items?` open objects and arrays.
-/

namespace Scaffold.Json

/-- A value. -/
inductive Value where
  | null
  | bool (b : Bool)
  /-- A whole number without a sign. -/
  | natural (n : Nat)
  /-- A whole number with a sign. -/
  | integer (i : Int)
  /-- Any other number. -/
  | float (x : Float)
  | text (s : String)
  | array (items : List Value)
  | object (members : List (String × Value))
  deriving Inhabited

namespace Value

/-- The value of the first pair with a name. -/
def find? (name : String) : List (String × Value) → Option Value
  | [] => none
  | (k, v) :: rest => if k = name then some v else find? name rest

/-- The members of an object. -/
def object? : Value → Option (List (String × Value))
  | object members => some members
  | _ => none

/-- The items of an array. -/
def items? : Value → Option (List Value)
  | array items => some items
  | _ => none

/-- The characters of a text. -/
def text? : Value → Option String
  | text s => some s
  | _ => none

/-- A truth value. -/
def bool? : Value → Option Bool
  | bool b => some b
  | _ => none

/-- The first member of an object with a name. -/
def member? (name : String) (v : Value) : Option Value :=
  v.object?.bind (find? name)

/-- Members with an optional value, which are left out without one. -/
def optional (name : String) (v : Option Value) : List (String × Value) :=
  (v.map fun v => (name, v)).toList

/-- An object of texts. -/
def ofTexts (pairs : List (String × String)) : Value :=
  object (pairs.map fun p => (p.1, text p.2))

end Value

end Scaffold.Json

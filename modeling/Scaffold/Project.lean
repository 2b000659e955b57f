/-
What is done with a schema: creating, previewing, undoing and checking it, with
variables given by name in any spelling.

The name of the project, where none is given, is that of the root folder.
-/
import Scaffold.Check
import Scaffold.Creation
import Scaffold.Preview
import Scaffold.Undo

namespace Scaffold

open Calendar Variable

namespace Project

/-- The name of the root folder with variables replaced, if a folder may have it. -/
def derivedName? (today : Date) (schema : Schema) (bindings : Bindings) : Option String :=
  match schema.root with
  | .folder raw _ _ =>
    let scope := Scope.withBuiltins today none bindings.entries
    (Name.check (substitute (scope.environment today) raw)).toOption
  | _ => none

/-- The variables of a run: the built-in ones, overridden by those given. -/
def scope (today : Date) (schema : Schema) (bindings : Bindings) (name : Option String) : Scope :=
  Scope.withBuiltins today (name.or (derivedName? today schema bindings)) bindings.entries

/-- A schema with what it is created from. -/
structure Settings extends WalkSettings where
  equipment : Equipment := {}

/-- Creates a schema under an output folder. -/
def create (s : Settings) (schema : Schema) (output : String) (bindings : Bindings)
    (name : Option String) (options : CreateOptions) : Run (Except Failure Creation) :=
  if output = "" then return .error .noOutputRoot
  else .ok <$> Scaffold.create ⟨s.toWalkSettings, s.equipment, options⟩ schema output
    (scope s.today schema bindings name)

/-- Previews a schema under an output folder. -/
def preview (s : Settings) (schema : Schema) (output : String) (bindings : Bindings)
    (name : Option String) (overwrite : Bool) : Run (Except Failure Preview) :=
  if output = "" then return .error .noOutputRoot
  else .ok <$> Scaffold.preview ⟨s.toWalkSettings, overwrite⟩ schema output
    (scope s.today schema bindings name)

/-- Checks a schema. -/
def check (s : Settings) (schema : Schema) (bindings : Bindings) : CheckReport :=
  Scaffold.check s.limits s.today (Scope.ofPairs bindings.entries) schema

end Project

end Scaffold

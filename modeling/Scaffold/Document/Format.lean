/-
The two formats of documents, and what can be wrong with one.
-/
import Scaffold.Dictionary
import Scaffold.Error
import Scaffold.Json.Reader
import Scaffold.Path
import Scaffold.Text.Case
import Scaffold.Toml.Reader

namespace Scaffold.Document

open Text

/-- The format of a document. -/
inductive Format where
  | json
  | toml
  deriving Repr, DecidableEq

/-- The name of a format. -/
def Format.name : Format → String
  | json => "json"
  | toml => "toml"

/-- The format that a path's extension asks for; all but one ask for JSON. -/
def Format.ofPath (path : String) : Format :=
  if (Path.extension? path).any fun e => eqIgnoringCase e.toList "toml".toList then .toml else .json

/-- What is wrong with a document. -/
inductive Fault where
  | json (f : Json.Fault)
  | toml
  deriving Repr, DecidableEq

/-- The text of a fault. -/
def Fault.message : Fault → String
  | json f => f.message
  | toml => ""

/-- A TOML document that is read by `decode`. -/
def readToml {α : Type} (decode : Json.Value → Option α) (text : String) : Except Fault α :=
  match (Toml.read? text).bind decode with
  | some a => .ok a
  | none => .error .toml

/-- A JSON document that is read by a reader. -/
def readJson {α : Type} (reader : Json.Reader α) (text : String) : Except Fault α :=
  match reader.run text with
  | .ok a => .ok a
  | .error f => .error (.json f)

/-- The text of a file's bytes. -/
def textOf (path : String) (bytes : ByteArray) : Except Error String :=
  match String.fromUTF8? bytes with
  | some text => .ok text
  | none => .error (.failure (.filesystem path "stream did not contain valid UTF-8"))

/-- What a document gives, with the path of the document in the fault. -/
def loaded {α : Type} (path : String) (result : Except Fault α) : Except Error α :=
  match result with
  | .ok a => .ok a
  | .error f => .error (.failure (.documentLoad path f.message))

/-- The parts of a value, one for each list of spellings. An object gives them by
name, no part twice; an array gives the first ones in order, and no more than there
are. -/
def parts? (spellings : List (List String)) : Json.Value → Option (List (Option Json.Value))
  | .object members =>
    spellings.mapM fun names =>
      match members.filter fun m => names.contains m.1 with
      | [] => some none
      | [m] => some (some m.2)
      | _ => none
  | .array items =>
    if spellings.length < items.length then none
    else some (spellings.zipIdx.map fun p => items[p.2]?)
  | _ => none

/-- A part that may be missing or `null`. -/
def orNull {α : Type} (decode : Json.Value → Option α) : Option Json.Value → Option (Option α)
  | none | some .null => some none
  | some v => (decode v).map some

/-- A part that may be missing. -/
def orDefault {α : Type} (value : α) (decode : Json.Value → Option α) :
    Option Json.Value → Option α
  | none => some value
  | some v => decode v

/-- An array of values of one kind. -/
def listOf {α : Type} (decode : Json.Value → Option α) (v : Json.Value) : Option (List α) :=
  v.items?.bind fun items => items.mapM decode

/-- An object whose members are of one kind. -/
def tableOf {α : Type} (decode : Json.Value → Option α) (v : Json.Value) :
    Option (Dictionary String α) :=
  v.object?.bind fun members =>
    (members.mapM fun m => (decode m.2).map fun a => (m.1, a)).map Dictionary.ofList

end Scaffold.Document

/-
Reading TOML texts.

A text is a list of statements, one a line: a key with a value, the header of a
table, or the header of a table that is appended to an array. `Toml.read?` gives
the whole text as one object.
-/
import Scaffold.Toml.Scalar
import Scaffold.Toml.Table

namespace Scaffold.Toml

namespace Reader

/-- Arrays and inline tables nest less deep than this. -/
def maxDepth : Nat := 80

/-- Items of an array after `done` in reverse. -/
def arrayLoop (item : Reader Json.Value) : Nat → List Json.Value → Reader (List Json.Value)
  | 0, _ => failure
  | fuel + 1, done => do
    skipAllSpace
    if ← accept [']'] then return done.reverse
    let v ← item
    skipAllSpace
    if ← accept [','] then arrayLoop item fuel (v :: done)
    else
      expect [']']
      return (v :: done).reverse

/-- Members of an inline table, added to the ones in front. -/
def inlineLoop (item : Reader Json.Value) : Nat → Entries → Reader Entries
  | 0, _ => failure
  | fuel + 1, entries => do
    let path ← key
    skipBlanks
    expect ['=']
    skipBlanks
    let v ← item
    let entries ← (entries.set v path : Option Entries)
    skipBlanks
    if ← accept [','] then
      skipBlanks
      inlineLoop item fuel entries
    else
      expect ['}']
      return entries

/-- A value in which arrays and inline tables nest less deep than `depth`. -/
def valueWithin : Nat → Reader Json.Value
  | 0 => failure
  | depth + 1 => do
    match ← peek? with
    | some '"' | some '\'' => return .text (← string)
    | some '[' =>
      expect ['[']
      return .array (← arrayLoop (valueWithin depth) ((← get).length + 1) [])
    | some '\x7b' =>
      expect ['{']
      skipBlanks
      if ← accept ['}'] then return .object []
      let entries ← inlineLoop (valueWithin depth) ((← get).length + 1) []
      return .object (Item.members entries)
    | _ => atom

/-- A key with its value, set in the table at a path. -/
def keyValue (path : List String) (entries : Entries) : Reader Entries := do
  let name ← key
  skipBlanks
  expect ['=']
  skipBlanks
  let v ← valueWithin maxDepth
  (Entries.atPath (Entries.set v name) path entries : Option Entries)

/-- The statements of a text, carried out one after the other. `path` is that of
the table of the last header. -/
def statements : Nat → List String → Entries → Reader Entries
  | 0, _, _ => failure
  | fuel + 1, path, entries => do
    skipAllSpace
    match ← get with
    | [] => return entries
    | '[' :: '[' :: rest =>
      set rest
      let path ← key
      expect [']', ']']
      endOfLine
      let entries ← (entries.appendTable path : Option Entries)
      statements fuel path entries
    | '[' :: rest =>
      set rest
      let path ← key
      expect [']']
      endOfLine
      let entries ← (entries.openTable path : Option Entries)
      statements fuel path entries
    | _ =>
      let entries ← keyValue path entries
      endOfLine
      statements fuel path entries

end Reader

/-- The text without a byte order mark in front. -/
def withoutMark : List Char → List Char
  | '\ufeff' :: rest => rest
  | cs => cs

/-- The object that a text describes. -/
def read? (text : String) : Option Json.Value :=
  let cs := withoutMark text.toList
  ((Reader.statements (cs.length + 1) [] []).run cs).map fun r => .object (Item.members r.1)

end Scaffold.Toml

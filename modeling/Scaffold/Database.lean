/-
Databases described by markup.

* A `Table` has named columns, and `Table.statement` is the statement that creates
  it;
* `tables` reads the `table` elements of a text;
* `script` lists all statements of a text: its tables, then its `sql` elements,
  then statements given on their own.
-/
import Scaffold.Markup.Element

namespace Scaffold.Database

open Text

/-- A column of a table. -/
structure Column where
  name : List Char
  type : List Char := "TEXT".toList
  isKey : Bool := false
  isUnique : Bool := false
  isRequired : Bool := false
  initial : Option (List Char) := none
  deriving Repr, DecidableEq

/-- A table. -/
structure Table where
  name : List Char
  columns : List Column
  deriving Repr, DecidableEq

/-! ### Statements -/

/-- A name in double quotes, with quotes inside doubled. -/
def quotedName (name : List Char) : List Char :=
  '"' :: replaceChar '"' ['"', '"'] name ++ ['"']

/-- A text in single quotes, with quotes inside doubled. -/
def quotedText (text : List Char) : List Char :=
  '\'' :: replaceChar '\'' ['\'', '\''] text ++ ['\'']

/-- The definition of a column. -/
def Column.definition (c : Column) : List Char :=
  quotedName c.name ++ ' ' :: c.type
    ++ (if c.isKey then " PRIMARY KEY".toList else [])
    ++ (if c.isUnique then " UNIQUE".toList else [])
    ++ (if c.isRequired then " NOT NULL".toList else [])
    ++ (match c.initial with
      | some text => " DEFAULT ".toList ++ quotedText text
      | none => [])

/-- The statement that creates a table, without its semicolon. -/
def Table.statement (t : Table) : List Char :=
  "CREATE TABLE ".toList ++ quotedName t.name ++ " (\n  ".toList
    ++ join ",\n  ".toList (t.columns.map Column.definition) ++ "\n)".toList

/-! ### Reading markup -/

/-- Whether a flag is set: its attribute is `true`, or there is none and the flag
stands as a word of its own. -/
def hasFlag (raw : List Char) (pairs : List (List Char × List Char)) (key : String) : Bool :=
  match Markup.valueOf? key pairs with
  | some value => eqIgnoringCase value "true".toList
  | none => (wordsBy isBlank raw).any fun word => dropEndWhile (· == '/') word == key.toList

/-- The column that a tag describes, if it has a name. -/
def Column.ofTag? (tag : Markup.Tag) : Option Column :=
  let pairs := Markup.attributes tag.attributes
  (Markup.valueOf? "name" pairs).map fun name =>
    { name
      type := (Markup.valueOf? "type" pairs).getD "TEXT".toList
      isKey := hasFlag tag.attributes pairs "primary-key"
      isUnique := hasFlag tag.attributes pairs "unique"
      isRequired := hasFlag tag.attributes pairs "not-null"
      initial := Markup.valueOf? "default" pairs }

/-- The table that an element describes, if it has a name and columns. -/
def Table.ofElement? (tag : Markup.Tag) (body : List Char) : Option Table :=
  match Markup.valueOf? "name" (Markup.attributes tag.attributes),
      (Markup.tags "column" body).filterMap Column.ofTag? with
  | some name, first :: rest => some ⟨name, first :: rest⟩
  | _, _ => none

/-- The tables that a text describes. -/
def tables (cs : List Char) : List Table :=
  (Markup.elements "table" cs).filterMap fun (tag, body) => Table.ofElement? tag body

/-- A text without the marks of a character data section around it. -/
def withoutSection (cs : List Char) : List Char :=
  (do before? "]]>".toList (← after? "<![CDATA[".toList (trim cs))).getD cs

/-- The statements of the `sql` elements of a text, and those given on their own. -/
def rawStatements (config content : Option String) : List (List Char) :=
  let blocks := (config.map fun c => Markup.plainBodies "sql" c.toList).getD []
  let own := (content.map fun c => trim (withoutSection c.toList)).getD []
  blocks.map (fun b => trim (withoutSection b)) ++ (if own.isEmpty then [] else [own])

/-- The statements that make up a database, each followed by a line end. -/
def script (config content : Option String) : List Char :=
  let created := (config.map fun c => tables c.toList).getD []
  created.flatMap (fun t => t.statement ++ ";\n".toList)
    ++ (rawStatements config content).flatMap (· ++ ['\n'])

end Scaffold.Database

/-
Kinds of archives, and which of their members carry text.

* `Kind.ofName?` tells the kind from the name of a file;
* `Kind.hasText` says which members have variables replaced in them;
* `isMarkup` says in which of these values are escaped.
-/
import Scaffold.Text.Split

namespace Scaffold.Archive

open Text

/-- What an archive is for. -/
inductive Kind where
  | office
  | openDocument
  | book
  | plain
  deriving Repr, DecidableEq

/-- The part of a name after its last dot, in small letters of ASCII. -/
def extension? (name : String) : Option String :=
  (splitLast '.' name.toList).map fun (_, ext) => String.ofList (ext.map Char.toLower)

/-- Whether the extension of a name is in a list. -/
def hasExtension (name : String) (extensions : List String) : Bool :=
  (extension? name).any extensions.contains

namespace Kind

/-- The kind of the archive that has a name. -/
def ofName? (name : String) : Option Kind :=
  match extension? name with
  | some "docx" | some "docm" | some "xlsx" | some "xlsm" | some "pptx" | some "pptm" =>
    some office
  | some "odt" | some "ods" | some "odp" => some openDocument
  | some "epub" => some book
  | some "zip" => some plain
  | _ => none

/-- Whether a member carries text that the reader of the archive sees. -/
def hasText (kind : Kind) (member : String) : Bool :=
  match kind with
  | office =>
    member.endsWith ".xml"
      && (member.startsWith "word/" || member == "xl/sharedStrings.xml"
        || member.startsWith "xl/worksheets/" || member.startsWith "ppt/slides/")
  | openDocument => member == "content.xml" || member == "styles.xml"
  | book => hasExtension member ["xhtml", "html", "htm", "xml", "opf", "ncx", "css"]
  | plain =>
    hasExtension member
      ["txt", "md", "markdown", "json", "yaml", "yml", "toml", "xml", "html", "htm", "css", "js",
       "ts", "csv", "ini", "cfg", "conf", "env", "sh", "py", "rs", "go", "java", "svg"]

end Kind

/-- Whether a member holds markup. -/
def isMarkup (member : String) : Bool :=
  hasExtension member ["xml", "xhtml", "html", "htm", "opf", "ncx", "svg"]

end Scaffold.Archive

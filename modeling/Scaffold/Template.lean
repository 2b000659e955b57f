/-
Block directives of file content.

A directive is `if`, `for`, `else`, `endif` or `endfor` in double braces; all
other text in double braces is ordinary text.

* `segments` cuts a text into directives and the text between them;
* `Template.ofSegments` nests the directives to blocks, at most `maxDepth` deep;
* `Template.render` keeps the chosen branches and repeats the loop bodies;
* `renderTemplate` does all three, `renderContent` substitutes tokens as well;
* `templateVariables` lists the variables that conditions and loops refer to.
-/
import Scaffold.Condition
import Scaffold.Substitution

namespace Scaffold

open Text Variable

/-- What is wrong with the directives of a text. -/
inductive TemplateError where
  | unclosedIf (name : String)
  | unclosedFor (item list : String)
  | unexpectedElse
  | unexpectedEndif
  | unexpectedEndfor
  | depthExceeded (limit : Nat)
  deriving Repr, DecidableEq

/-- A text in double braces. -/
def braced (text : String) : String :=
  "\x7b\x7b" ++ text ++ "\x7d\x7d"

/-- The text of a template error. -/
def TemplateError.message : TemplateError → String
  | unclosedIf v => "Unclosed " ++ braced ("if " ++ v) ++ " block"
  | unclosedFor item list => "Unclosed " ++ braced ("for " ++ item ++ " in " ++ list) ++ " block"
  | unexpectedElse => "Unexpected " ++ braced "else" ++ " without matching " ++ braced "if"
  | unexpectedEndif => "Unexpected " ++ braced "endif" ++ " without matching " ++ braced "if"
  | unexpectedEndfor => "Unexpected " ++ braced "endfor" ++ " without matching " ++ braced "for"
  | depthExceeded limit => s!"Maximum nesting depth ({limit}) exceeded"

/-- A directive, without its braces. -/
inductive Directive where
  | ifSet (name : List Char)
  | forEach (item list : List Char)
  | elseMark
  | endIf
  | endFor
  deriving Repr, DecidableEq

/-- A directive, or the text up to the next one. -/
inductive Segment where
  | text (cs : List Char)
  | directive (d : Directive)
  deriving Repr, DecidableEq

/-! ### Finding directives -/

/-- A small letter of ASCII or an underscore. -/
def isItemStart (c : Char) : Bool :=
  c.isLower || c == '_'

/-- A small letter or digit of ASCII, or an underscore. -/
def isItemRest (c : Char) : Bool :=
  c.isLower || c.isDigit || c == '_'

/-- A word at the start of a text, given its first and its other characters. -/
def wordAt? (isStart isRest : Char → Bool) (cs : List Char) : Option (List Char × List Char) :=
  if cs.head?.any isStart then some (cs.takeWhile isRest, cs.dropWhile isRest) else none

/-- One or more blanks, skipped. -/
def skipBlanks? (cs : List Char) : Option (List Char) :=
  if cs.head?.any isBlank then some (trimStart cs) else none

/-- The closing braces after optional blanks, skipped. -/
def closeBraces? (cs : List Char) : Option (List Char) :=
  after? ['}', '}'] (trimStart cs)

/-- The head of a loop after its opening braces: its item, and what follows `in`. -/
def loopHead? (cs : List Char) : Option (List Char × List Char) := do
  let cs ← after? "for".toList cs
  let cs ← skipBlanks? cs
  let (item, cs) ← wordAt? isItemStart isItemRest cs
  let cs ← skipBlanks? cs
  let cs ← after? "in".toList cs
  some (item, cs)

/-- A condition after its opening braces. -/
def ifDirective? (cs : List Char) : Option (Directive × List Char) := do
  let cs ← after? "if".toList cs
  let cs ← skipBlanks? cs
  let (name, cs) ← wordAt? isIdentStart isIdentRest cs
  let cs ← closeBraces? cs
  some (.ifSet name, cs)

/-- A loop after its opening braces. -/
def forDirective? (cs : List Char) : Option (Directive × List Char) := do
  let (item, cs) ← loopHead? cs
  let cs ← skipBlanks? cs
  let (list, cs) ← wordAt? isIdentStart isIdentRest cs
  let cs ← closeBraces? cs
  some (.forEach item list, cs)

/-- A directive at the start of a text, and what follows it. -/
def directiveAt? (cs : List Char) : Option (Directive × List Char) := do
  let body ← after? ['{', '{'] cs
  (ifDirective? body).or <| (forDirective? body).or <|
    ((after? "else\x7d\x7d".toList body).map fun rest => (.elseMark, rest)).or <|
    ((after? "endif\x7d\x7d".toList body).map fun rest => (.endIf, rest)).or <|
    (after? "endfor\x7d\x7d".toList body).map fun rest => (.endFor, rest)

/-- Puts a character in front of the text that comes first. -/
def consText (c : Char) : List Segment → List Segment
  | .text cs :: rest => .text (c :: cs) :: rest
  | rest => .text [c] :: rest

/-- The directives of a text and the text between them. The fuel is the number
of characters that may be left; a directive that is found takes some of them. -/
def segmentsWithin : Nat → List Char → List Segment
  | 0, _ => []
  | _, [] => []
  | fuel + 1, c :: rest =>
    match directiveAt? (c :: rest) with
    | some (d, tail) => .directive d :: segmentsWithin fuel tail
    | none => consText c (segmentsWithin fuel rest)

/-- The directives of a text and the text between them, from left to right. -/
def segments (cs : List Char) : List Segment :=
  segmentsWithin cs.length cs

/-! ### Nesting -/

/-- A part of a template. -/
inductive Block where
  | text (cs : List Char)
  | choice (name : List Char) (thenBody elseBody : List Block)
  | loop (item list : List Char) (body : List Block)

/-- A template: its parts in order. -/
abbrev Template := List Block

/-- A block that was opened and not yet closed. -/
inductive OpenBlock where
  | thenBranch (name : List Char)
  | elseBranch (name : List Char) (thenBody : List Block)
  | loopBody (item list : List Char)

/-- An open block, with the parts in front of it in reverse. -/
structure Frame where
  opened : OpenBlock
  before : List Block

/-- The deepest allowed nesting of blocks. -/
def maxTemplateDepth : Nat := 20

namespace Template

/-- The fault of a text that ends inside a block. -/
def unclosed : OpenBlock → TemplateError
  | .thenBranch v | .elseBranch v _ => .unclosedIf (String.ofList v)
  | .loopBody item list => .unclosedFor (String.ofList item) (String.ofList list)

/-- Opens a block inside the given frames. -/
def openBlock (block : OpenBlock) (frames : List Frame) (done : List Block) :
    Except TemplateError (List Frame) :=
  if maxTemplateDepth < frames.length + 1 then .error (.depthExceeded maxTemplateDepth)
  else .ok (⟨block, done⟩ :: frames)

/-- Nests segments. `frames` holds the open blocks, innermost first, and `done`
the finished parts of the innermost one in reverse. -/
def nest (frames : List Frame) (done : List Block) :
    List Segment → Except TemplateError Template
  | [] => match frames with
    | [] => .ok done.reverse
    | frame :: _ => .error (unclosed frame.opened)
  | .text cs :: rest => nest frames (.text cs :: done) rest
  | .directive (.ifSet v) :: rest => do
    nest (← openBlock (.thenBranch v) frames done) [] rest
  | .directive (.forEach item list) :: rest => do
    nest (← openBlock (.loopBody item list) frames done) [] rest
  | .directive .elseMark :: rest => match frames with
    | ⟨.thenBranch v, before⟩ :: outer => nest (⟨.elseBranch v done.reverse, before⟩ :: outer) [] rest
    | _ => .error .unexpectedElse
  | .directive .endIf :: rest => match frames with
    | ⟨.thenBranch v, before⟩ :: outer => nest outer (.choice v done.reverse [] :: before) rest
    | ⟨.elseBranch v thenBody, before⟩ :: outer =>
      nest outer (.choice v thenBody done.reverse :: before) rest
    | _ => .error .unexpectedEndif
  | .directive .endFor :: rest => match frames with
    | ⟨.loopBody item list, before⟩ :: outer =>
      nest outer (.loop item list done.reverse :: before) rest
    | _ => .error .unexpectedEndfor

/-- The template of a list of segments. -/
def ofSegments (segments : List Segment) : Except TemplateError Template :=
  nest [] [] segments

end Template

/-! ### Rendering -/

/-- The items of a list value: its parts between commas, trimmed and not empty. -/
def listItems (value : Option String) : List (List Char) :=
  ((splitOn ',' (value.getD "").toList).map trim).filter (!·.isEmpty)

/-- The text with the placeholders of the given items replaced, one item after
the other. -/
def bindItems (items : List (List Char × List Char)) (cs : List Char) : List Char :=
  items.foldl (fun cs item =>
    replaceAll '{' ('{' :: item.1 ++ ['}', '}']) item.2 cs) cs

/-- Whether a variable is bound to a true value. -/
def isSet (env : Environment) (name : List Char) : Bool :=
  (env.lookup (String.ofList name)).any isTruthy

mutual

/-- The text of a block, where `items` are the current items of the enclosing
loops, innermost first. -/
def Block.render (env : Environment) (items : List (List Char × List Char)) : Block → List Char
  | .text cs => bindItems items cs
  | .choice v thenBody elseBody =>
    if isSet env v then Template.render env items thenBody
    else Template.render env items elseBody
  | .loop item list body =>
    (listItems (env.lookup (String.ofList list))).flatMap fun value =>
      Template.render env ((item, value) :: items) body

/-- The text of the blocks of a template. -/
def Template.render (env : Environment) (items : List (List Char × List Char)) :
    List Block → List Char
  | [] => []
  | block :: rest => Block.render env items block ++ Template.render env items rest

end

/-- The text with its directives carried out; tokens stay. -/
def renderTemplate (env : Environment) (text : String) : Except TemplateError String :=
  (Template.ofSegments (segments text.toList)).map fun template =>
    String.ofList (Template.render env [] template)

/-- The content of a file. Directives come first where they are asked for, then
tokens. A text with faulty directives is only substituted, and the fault is
reported. -/
def renderContent (env : Environment) (isTemplate : Bool) (text : String) :
    String × Option TemplateError :=
  if !isTemplate then (substitute env text, none)
  else match renderTemplate env text with
    | .ok expanded => (substitute env expanded, none)
    | .error e => (substitute env text, some e)

/-! ### References -/

/-- A capital letter of ASCII or an underscore. -/
def isCapitalStart (c : Char) : Bool :=
  c.isUpper || c == '_'

/-- The capital variable of a condition or loop at the start of a text, and what
follows the directive. -/
def templateVariableAt? (cs : List Char) : Option (List Char × List Char) := do
  let body ← after? ['{', '{'] cs
  let body ← (after? "if".toList body).or ((loopHead? body).map Prod.snd)
  let body ← skipBlanks? body
  let (name, body) ← wordAt? isCapitalStart isReferenceRest body
  let rest ← closeBraces? body
  some (name, rest)

/-- The capital variables of conditions and loops, from left to right. -/
def templateVariableNames : Nat → List Char → List (List Char)
  | 0, _ => []
  | _, [] => []
  | fuel + 1, c :: rest =>
    match templateVariableAt? (c :: rest) with
    | some (name, tail) => name :: templateVariableNames fuel tail
    | none => templateVariableNames fuel rest

/-- The variables that conditions and loops of a text refer to, ascending. -/
def templateVariables (text : String) : List String :=
  distinctSorted ((templateVariableNames text.toList.length text.toList).map String.ofList)

end Scaffold

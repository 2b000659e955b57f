/-
Patterns that values are checked against.

A `Pattern` is built from a text that passes the screen and is a pattern of the
language; `Pattern.occursIn` decides whether it occurs in a value.
-/
import Scaffold.Pattern.Matcher
import Scaffold.Pattern.Reader
import Scaffold.Pattern.Screen

namespace Scaffold

open Pattern

/-- A pattern that was read, with its program. -/
structure Pattern where
  expr : Expr
  program : Program

namespace Pattern

/-- Why a text gives no pattern. -/
def readFault? (text : String) : Except String Expr :=
  match Expr.read? text.toList with
  | none => .error "regex parse error:"
  | some e =>
    if maxWeight < e.weight then
      .error s!"Compiled regex exceeds size limit of {maxWeight} bytes."
    else .ok e

/-- The pattern of a text, screened for hazards and read. -/
def compile (text : String) (maxLength : Nat) : Except Violation Pattern := do
  checkSafety text maxLength
  match readFault? text with
  | .error reason => .error (.invalidPattern text reason)
  | .ok e => .ok ⟨e, Program.ofExpr e⟩

/-- Whether the pattern occurs in a text. -/
def occursIn (p : Pattern) (text : String) : Bool :=
  p.program.occursIn text.toList

end Pattern

end Scaffold

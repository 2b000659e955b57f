/-
The syntax of patterns: what a pattern text means once it was read.
-/
import Scaffold.Pattern.CharSet

namespace Scaffold.Pattern

/-- A condition on a place between two characters. -/
inductive Look where
  | textStart
  | textEnd
  | lineStart
  | lineEnd
  | lineStartCrlf
  | lineEndCrlf
  | wordBoundary (unicode : Bool)
  | notWordBoundary (unicode : Bool)
  | wordStart (unicode : Bool)
  | wordEnd (unicode : Bool)
  | wordStartHalf (unicode : Bool)
  | wordEndHalf (unicode : Bool)
  deriving Repr, DecidableEq

/-- A pattern. -/
inductive Expr where
  /-- The empty text. -/
  | empty
  /-- One character of a set. -/
  | chars (set : CharSet)
  /-- The empty text, where a condition holds. -/
  | look (l : Look)
  /-- One pattern after the other. -/
  | seq (first second : Expr)
  /-- Either pattern. -/
  | alt (left right : Expr)
  /-- A group. -/
  | group (e : Expr)
  /-- At least `min` times, and at most `max` times if there is a bound. -/
  | rep (e : Expr) (min : Nat) (max : Option Nat)
  deriving Repr

end Scaffold.Pattern

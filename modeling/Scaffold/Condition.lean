/-
Values that decide: truth, repeat counts and loop variables.

* `isTruthy` says which values choose the body of a condition;
* `RepeatCount.read` reads how often a body is repeated;
* `checkLoopVariable` says which names a loop may bind.
-/
import Scaffold.Error
import Scaffold.Text.Blank
import Scaffold.Text.Case
import Scaffold.Text.Decimal
import Scaffold.Text.Letter

namespace Scaffold

open Text

/-- All values are true but the blank ones, `0`, and `false` and `no` in any case. -/
def isTruthy (value : String) : Bool :=
  let bare := asciiLower (trim value.toList)
  !(bare.isEmpty || bare = "0".toList || bare = "false".toList || bare = "no".toList)

/-- How often a body is repeated. -/
inductive RepeatCount where
  /-- A number within the limit. -/
  | times (n : Nat)
  /-- A text that is no number from zero up. -/
  | invalid (text : String)
  /-- A number above the limit. -/
  | tooLarge (count limit : Nat)
  deriving Repr, DecidableEq

/-- The greatest number of a signed word of eight bytes. -/
def maxSigned : Nat := 0x7FFFFFFFFFFFFFFF

/-- The greatest number of an unsigned word of eight bytes. -/
def maxUnsigned : Nat := 0xFFFFFFFFFFFFFFFF

/-- Reads a count, blanks at its ends aside. A number that needs more than eight
bytes with a sign is too large, and so is one above the limit. -/
def RepeatCount.read (text : String) (limit : Nat) : RepeatCount :=
  let bare := trim text.toList
  let invalid := RepeatCount.invalid (String.ofList bare)
  match signed? bare with
  | none => invalid
  | some n =>
    if n < 0 then invalid
    else if n.toNat ≤ maxSigned then
      if limit < n.toNat then .tooLarge n.toNat limit else .times n.toNat
    else if isDigits bare then .tooLarge maxUnsigned limit
    else invalid

/-- A loop may bind an identifier of ASCII letters, digits and underscores that
does not start with a digit. -/
def checkLoopVariable (name : String) : Except Violation String :=
  let cs := name.toList
  if !cs.isEmpty && cs.all isIdentRest && !cs.head?.any Char.isDigit then .ok name
  else .error (.invalidLoopVariable name)

end Scaffold

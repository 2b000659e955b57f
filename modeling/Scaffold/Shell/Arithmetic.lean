/-
Sums of whole numbers of 64 bits.

* `Sum.read` reads an expression with the signs of its operators from weak to strong;
* `Sum.value` is its value for values of its variables, some of which it may set.
-/
import Scaffold.Text.Decimal
import Scaffold.Text.Letter
import Scaffold.Text.Split

namespace Scaffold.Shell

open Text

/-- Why a sum has no value. -/
inductive SumFault where
  | noOperand
  | noEnd
  | noColon
  | noBracket
  | zeroDivisor
  deriving Repr, DecidableEq

/-- The text of a fault in an expression. -/
def SumFault.message (expression : String) : SumFault → String
  | noOperand => s!"arithmetic expression: expecting primary: \"{expression}\""
  | noEnd => s!"arithmetic expression: expecting EOF: \"{expression}\""
  | noColon => s!"arithmetic expression: expecting ':': \"{expression}\""
  | noBracket => s!"arithmetic expression: expecting ')': \"{expression}\""
  | zeroDivisor => s!"arithmetic expression: division by zero: \"{expression}\""

/-- An expression. Setting a variable with a sign takes its old value as the first
operand. -/
inductive Sum where
  | number (n : Int)
  | named (name : String)
  | unary (sign : Char) (operand : Sum)
  | binary (sign : String) (first second : Sum)
  | choice (test yes no : Sum)
  | set (name : String) (sign : Option String) (value : Sum)
  deriving Repr

namespace Sum

/-- A number as its 64 bits say it. -/
def wrap (n : Int) : Int := Int.bmod n 0x10000000000000000

/-- The number of a truth value. -/
def ofBool (b : Bool) : Int := if b then 1 else 0

/-- The signs between two operands, by strength from weak to strong. A sign stands
behind those that it begins. -/
def levels : List (List String) :=
  [["||"], ["&&"], ["|"], ["^"], ["&"], ["==", "!="], ["<=", ">=", "<", ">"], ["<<", ">>"],
   ["+", "-"], ["*", "/", "%"]]

/-- All signs, the longer ones first. -/
def signs : List String :=
  ["||", "&&", "==", "!=", "<=", ">=", "<<", ">>", "|", "^", "&", "<", ">", "+", "-", "*", "/",
   "%"]

/-- The text behind its blanks. -/
def trimmed (cs : List Char) : List Char :=
  cs.dropWhile fun c => c == ' ' || c == '\t' || c == '\n'

/-- The sign at the start of a text, and what follows it. -/
def sign? (cs : List Char) : Option (String × List Char) :=
  signs.findSome? fun sign => (after? sign.toList (trimmed cs)).map fun rest => (sign, rest)

/-- A variable that is set at the start of a text, with the sign in front of the equals
sign, and what follows that. -/
def set? (cs : List Char) : Option (String × Option String × List Char) :=
  let cs := trimmed cs
  if !cs.head?.any isIdentStart then none
  else
    let name := String.ofList (cs.takeWhile isIdentRest)
    let (sign, rest) := match sign? (cs.dropWhile isIdentRest) with
      | some (sign, rest) => (some sign, rest)
      | none => (none, trimmed (cs.dropWhile isIdentRest))
    if sign.any ["||", "&&", "==", "!=", "<=", ">=", "<", ">"].contains then none
    else match rest with
      | '=' :: '=' :: _ => none
      | '=' :: rest => some (name, sign, rest)
      | _ => none

/-- The value of a digit. -/
def digit? (c : Char) : Option Nat :=
  if c.isDigit then some (digitValue c)
  else if 'a' ≤ c && c ≤ 'f' then some (c.toNat - 'a'.toNat + 10)
  else if 'A' ≤ c && c ≤ 'F' then some (c.toNat - 'A'.toNat + 10)
  else none

/-- The number at the start of a text, in decimal, or in another base that its start
tells, and what follows it. -/
def literal? (cs : List Char) : Option (Nat × List Char) :=
  let inBase (base : Nat) (cs : List Char) : Option (Nat × List Char) :=
    let isDigitHere := fun c => (digit? c).any (· < base)
    if cs.head?.any isDigitHere then
      some ((cs.takeWhile isDigitHere).foldl (fun n c => base * n + (digit? c).getD 0) 0,
        cs.dropWhile isDigitHere)
    else none
  match cs with
  | '0' :: 'x' :: rest | '0' :: 'X' :: rest => inBase 16 rest
  | '0' :: _ => inBase 8 cs
  | _ => inBase 10 cs

mutual

/-- An expression at the start of a text, in at most `bound` steps. -/
def readChoice : Nat → List Char → Except SumFault (Sum × List Char)
  | 0, _ => .error .noOperand
  | bound + 1, cs => do
    match set? cs with
    | some (name, sign, rest) =>
      let (value, rest) ← readChoice bound rest
      return (.set name sign value, rest)
    | none =>
      let (test, rest) ← readLevel bound levels cs
      match trimmed rest with
      | '?' :: rest =>
        let (yes, rest) ← readChoice bound rest
        match trimmed rest with
        | ':' :: rest =>
          let (no, rest) ← readChoice bound rest
          return (.choice test yes no, rest)
        | _ => throw .noColon
      | rest => return (test, rest)

/-- Operands between signs of one strength. -/
def readLevel : Nat → List (List String) → List Char → Except SumFault (Sum × List Char)
  | 0, _, _ => .error .noOperand
  | bound + 1, [], cs => readOperand bound cs
  | bound + 1, level :: stronger, cs => do
    let (first, rest) ← readLevel bound stronger cs
    readLevelRest bound level stronger first rest

/-- The operands behind a first one. -/
def readLevelRest : Nat → List String → List (List String) → Sum → List Char →
    Except SumFault (Sum × List Char)
  | 0, _, _, _, _ => .error .noOperand
  | bound + 1, level, stronger, first, cs => do
    match sign? cs with
    | some (sign, rest) =>
      if level.contains sign then
        let (second, rest) ← readLevel bound stronger rest
        readLevelRest bound level stronger (.binary sign first second) rest
      else return (first, cs)
    | none => return (first, cs)

/-- An operand: a number, a variable, or an expression in brackets, behind its signs. -/
def readOperand : Nat → List Char → Except SumFault (Sum × List Char)
  | 0, _ => .error .noOperand
  | bound + 1, cs => do
    match trimmed cs with
    | '(' :: rest =>
      let (inner, rest) ← readChoice bound rest
      match trimmed rest with
      | ')' :: rest => return (inner, rest)
      | _ => throw .noBracket
    | c :: rest =>
      if ['-', '+', '!', '~'].contains c then
        let (operand, rest) ← readOperand bound rest
        return (.unary c operand, rest)
      else if isIdentStart c then
        return (.named (String.ofList (c :: rest.takeWhile isIdentRest)),
          rest.dropWhile isIdentRest)
      else match literal? (c :: rest) with
        | some (n, rest) => return (.number n, rest)
        | none => throw .noOperand
    | [] => throw .noOperand

end

/-- The expression of a text. -/
def read (cs : List Char) : Except SumFault Sum := do
  let (sum, rest) ← readChoice (16 * (cs.length + 2)) cs
  if (trimmed rest).isEmpty then return sum
  throw .noEnd

/-- The value of two operands with a sign between them. -/
def combine (sign : String) (a b : Int) : Except SumFault Int :=
  match sign with
  | "+" => .ok (wrap (a + b))
  | "-" => .ok (wrap (a - b))
  | "*" => .ok (wrap (a * b))
  | "/" => if b = 0 then .error .zeroDivisor else .ok (wrap (Int.tdiv a b))
  | "%" => if b = 0 then .error .zeroDivisor else .ok (Int.tmod a b)
  | "<<" => .ok (wrap (a * Nat.pow 2 (b % 64).toNat))
  | ">>" => .ok (a / Nat.pow 2 (b % 64).toNat)
  | "<" => .ok (ofBool (a < b))
  | ">" => .ok (ofBool (b < a))
  | "<=" => .ok (ofBool (a ≤ b))
  | ">=" => .ok (ofBool (b ≤ a))
  | "==" => .ok (ofBool (a = b))
  | "!=" => .ok (ofBool (a ≠ b))
  | "&" => .ok (((Int64.ofInt a) &&& (Int64.ofInt b)).toInt)
  | "^" => .ok (((Int64.ofInt a) ^^^ (Int64.ofInt b)).toInt)
  | _ => .ok (((Int64.ofInt a) ||| (Int64.ofInt b)).toInt)

/-- Working out a value, with the variables that were set on the way, last first. -/
abbrev Evaluation := StateT (List (String × Int)) (Except SumFault)

/-- The value of an expression. The second operand of a logical sign counts only if the
first does not settle it. -/
def value (known : String → Int) : Sum → Evaluation Int
  | number n => return wrap n
  | named name => return valueOf (← get) name
  | unary sign operand => do
    let a ← operand.value known
    return match sign with
      | '-' => wrap (-a)
      | '!' => ofBool (a = 0)
      | '~' => -a - 1
      | _ => a
  | binary "&&" first second => do
    let a ← first.value known
    if a = 0 then return 0
    let b ← second.value known
    return ofBool (b ≠ 0)
  | binary "||" first second => do
    let a ← first.value known
    if a ≠ 0 then return 1
    let b ← second.value known
    return ofBool (b ≠ 0)
  | binary sign first second => do
    let a ← first.value known
    let b ← second.value known
    combine sign a b
  | choice test yes no => do
    let a ← test.value known
    if a ≠ 0 then yes.value known else no.value known
  | set name sign given => do
    let b ← given.value known
    let c ← match sign with
      | some sign => combine sign (valueOf (← get) name) b
      | none => pure b
    modify fun done => (name, c) :: done
    return c
where
  /-- The value of a variable. -/
  valueOf (done : List (String × Int)) (name : String) : Int :=
    (done.lookup name).getD (known name)

end Sum

end Scaffold.Shell

/-
Conditions on texts, numbers and files.

A condition is a row of words. `Condition.holds` decides it, given what is at paths; a
sign between two operands is looked for before one in front of an operand.
-/
import Scaffold.Host
import Scaffold.Text.Decimal

namespace Scaffold.Shell

open Text

/-- Why a condition cannot be decided. -/
inductive ConditionFault where
  | noOperand (sign : String)
  | noNumber (text : String)
  | unexpected (word : String)
  | notClosed (word : String)
  deriving Repr, DecidableEq

/-- The text of a fault in a condition of some name. -/
def ConditionFault.message (name : String) : ConditionFault → String
  | noOperand sign => s!"{name}: {sign}: argument expected"
  | noNumber text => s!"{name}: Illegal number: {text}"
  | unexpected word => s!"{name}: {word}: unexpected operator"
  | notClosed word => s!"{name}: {word}: closing paren expected"

namespace Condition

/-- The signs in front of one operand. -/
def unarySigns : List String :=
  ["-n", "-z", "-e", "-f", "-d", "-r", "-w", "-x", "-s", "-L", "-h", "-t", "-p", "-S", "-b", "-c",
   "-u", "-g", "-k", "-O", "-G"]

/-- The signs between two operands. -/
def binarySigns : List String :=
  ["=", "!=", "<", ">", "-eq", "-ne", "-gt", "-ge", "-lt", "-le", "-nt", "-ot", "-ef"]

/-- What is known of the files of a condition: what is at a path, and whether it may be
run. -/
structure Files where
  entry : String → Option Entry
  isRunnable : String → Bool

/-- The number of an operand. -/
def number (text : String) : Except ConditionFault Int :=
  let trimmed := ((text.toList.dropWhile (· == ' ')).reverse.dropWhile (· == ' ')).reverse
  match signed? trimmed with
  | some n => .ok n
  | none => .error (.noNumber text)

/-- The truth of a sign in front of an operand. -/
def unary (files : Files) (sign operand : String) : Bool :=
  let entry := files.entry operand
  match sign with
  | "-n" => operand != ""
  | "-z" => operand == ""
  | "-e" | "-r" | "-w" => entry.isSome
  | "-f" => entry.any Entry.isFile
  | "-d" => entry.any Entry.isFolder
  | "-s" => entry.any fun e => e.isFolder || 0 < e.size
  | "-x" => entry.any fun e => e.isFolder || files.isRunnable operand
  | "-O" | "-G" => entry.isSome
  | _ => false

/-- The truth of a sign between two operands. -/
def binary (files : Files) (sign a b : String) : Except ConditionFault Bool := do
  match sign with
  | "=" => return a == b
  | "!=" => return a != b
  | "<" => return a < b
  | ">" => return b < a
  | "-nt" => return (files.entry a).isSome && (files.entry b).isNone
  | "-ot" => return (files.entry a).isNone && (files.entry b).isSome
  | "-ef" => return a == b && (files.entry a).isSome
  | _ =>
    let m ← number a
    let n ← number b
    return match sign with
      | "-eq" => m = n
      | "-ne" => m ≠ n
      | "-gt" => n < m
      | "-ge" => n ≤ m
      | "-lt" => m < n
      | _ => m ≤ n

/-- A truth value, the word that was read last, and the words that are left. -/
abbrev Found := Bool × String × List String

mutual

/-- Conditions of which one has to hold. -/
def either (files : Files) : Nat → List String → Except ConditionFault Found
  | 0, words => .ok (false, "", words)
  | bound + 1, words => do
    let (a, last, rest) ← both files bound words
    match rest with
    | "-o" :: rest =>
      let (b, last, rest) ← either files bound rest
      return (a || b, last, rest)
    | rest => return (a, last, rest)

/-- Conditions that have to hold together. -/
def both (files : Files) : Nat → List String → Except ConditionFault Found
  | 0, words => .ok (false, "", words)
  | bound + 1, words => do
    let (a, last, rest) ← negated files bound words
    match rest with
    | "-a" :: rest =>
      let (b, last, rest) ← both files bound rest
      return (a && b, last, rest)
    | rest => return (a, last, rest)

/-- A condition that an exclamation mark may turn around. -/
def negated (files : Files) : Nat → List String → Except ConditionFault Found
  | 0, words => .ok (false, "", words)
  | bound + 1, words => do
    match words with
    | "!" :: next :: rest =>
      if binarySigns.contains next && !rest.isEmpty then single files bound words
      else
        let (a, last, rest) ← negated files bound (next :: rest)
        return (!a, last, rest)
    | words => single files bound words

/-- A condition on its own. -/
def single (files : Files) : Nat → List String → Except ConditionFault Found
  | 0, words => .ok (false, "", words)
  | bound + 1, words => do
    match words with
    | [] => return (false, "", [])
    | a :: sign :: b :: rest =>
      if binarySigns.contains sign then return (← binary files sign a b, b, rest)
      else if a == "(" then
        let (inner, last, rest) ← either files bound (sign :: b :: rest)
        match rest with
        | ")" :: rest => return (inner, ")", rest)
        | _ => throw (.notClosed last)
      else if unarySigns.contains a then return (unary files a sign, sign, b :: rest)
      else return (a != "", a, sign :: b :: rest)
    | [a, b] =>
      if binarySigns.contains b then throw (.noOperand b)
      else if unarySigns.contains a then return (unary files a b, b, [])
      else return (a != "", a, [b])
    | [a] => return (a != "", a, [])

end

/-- Whether a condition holds. -/
def holds (files : Files) (words : List String) : Except ConditionFault Bool := do
  let (answer, last, rest) ← either files (8 * words.length + 8) words
  if rest.isEmpty then return answer
  throw (.unexpected last)


end Condition

end Scaffold.Shell

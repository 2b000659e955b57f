/-
Rules for the values of variables.

A rule may require a value, bound its length and ask for a pattern.
* `Rule.faults` lists what a value breaks;
* `checkRules` checks every rule, in the order of the variables' names.
-/
import Scaffold.Limits
import Scaffold.Pattern
import Scaffold.Variable.Scope

namespace Scaffold

open Text Variable

/-- What is asked of the value of one variable. -/
structure Rule where
  required : Bool := false
  minLength : Option Nat := none
  maxLength : Option Nat := none
  pattern : Option String := none
  deriving Repr, DecidableEq, Inhabited

/-- A rule that a value breaks. -/
structure RuleFault where
  variableName : String
  message : String
  deriving Repr, DecidableEq

/-- What a pattern finds wrong with a value, of which only a start is read. -/
def patternFaults (limits : Limits) (name pattern value : String) : List String :=
  match Pattern.compile pattern limits.maxPatternLength with
  | .ok p =>
    if p.occursIn (String.ofList (value.toList.take limits.maxValidationInput)) then []
    else [s!"{name} does not match required pattern"]
  | .error (.invalidPattern _ reason) => [s!"Invalid regex pattern for {name}: {reason}"]
  | .error other => [other.message]

/-- What is wrong with a value, or with the rule itself. A value that is blank
is only asked whether it may be. -/
def Rule.faults (rule : Rule) (limits : Limits) (name value : String) : List String :=
  let length := value.toList.length
  match rule.minLength, rule.maxLength with
  | some low, some high =>
    if high < low then [s!"Invalid rule for {name}: minimum length {low} exceeds maximum {high}"]
    else rest length
  | _, _ => rest length
where
  /-- What is wrong with a value under a rule whose bounds make sense. -/
  rest (length : Nat) : List String :=
    if (trim value.toList).isEmpty then
      if rule.required then [s!"{name} is required"] else []
    else
      ((rule.minLength.filter (length < ·)).map fun low =>
        s!"{name} must be at least {low} characters").toList
      ++ ((rule.maxLength.filter (· < length)).map fun high =>
        s!"{name} must be at most {high} characters").toList
      ++ ((rule.pattern.map fun p => patternFaults limits name p value).getD [])

/-- What the values of an environment break, rule by rule. -/
def checkRules (limits : Limits) (env : Environment) (rules : Dictionary String Rule) :
    List RuleFault :=
  rules.entries.flatMap fun (key, rule) =>
    let name := String.ofList (trimBy (· == '%') key.toList)
    (rule.faults limits name ((env.lookup key).getD "")).map fun message => ⟨name, message⟩

end Scaffold

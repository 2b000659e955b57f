/-
Putting the values of variables in place of their tokens.

* `substituteWith` replaces each token whose variable has a value by that value,
  transformed and escaped; all other text stays, and values are not read again;
* `substitute` is the case without escaping;
* `referenced` lists the variables that a text refers to by a capital name.
-/
import Scaffold.Token
import Scaffold.Transform
import Scaffold.Variable.Scope

namespace Scaffold

open Text Variable

/-- The value that a token stands for, transformed, if its variable has one. -/
def Environment.valueOf? (env : Environment) (t : Token) : Option (List Char) :=
  (env.lookup (String.ofList t.name)).map fun value =>
    match t.chain with
    | none => value.toList
    | some chain => Transform.applyChain env.today value.toList chain

/-- What a piece becomes: the escaped value of a token, or the piece itself. -/
def Piece.replace (env : Environment) (escape : List Char → List Char) : Piece → List Char
  | .plain c => [c]
  | .token t =>
    match Environment.valueOf? env t with
    | some value => escape value
    | none => t.text

/-- The characters of a text with tokens replaced by escaped values. -/
def substituteChars (env : Environment) (escape : List Char → List Char) (cs : List Char) :
    List Char :=
  (pieces cs).flatMap (Piece.replace env escape)

/-- The text with tokens replaced by escaped values. -/
def substituteWith (env : Environment) (escape : List Char → List Char) (text : String) :
    String :=
  String.ofList (substituteChars env escape text.toList)

/-- The text with tokens replaced by values. -/
def substitute (env : Environment) (text : String) : String :=
  substituteWith env id text

/-! ### References -/

/-- A capital letter of ASCII. -/
def isReferenceStart (c : Char) : Bool :=
  c.isUpper

/-- A capital letter or digit of ASCII, or an underscore. -/
def isReferenceRest (c : Char) : Bool :=
  c.isUpper || c.isDigit || c == '_'

/-- A reference without its first percent sign: a capital name, then a percent
sign, or a colon and anything up to a percent sign. -/
def referenceAfterPercent? (cs : List Char) : Option (List Char × List Char) :=
  match cs with
  | [] => none
  | c :: _ =>
    if !isReferenceStart c then none
    else match cs.dropWhile isReferenceRest with
      | '%' :: tail => some (cs.takeWhile isReferenceRest, tail)
      | ':' :: body =>
        match body.dropWhile (· != '%') with
        | _ :: tail => some (cs.takeWhile isReferenceRest, tail)
        | [] => none
      | _ => none

/-- What follows a reference is shorter than the text it was read from. -/
theorem referenceAfterPercent?_length {cs name rest : List Char}
    (h : referenceAfterPercent? cs = some (name, rest)) : rest.length < cs.length := by
  have hdrop : (cs.dropWhile isReferenceRest).length ≤ cs.length :=
    (List.dropWhile_sublist _).length_le
  cases cs with
  | nil => simp [referenceAfterPercent?] at h
  | cons c r =>
    simp only [referenceAfterPercent?] at h
    split at h
    · simp at h
    · split at h
      · rename_i tail htail
        simp only [Option.some.injEq, Prod.mk.injEq] at h
        rw [htail] at hdrop
        rw [← h.2]
        simp at hdrop ⊢
        omega
      · rename_i body hbody
        split at h
        · rename_i x tail htail
          simp only [Option.some.injEq, Prod.mk.injEq] at h
          have hb : (body.dropWhile (· != '%')).length ≤ body.length :=
            (List.dropWhile_sublist _).length_le
          rw [hbody] at hdrop
          rw [htail] at hb
          rw [← h.2]
          simp at hdrop hb ⊢
          omega
        · simp at h
      · simp at h

/-- The names of the references of a text, from left to right. -/
def referenceNames (cs : List Char) : List (List Char) :=
  match cs with
  | [] => []
  | c :: rest =>
    if c == '%' then
      match _h : referenceAfterPercent? rest with
      | some (name, tail) => name :: referenceNames tail
      | none => referenceNames rest
    else referenceNames rest
termination_by cs.length
decreasing_by
  · have := referenceAfterPercent?_length _h; simp; omega
  · simp
  · simp

/-- Names without repetition, ascending. -/
def distinctSorted (names : List String) : List String :=
  (names.foldl (fun (d : Dictionary String Unit) name => d.insert name ()) ∅).keys

/-- The variables that a text refers to, ascending. -/
def referenced (text : String) : List String :=
  distinctSorted ((referenceNames text.toList).map String.ofList)

end Scaffold

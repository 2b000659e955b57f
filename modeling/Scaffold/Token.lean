/-
Variable tokens in text.

A token is `%NAME%` or `%NAME:CHAIN%`, where the chain is one or more transforms
joined by bars, each a name with an optional argument in parentheses.

* `Token.afterPercent?` reads a token whose percent sign was already read;
* `pieces` cuts a text into tokens and the characters between them, from left
  to right and without overlap;
* `Piece.text` writes a piece, and `text_pieces` says that nothing is lost.
-/
import Scaffold.Text.Letter

namespace Scaffold

open Text

/-- A variable token: a name, and the text of its chain of transforms. -/
structure Token where
  name : List Char
  chain : Option (List Char)
  deriving Repr, DecidableEq

namespace Token

/-- The token as it is written. -/
def text (t : Token) : List Char :=
  '%' :: t.name ++ (match t.chain with
    | none => []
    | some chain => ':' :: chain) ++ ['%']

/-- A letter of ASCII, an underscore or a hyphen: what transform names consist of. -/
def isTransformChar (c : Char) : Bool :=
  c.isAlpha || c == '_' || c == '-'

/-- What an argument may hold: all but a closing parenthesis and a percent sign. -/
def isArgumentChar (c : Char) : Bool :=
  c != ')' && c != '%'

/-- One transform at the start of a text, and what follows it. -/
def transformAt? (cs : List Char) : Option (List Char × List Char) :=
  match cs.takeWhile isTransformChar, cs.dropWhile isTransformChar with
  | [], _ => none
  | name, '(' :: body =>
    match body.dropWhile isArgumentChar with
    | ')' :: tail => some (name ++ '(' :: body.takeWhile isArgumentChar ++ [')'], tail)
    | _ => none
  | name, rest => some (name, rest)

/-- A transform that was read is a nonempty start of the text. -/
theorem transformAt?_eq_append {cs step rest : List Char}
    (h : transformAt? cs = some (step, rest)) : cs = step ++ rest ∧ step ≠ [] := by
  have hcs := (List.takeWhile_append_dropWhile (p := isTransformChar) (l := cs)).symm
  unfold transformAt? at h
  split at h
  · simp at h
  · rename_i body hdrop hne
    have hb := (List.takeWhile_append_dropWhile (p := isArgumentChar) (l := body)).symm
    split at h
    · rename_i tail htail
      simp only [Option.some.injEq, Prod.mk.injEq] at h
      obtain ⟨rfl, rfl⟩ := h
      refine ⟨?_, by simp⟩
      rw [hdrop] at hcs
      rw [htail] at hb
      refine hcs.trans ?_
      rw [List.append_assoc, List.cons_append, List.append_assoc]
      exact congrArg (cs.takeWhile isTransformChar ++ '(' :: ·) (by simpa using hb)
    · simp at h
  · rename_i hne hparen
    simp only [Option.some.injEq, Prod.mk.injEq] at h
    obtain ⟨rfl, rfl⟩ := h
    exact ⟨hcs, hne⟩

/-- A chain of transforms joined by bars, and what follows it. -/
def chainAt? (cs : List Char) : Option (List Char × List Char) :=
  match _h : transformAt? cs with
  | none => none
  | some (step, '|' :: tail) =>
    (chainAt? tail).map fun (steps, rest) => (step ++ '|' :: steps, rest)
  | some (step, rest) => some (step, rest)
termination_by cs.length
decreasing_by
  have := (transformAt?_eq_append _h).1
  simp [this]; omega

/-- A chain that was read is a start of the text. -/
theorem chainAt?_eq_append {cs chain rest : List Char}
    (h : chainAt? cs = some (chain, rest)) : cs = chain ++ rest := by
  fun_induction chainAt? cs generalizing chain rest with
  | case1 => simp at h
  | case2 cs step tail hstep ih =>
    obtain ⟨⟨steps, last⟩, hs, heq⟩ := Option.map_eq_some_iff.mp h
    simp only [Prod.mk.injEq] at heq
    obtain ⟨rfl, rfl⟩ := heq
    rw [(transformAt?_eq_append hstep).1, ih hs]
    simp
  | case3 cs step tail hbar hstep =>
    simp only [Option.some.injEq, Prod.mk.injEq] at h
    obtain ⟨rfl, rfl⟩ := h
    exact (transformAt?_eq_append hstep).1

/-- A token without its first percent sign, at the start of a text, and what
follows the token. -/
def afterPercent? (cs : List Char) : Option (Token × List Char) :=
  if !cs.head?.any isIdentStart then none
  else match cs.dropWhile isIdentRest with
    | '%' :: tail => some (⟨cs.takeWhile isIdentRest, none⟩, tail)
    | ':' :: body =>
      match chainAt? body with
      | some (chain, '%' :: tail) => some (⟨cs.takeWhile isIdentRest, some chain⟩, tail)
      | _ => none
    | _ => none

/-- A token that was read is a start of the text. -/
theorem afterPercent?_eq_append {cs rest : List Char} {t : Token}
    (h : afterPercent? cs = some (t, rest)) : '%' :: cs = t.text ++ rest := by
  have hcs := (List.takeWhile_append_dropWhile (p := isIdentRest) (l := cs)).symm
  unfold afterPercent? at h
  split at h
  · simp at h
  · split at h
    · rename_i tail htail
      simp only [Option.some.injEq, Prod.mk.injEq] at h
      obtain ⟨rfl, rfl⟩ := h
      rw [htail] at hcs
      exact (congrArg ('%' :: ·) hcs).trans (by simp [text])
    · rename_i body hbody
      split at h
      · rename_i chain tail hchain
        simp only [Option.some.injEq, Prod.mk.injEq] at h
        obtain ⟨rfl, rfl⟩ := h
        rw [hbody, chainAt?_eq_append hchain] at hcs
        exact (congrArg ('%' :: ·) hcs).trans (by simp [text])
      · simp at h
    · simp at h

/-- What follows a token is shorter than the text it was read from. -/
theorem afterPercent?_length {cs rest : List Char} {t : Token}
    (h : afterPercent? cs = some (t, rest)) : rest.length < cs.length := by
  have := congrArg List.length (afterPercent?_eq_append h)
  simp [text] at this
  omega

end Token

/-- A part of a text: a token, or one character outside tokens. -/
inductive Piece where
  | plain (c : Char)
  | token (t : Token)
  deriving Repr, DecidableEq

/-- The piece as it is written. -/
def Piece.text : Piece → List Char
  | .plain c => [c]
  | .token t => t.text

/-- The tokens of a text and the characters between them. At each place a token
is read if one starts there, and one character otherwise. -/
def pieces (cs : List Char) : List Piece :=
  match cs with
  | [] => []
  | c :: rest =>
    if c == '%' then
      match _h : Token.afterPercent? rest with
      | some (t, tail) => .token t :: pieces tail
      | none => .plain c :: pieces rest
    else .plain c :: pieces rest
termination_by cs.length
decreasing_by
  · have := Token.afterPercent?_length _h; simp; omega
  · simp
  · simp

/-- The pieces of a text, written one after the other, give the text back. -/
theorem text_pieces (cs : List Char) : (pieces cs).flatMap Piece.text = cs := by
  fun_induction pieces cs with
  | case1 => rfl
  | case2 c rest hc t tail h ih =>
    rw [List.flatMap_cons, ih, Piece.text, ← Token.afterPercent?_eq_append h, eq_of_beq hc]
  | case3 c rest hc h ih => simp [Piece.text, ih]
  | case4 c rest hc ih => simp [Piece.text, ih]

/-- Whether a text holds a token. -/
def hasTokens (text : String) : Bool :=
  (pieces text.toList).any fun
    | .token _ => true
    | .plain _ => false

end Scaffold

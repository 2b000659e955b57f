import Mathlib
import Scaffold.Proofs.Directives
import Scaffold.Substitution

/-!
The tokens of a text, and what substitution puts in their place.

* `Token.IsWellFormed`: a token has an identifier for a name, and may have a chain of
  transforms (`Token.IsChain`). A text starts with at most one such token
  (`Token.afterPercent?_eq_some_iff`);
* `Tokenized`: a text is cut into tokens and the text between them, from left to right. No
  token starts within the latter. `tokenized_iff`: there is one such cut;
* `substituteWith_replaces_tokens`: hence substitution puts values in place of the tokens of
  this cut, and leaves all else alone.
-/

namespace Scaffold

open Text Variable

/-! ### Well-formed tokens -/

namespace Token

/-- A transform: a name, which an argument in parentheses may follow. -/
inductive IsTransform : List Char → Prop
  | plain {name : List Char} : name ≠ [] → (∀ c ∈ name, isTransformChar c) → IsTransform name
  | applied {name argument : List Char} : name ≠ [] → (∀ c ∈ name, isTransformChar c) →
      (∀ c ∈ argument, isArgumentChar c) → IsTransform (name ++ '(' :: argument ++ [')'])

/-- One transform, or several joined by bars. -/
inductive IsChain : List Char → Prop
  | one {step : List Char} : IsTransform step → IsChain step
  | bar {step steps : List Char} : IsTransform step → IsChain steps → IsChain (step ++ '|' :: steps)

/-- No percent sign is in a chain. -/
lemma IsChain.not_mem {chain : List Char} (h : IsChain chain) : '%' ∉ chain := by
  have hstep : ∀ step, IsTransform step → '%' ∉ step := by
    intro step hstep hmem
    cases hstep with
    | plain _ hname => exact absurd (hname _ hmem) (by decide)
    | @applied name argument _ hname hargument =>
        simp only [List.append_assoc, List.cons_append, List.mem_append, List.mem_cons,
          List.not_mem_nil, or_false] at hmem
        obtain hmem | hmem | hmem | hmem := hmem
        · exact absurd (hname _ hmem) (by decide)
        · exact absurd hmem (by decide)
        · exact absurd (hargument _ hmem) (by decide)
        · exact absurd hmem (by decide)
  induction h with
  | one h => exact hstep _ h
  | bar h _ ih => simpa using ⟨hstep _ h, ih⟩

/-- The name is an identifier, and the chain consists of transforms. -/
structure IsWellFormed (t : Token) : Prop where
  name : IsWord isIdentStart isIdentRest t.name
  chain : ∀ chain ∈ t.chain, IsChain chain

section Reading

variable {cs rest : List Char} {t : Token}

/-- The name of a transform ends at what it does not go on with. -/
lemma takeWhile_dropWhile_name {name : List Char} (hname : ∀ c ∈ name, isTransformChar c)
    (hrest : ∀ c ∈ rest.head?, isTransformChar c = false) :
    (name ++ rest).takeWhile isTransformChar = name ∧
      (name ++ rest).dropWhile isTransformChar = rest :=
  takeWhile_dropWhile_iff.mpr ⟨rfl, hname, hrest⟩

/-- A transform is read up to a bar or a percent sign. -/
lemma IsTransform.transformAt?_append {step : List Char} (h : IsTransform step) {c : Char}
    (hc : c = '|' ∨ c = '%') (tail : List Char) :
    transformAt? (step ++ c :: tail) = some (step, c :: tail) := by
  cases h with
  | plain hne hname =>
      obtain ⟨d, more, rfl⟩ := List.exists_cons_of_ne_nil hne
      have hend : ∀ e ∈ (c :: tail).head?, isTransformChar e = false := by
        rcases hc with rfl | rfl <;> simp <;> decide
      obtain ⟨htake, hdrop⟩ := takeWhile_dropWhile_name hname hend
      rw [transformAt?, htake, hdrop]
      rcases hc with rfl | rfl <;> rfl
  | @applied name argument hne hname hargument =>
      obtain ⟨d, more, rfl⟩ := List.exists_cons_of_ne_nil hne
      have hparen : ∀ e ∈ ('(' :: (argument ++ ')' :: c :: tail)).head?,
          isTransformChar e = false := by
        simp; decide
      obtain ⟨htake, hdrop⟩ := takeWhile_dropWhile_name hname hparen
      have hclose : ∀ e ∈ (')' :: c :: tail).head?, isArgumentChar e = false := by
        simp; decide
      obtain ⟨hargs, hbody⟩ :=
        takeWhile_dropWhile_iff.mpr ⟨(rfl : argument ++ ')' :: c :: tail = _), hargument, hclose⟩
      have hcut : d :: more ++ '(' :: argument ++ [')'] ++ c :: tail =
          d :: more ++ '(' :: (argument ++ ')' :: c :: tail) := by simp
      rw [hcut, transformAt?, htake, hdrop]
      simp only [hbody, hargs]

lemma IsTransform.of_transformAt? {step : List Char} (h : transformAt? cs = some (step, rest)) :
    IsTransform step := by
  have hname : ∀ c ∈ cs.takeWhile isTransformChar, isTransformChar c :=
    fun c hc => List.mem_takeWhile_imp hc
  unfold transformAt? at h
  split at h
  · simp at h
  · rename_i body hdrop hne
    split at h
    · obtain ⟨rfl, -⟩ := Prod.mk.inj (Option.some.inj h)
      exact .applied hne hname fun c hc => List.mem_takeWhile_imp hc
    · simp at h
  · rename_i hne hparen
    obtain ⟨rfl, -⟩ : _ = step ∧ _ = rest := by simpa using h
    exact .plain hne hname

/-- A chain is read up to a percent sign. -/
lemma IsChain.chainAt?_append {chain : List Char} (h : IsChain chain) (tail : List Char) :
    chainAt? (chain ++ '%' :: tail) = some (chain, '%' :: tail) := by
  induction h with
  | one hstep =>
      have hread := hstep.transformAt?_append (.inr rfl) tail
      rw [chainAt?]
      split <;> simp_all
  | @bar step steps hstep _ ih =>
      have hread := hstep.transformAt?_append (.inl rfl) (steps ++ '%' :: tail)
      have hcut : step ++ '|' :: steps ++ '%' :: tail = step ++ '|' :: (steps ++ '%' :: tail) := by
        simp
      rw [hcut, chainAt?]
      split <;> simp_all

lemma IsChain.of_chainAt? {chain : List Char} (h : chainAt? cs = some (chain, rest)) :
    IsChain chain := by
  fun_induction chainAt? cs generalizing chain rest with
  | case1 => simp at h
  | case2 cs step tail hstep ih =>
      obtain ⟨⟨steps, last⟩, hsteps, heq⟩ := Option.map_eq_some_iff.mp h
      obtain ⟨rfl, -⟩ : step ++ '|' :: steps = chain ∧ last = rest := by simpa using heq
      exact .bar (.of_transformAt? hstep) (ih hsteps)
  | case3 cs step tail hbar hstep =>
      obtain ⟨rfl, -⟩ : step = chain ∧ tail = rest := by simpa using h
      exact .one (.of_transformAt? hstep)

lemma isWord_takeWhile (h : cs.head?.any isIdentStart) :
    IsWord isIdentStart isIdentRest (cs.takeWhile isIdentRest) := by
  refine ⟨?_, fun c hc => List.mem_takeWhile_imp hc⟩
  cases cs with
  | nil => simp at h
  | cons c tail =>
      have hc : isIdentStart c := by simpa using h
      exact ⟨c, by simp [isIdentRest_of_start hc], hc⟩

/-- The name of a token is read up to a colon or a percent sign. -/
lemma takeWhile_dropWhile_word {name : List Char} (hname : IsWord isIdentStart isIdentRest name)
    (c : Char) (hc : isIdentRest c = false) (tail : List Char) :
    (name ++ c :: tail).head?.any isIdentStart = true ∧
      (name ++ c :: tail).takeWhile isIdentRest = name ∧
      (name ++ c :: tail).dropWhile isIdentRest = c :: tail := by
  refine ⟨?_, takeWhile_dropWhile_iff.mpr ⟨rfl, hname.2, by simpa using hc⟩⟩
  obtain ⟨⟨d, hd, hstart⟩, -⟩ := hname
  cases name with
  | nil => simp at hd
  | cons e more =>
      obtain rfl : e = d := by simpa using hd
      simpa using hstart

/-- What is read behind a percent sign is a well-formed token, and any such token is read. -/
lemma afterPercent?_eq_some_iff :
    afterPercent? cs = some (t, rest) ↔ t.IsWellFormed ∧ '%' :: cs = t.text ++ rest := by
  constructor
  · intro h
    refine ⟨?_, afterPercent?_eq_append h⟩
    unfold afterPercent? at h
    split at h
    · simp at h
    rename_i hstart
    have hname : IsWord isIdentStart isIdentRest (cs.takeWhile isIdentRest) :=
      isWord_takeWhile (by simpa using hstart)
    split at h
    · obtain ⟨rfl, -⟩ : _ = t ∧ _ = rest := by simpa using h
      exact ⟨hname, by simp⟩
    · split at h
      · rename_i chain tail hchain
        obtain ⟨rfl, -⟩ : _ = t ∧ _ = rest := by simpa using h
        exact ⟨hname, by simpa using IsChain.of_chainAt? hchain⟩
      · simp at h
    · simp at h
  · obtain ⟨name, chain⟩ := t
    rintro ⟨⟨hname, hchain⟩, heq⟩
    cases chain with
    | none =>
        obtain rfl : cs = name ++ '%' :: rest := by simpa [text] using heq
        obtain ⟨hstart, htake, hdrop⟩ :=
          takeWhile_dropWhile_word hname '%' (by decide) rest
        rw [afterPercent?, hstart, hdrop, htake]
        rfl
    | some chain =>
        obtain rfl : cs = name ++ ':' :: (chain ++ '%' :: rest) := by simpa [text] using heq
        obtain ⟨hstart, htake, hdrop⟩ :=
          takeWhile_dropWhile_word hname ':' (by decide) (chain ++ '%' :: rest)
        rw [afterPercent?, hstart, hdrop, htake]
        simp [(hchain chain rfl).chainAt?_append rest]

end Reading

end Token

/-! ### Cutting a text -/

/-- A token is written at the start of a text. -/
def StartsToken (cs : List Char) : Prop :=
  ∃ t : Token, t.IsWellFormed ∧ t.text <+: cs

lemma Token.afterPercent?_eq_none_iff {cs : List Char} :
    afterPercent? cs = none ↔ ¬ StartsToken ('%' :: cs) := by
  rw [← not_iff_not, not_not, ← ne_eq, Option.ne_none_iff_exists']
  constructor
  · rintro ⟨⟨t, rest⟩, h⟩
    obtain ⟨ht, hcut⟩ := afterPercent?_eq_some_iff.mp h
    exact ⟨t, ht, rest, hcut.symm⟩
  · rintro ⟨t, ht, rest, hcut⟩
    exact ⟨(t, rest), afterPercent?_eq_some_iff.mpr ⟨ht, hcut.symm⟩⟩

/-- A token starts with a percent sign. -/
lemma not_startsToken_of_ne {c : Char} {cs : List Char} (hc : c ≠ '%') :
    ¬ StartsToken (c :: cs) := by
  rintro ⟨t, -, hstart⟩
  have heq : '%' = c := by
    rw [Token.text, List.cons_append] at hstart
    exact (List.cons_prefix_cons.mp hstart).1
  exact hc heq.symm

/-- No token starts within a piece of text, wherever it ends in what follows. -/
def IsFree (piece rest : List Char) : Prop :=
  ∀ back, back ≠ [] → back <:+ piece → ¬ StartsToken (back ++ rest)

lemma isFree_nil (rest : List Char) : IsFree [] rest :=
  fun _ hne hback => absurd (List.suffix_nil.mp hback) hne

lemma isFree_cons_iff {c : Char} {piece rest : List Char} :
    IsFree (c :: piece) rest ↔ ¬ StartsToken (c :: (piece ++ rest)) ∧ IsFree piece rest := by
  constructor
  · intro h
    exact ⟨h (c :: piece) (by simp) List.suffix_rfl,
      fun back hne hback => h back hne (hback.trans (List.suffix_cons c piece))⟩
  · rintro ⟨hstart, hpiece⟩ back hne hback
    obtain rfl | hback := List.suffix_cons_iff.mp hback
    · exact hstart
    · exact hpiece back hne hback

/-- A text cut into tokens, from left to right: the text before the first token, and each
token with the text behind it. No token starts within these texts. -/
inductive Tokenized : List Char → List Char → List (Token × List Char) → Prop
  | last {piece : List Char} : IsFree piece [] → Tokenized piece piece []
  | token {piece rest next : List Char} {t : Token} {marks : List (Token × List Char)} :
      IsFree piece (t.text ++ rest) → t.IsWellFormed → Tokenized rest next marks →
      Tokenized (piece ++ (t.text ++ rest)) piece ((t, next) :: marks)

/-- The text before the first token of a list of pieces, and each token with the text behind
it. -/
def gather : List Piece → List Char × List (Token × List Char)
  | [] => ([], [])
  | .plain c :: ps => (c :: (gather ps).1, (gather ps).2)
  | .token t :: ps => ([], (t, (gather ps).1) :: (gather ps).2)

/-- Pieces may be written one by one, or text and tokens in turn. -/
lemma flatMap_gather {write : Piece → List Char} (hplain : ∀ c, write (.plain c) = [c])
    (ps : List Piece) :
    ps.flatMap write =
      (gather ps).1 ++ (gather ps).2.flatMap fun mark => write (.token mark.1) ++ mark.2 := by
  induction ps with
  | nil => rfl
  | cons p ps ih =>
      rw [List.flatMap_cons, ih]
      cases p with
      | plain c => simp [gather, hplain]
      | token t => simp [gather]

/-- A character that no token starts with comes before the text that follows. -/
lemma Tokenized.cons {c : Char} {cs front : List Char} {marks : List (Token × List Char)}
    (hstart : ¬ StartsToken (c :: cs)) (h : Tokenized cs front marks) :
    Tokenized (c :: cs) (c :: front) marks := by
  cases h with
  | last hfree => exact .last (isFree_cons_iff.mpr ⟨by simpa using hstart, hfree⟩)
  | token hfree ht hrest => exact .token (isFree_cons_iff.mpr ⟨hstart, hfree⟩) ht hrest

/-- The pieces that are found are a cut of the text. -/
lemma tokenized_gather (cs : List Char) :
    Tokenized cs (gather (pieces cs)).1 (gather (pieces cs)).2 := by
  fun_induction pieces cs with
  | case1 => exact .last (isFree_nil [])
  | case2 c rest hc t tail h ih =>
      obtain ⟨ht, hcut⟩ := Token.afterPercent?_eq_some_iff.mp h
      rw [eq_of_beq hc, hcut]
      exact .token (isFree_nil _) ht ih
  | case3 c rest hc h ih =>
      rw [eq_of_beq hc]
      exact ih.cons (Token.afterPercent?_eq_none_iff.mp h)
  | case4 c rest hc ih => exact ih.cons (not_startsToken_of_ne (by simpa using hc))

lemma pieces_of_startsToken {t : Token} (ht : t.IsWellFormed) (rest : List Char) :
    pieces (t.text ++ rest) = .token t :: pieces rest := by
  have hread : Token.afterPercent? ((t.text ++ rest).tail) = some (t, rest) :=
    Token.afterPercent?_eq_some_iff.mpr ⟨ht, by simp [Token.text]⟩
  obtain ⟨tail, htail⟩ : ∃ tail, t.text ++ rest = '%' :: tail := ⟨_, rfl⟩
  rw [htail, List.tail_cons] at hread
  rw [htail, pieces, if_pos (beq_self_eq_true '%')]
  split <;> simp_all

lemma pieces_cons_of_not_startsToken {c : Char} {cs : List Char}
    (h : ¬ StartsToken (c :: cs)) : pieces (c :: cs) = .plain c :: pieces cs := by
  rw [pieces]
  split_ifs with hc
  · rw [eq_of_beq hc] at h
    have hread := Token.afterPercent?_eq_none_iff.mpr h
    split <;> simp_all
  · rfl

/-- Text that no token starts in is cut into characters. -/
lemma IsFree.pieces_append {piece rest : List Char} (h : IsFree piece rest) :
    pieces (piece ++ rest) = piece.map .plain ++ pieces rest := by
  induction piece with
  | nil => rfl
  | cons c piece ih =>
      obtain ⟨hstart, hfree⟩ := isFree_cons_iff.mp h
      rw [List.cons_append, pieces_cons_of_not_startsToken hstart, ih hfree]
      rfl

lemma gather_plain_append (piece : List Char) (ps : List Piece) :
    gather (piece.map .plain ++ ps) = (piece ++ (gather ps).1, (gather ps).2) := by
  induction piece with
  | nil => rfl
  | cons c piece ih => simp [gather, ih]

/-- A cut of the text is what is found. -/
lemma Tokenized.gather_eq {cs front : List Char} {marks : List (Token × List Char)}
    (h : Tokenized cs front marks) : gather (pieces cs) = (front, marks) := by
  induction h with
  | @last piece hfree =>
      have hpieces : pieces (piece ++ []) = piece.map .plain ++ pieces [] := hfree.pieces_append
      rw [List.append_nil] at hpieces
      rw [hpieces, gather_plain_append]
      simp [pieces, gather]
  | @token piece rest next t marks hfree ht _ ih =>
      rw [hfree.pieces_append, gather_plain_append, pieces_of_startsToken ht, gather, ih,
        List.append_nil]

/-- A text is cut in one way, and that one is found. -/
lemma tokenized_iff {cs front : List Char} {marks : List (Token × List Char)} :
    Tokenized cs front marks ↔ gather (pieces cs) = (front, marks) := by
  refine ⟨Tokenized.gather_eq, fun h => ?_⟩
  have hfound := tokenized_gather cs
  rwa [h] at hfound

lemma any_token_iff (ps : List Piece) :
    (ps.any fun
      | .token _ => true
      | .plain _ => false) = true ↔ (gather ps).2 ≠ [] := by
  induction ps with
  | nil => simp [gather]
  | cons p ps ih => cases p <;> simp [gather, ih]

/-- **Substitution replaces the tokens of a text.** The text is cut into tokens and the text
between them in one way, such that no token starts within the latter. Each token whose variable
has a value becomes this value, transformed and then escaped; other tokens and the text between
them stay, and values are not read again. The text has tokens if there are any in this cut. -/
theorem substituteWith_replaces_tokens (text : String) :
    ∃ front marks,
      (∀ front' marks', Tokenized text.toList front' marks' ↔ front' = front ∧ marks' = marks) ∧
      (∀ (env : Environment) (escape : List Char → List Char),
        substituteWith env escape text = String.ofList (front ++ marks.flatMap fun (t, next) =>
          (Environment.valueOf? env t).elim t.text escape ++ next)) ∧
      (hasTokens text ↔ marks ≠ []) := by
  refine ⟨(gather (pieces text.toList)).1, (gather (pieces text.toList)).2, ?_, ?_, ?_⟩
  · intro front' marks'
    rw [tokenized_iff, Prod.ext_iff]
    exact and_congr eq_comm eq_comm
  · intro env escape
    rw [substituteWith, substituteChars, flatMap_gather fun _ => rfl]
    refine congrArg (fun marks => String.ofList (_ ++ marks)) (List.flatMap_congr ?_)
    rintro ⟨t, next⟩ -
    dsimp only [Piece.replace]
    cases Environment.valueOf? env t <;> rfl
  · exact any_token_iff _

end Scaffold

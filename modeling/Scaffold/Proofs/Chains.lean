import Mathlib.Tactic
import Scaffold.Proofs.Tokens

/-!
Chains of transforms.

A token takes the argument of a transform up to the first closing parenthesis, while a chain is
cut at the bars outside of parentheses, and these nest.

* `Transform.splitChain_transform`: what an argument opens stays open behind the transform;
* `Transform.splitChain_join`: so a chain is cut at its bars up to the first transform whose argument has
  an opening parenthesis (`Token.HasPlainArgument` says that it has none), and the rest of the
  chain goes with this one;
* `chain_applies_left_to_right`: hence transforms are applied from left to right where no
  argument but the last one has an opening parenthesis;
* `chain_after_open_argument`: a chain with such an argument, where the rest of the chain is
  taken for a part of the argument.
-/

namespace Scaffold

open Text Variable

/-- The argument of a transform, if there is one, has no opening parenthesis. -/
def Token.HasPlainArgument (step : List Char) : Prop :=
  step.count '(' ≤ 1

instance : DecidablePred Token.HasPlainArgument :=
  fun _ => inferInstanceAs (Decidable (_ ≤ _))

/-! ### Cutting a chain -/

namespace Transform

variable {depth : ℕ} {c : Char} {step : List Char} {steps : List (List Char)}

/-- The parentheses that are open behind a character. -/
def depthAfter (depth : ℕ) (c : Char) : ℕ :=
  if c == '(' then depth + 1 else if c == ')' then depth - 1 else depth

lemma splitChain_ne_nil (depth : ℕ) (cs : List Char) : splitChain depth cs ≠ [] := by
  cases cs with
  | nil => simp [splitChain]
  | cons c rest =>
      rw [splitChain]
      split
      · simp
      · dsimp only
        generalize splitChain _ rest = steps
        cases steps <;> simp

/-- A character at which a chain is not cut belongs to the step in front. -/
lemma splitChain_cons (h : ¬ (c = '|' ∧ depth = 0)) (rest : List Char) :
    splitChain depth (c :: rest) =
      (splitChain (depthAfter depth c) rest).modifyHead (c :: ·) := by
  rw [splitChain, if_neg (by simpa using h), depthAfter]
  dsimp only
  generalize (if c == '(' then depth + 1 else if c == ')' then depth - 1 else depth) = after
  cases hrest : splitChain after rest with
  | nil => exact absurd hrest (splitChain_ne_nil _ _)
  | cons piece pieces => rfl

/-- Text without closing parentheses belongs to the step in front if it has no bars, or if a
parenthesis is open before it. -/
lemma splitChain_text {piece : List Char} (hclose : ')' ∉ piece) (hbar : 0 < depth ∨ '|' ∉ piece)
    (rest : List Char) :
    splitChain depth (piece ++ rest) =
      (splitChain (depth + piece.count '(') rest).modifyHead (piece ++ ·) := by
  induction piece generalizing depth with
  | nil => exact (List.modifyHead_id ▸ rfl)
  | cons c piece ih =>
      simp only [List.mem_cons, not_or] at hclose hbar
      have hc : ¬ (c = '|' ∧ depth = 0) := fun ⟨hc, hdepth⟩ =>
        hbar.elim (fun h => absurd hdepth h.ne') (fun h => h.1 hc.symm)
      have hdepth : depthAfter depth c + piece.count '(' = depth + (c :: piece).count '(' := by
        by_cases hopen : c = '('
        · simp [depthAfter, hopen]
          omega
        · simp [depthAfter, hopen, Ne.symm hclose.1]
      have hbar' : 0 < depthAfter depth c ∨ '|' ∉ piece := by
        refine hbar.imp (fun h => ?_) (·.2)
        simp only [depthAfter, beq_iff_eq, Ne.symm hclose.1, if_false]
        split_ifs <;> omega
      rw [List.cons_append, splitChain_cons hc, ih hclose.2 hbar', List.modifyHead_modifyHead,
        hdepth]
      rfl

/-- The name of a transform neither opens nor closes a parenthesis, and has no bar. -/
lemma not_mem_name {name : List Char} (h : ∀ c ∈ name, Token.isTransformChar c) :
    '(' ∉ name ∧ ')' ∉ name ∧ '|' ∉ name := by
  refine ⟨fun hmem => ?_, fun hmem => ?_, fun hmem => ?_⟩ <;>
    exact absurd (h _ hmem) (by decide)

/-- **A transform belongs to the step in front**, and what its argument opens stays open behind
it. -/
lemma splitChain_transform (h : Token.IsTransform step) (depth : ℕ) (rest : List Char) :
    splitChain depth (step ++ rest) =
      (splitChain (depth + (step.count '(' - 1)) rest).modifyHead (step ++ ·) := by
  cases h with
  | plain _ hname =>
      obtain ⟨hopen, hclose, hbar⟩ := not_mem_name hname
      rw [splitChain_text hclose (.inr hbar), List.count_eq_zero_of_not_mem hopen]
  | @applied name argument _ hname hargument =>
      obtain ⟨hopen, hclose, hbar⟩ := not_mem_name hname
      have hargument : ')' ∉ argument := fun hmem => absurd (hargument _ hmem) (by decide)
      have hopened : (name ++ ['(']).count '(' = 1 := by
        simp [List.count_eq_zero_of_not_mem hopen]
      have hcount : (name ++ '(' :: argument ++ [')']).count '(' - 1 = argument.count '(' := by
        simp [List.count_eq_zero_of_not_mem hopen]
      have hcut : name ++ '(' :: argument ++ [')'] ++ rest =
          (name ++ ['(']) ++ (argument ++ ')' :: rest) := by simp
      have hdepth : depthAfter (depth + 1 + argument.count '(') ')' =
          depth + argument.count '(' := by
        simp only [depthAfter, beq_iff_eq, Char.reduceEq, if_false, if_true]
        omega
      rw [hcut, splitChain_text (by simpa using hclose) (.inr (by simpa using hbar)), hopened,
        splitChain_text hargument (.inl (Nat.succ_pos depth)), splitChain_cons (by simp), hdepth,
        hcount, List.modifyHead_modifyHead, List.modifyHead_modifyHead]
      congr 1
      funext cs
      simp

lemma join_cons_cons (step next : List Char) (rest : List (List Char)) :
    join ['|'] (step :: next :: rest) = step ++ '|' :: join ['|'] (next :: rest) := by
  simp [join]

/-- A chain is not cut where a parenthesis is open. -/
lemma splitChain_join_of_open (hne : steps ≠ []) (h : ∀ step ∈ steps, Token.IsTransform step)
    (hdepth : 0 < depth) : splitChain depth (join ['|'] steps) = [join ['|'] steps] := by
  induction steps generalizing depth with
  | nil => exact absurd rfl hne
  | cons step rest ih =>
      have hstep := splitChain_transform (h step (by simp)) depth
      cases rest with
      | nil => simpa [join, splitChain] using hstep []
      | cons next rest =>
          have hopen : 0 < depth + (step.count '(' - 1) := by omega
          have hrest := ih (by simp) (fun step hmem => h step (by simp [hmem])) hopen
          have hbar : depthAfter (depth + (step.count '(' - 1)) '|' =
              depth + (step.count '(' - 1) := rfl
          rw [join_cons_cons, hstep, splitChain_cons (by omega), hbar, hrest]
          rfl

/-- **A chain is cut at its bars up to the first transform whose argument has an opening
parenthesis.** The rest of the chain goes with this transform. -/
lemma splitChain_join {front rest : List (List Char)}
    (hfront : ∀ step ∈ front, Token.IsTransform step ∧ Token.HasPlainArgument step)
    (hrest : ∀ next ∈ step :: rest, Token.IsTransform next)
    (hopen : rest ≠ [] → ¬ Token.HasPlainArgument step) :
    splitChain 0 (join ['|'] (front ++ step :: rest)) = front ++ [join ['|'] (step :: rest)] := by
  induction front with
  | nil =>
      have hstep := splitChain_transform (hrest step (by simp)) 0
      cases rest with
      | nil =>
          have hnone (depth : ℕ) : splitChain depth [] = [[]] := rfl
          simpa [join, hnone] using hstep []
      | cons next rest =>
          have hcount : 0 < 0 + (step.count '(' - 1) := by
            have h := hopen (by simp)
            rw [Token.HasPlainArgument] at h
            omega
          have hbar : depthAfter (0 + (step.count '(' - 1)) '|' = 0 + (step.count '(' - 1) := rfl
          rw [List.nil_append, join_cons_cons, hstep, splitChain_cons (by omega), hbar,
            splitChain_join_of_open (by simp) (fun next hmem => hrest next (by simp [hmem])) hcount]
          rfl
  | cons first front ih =>
      obtain ⟨hfirst, hplain⟩ := hfront first (by simp)
      have hclosed : first.count '(' - 1 = 0 := Nat.sub_eq_zero_of_le hplain
      obtain ⟨next, more, hmore⟩ := List.exists_cons_of_ne_nil
        (show front ++ step :: rest ≠ [] by simp)
      rw [List.cons_append, hmore, join_cons_cons, splitChain_transform hfirst, hclosed, ← hmore]
      have hcut : splitChain (0 + 0) ('|' :: join ['|'] (front ++ step :: rest)) =
          [] :: splitChain 0 (join ['|'] (front ++ step :: rest)) := rfl
      rw [hcut, ih fun step hmem => hfront step (by simp [hmem]), List.modifyHead_cons,
        List.append_nil]
      rfl

end Transform

/-! ### Chains in tokens -/

/-- Transforms joined by bars are a chain. -/
lemma Token.isChain_join {steps : List (List Char)} (hne : steps ≠ [])
    (h : ∀ step ∈ steps, IsTransform step) : IsChain (join ['|'] steps) := by
  induction steps with
  | nil => exact absurd rfl hne
  | cons step rest ih =>
      cases rest with
      | nil => exact .one (h step (by simp))
      | cons next rest =>
          rw [Transform.join_cons_cons]
          exact .bar (h step (by simp)) (ih (by simp) fun step hmem => h step (by simp [hmem]))

/-- A text that is a token becomes the value of the token. -/
lemma substitute_token {env : Environment} {t : Token} {value : List Char} (ht : t.IsWellFormed)
    (hvalue : Environment.valueOf? env t = some value) :
    substitute env (String.ofList t.text) = String.ofList value := by
  have hpieces : pieces t.text = [.token t] := by
    simpa [pieces] using pieces_of_startsToken ht []
  rw [substitute, substituteWith, substituteChars, String.toList_ofList, hpieces]
  simp [Piece.replace, hvalue]

section Applying

variable {env : Environment} {name : List Char} {value : String}

/-- Transforms are applied one after the other up to the first one whose argument has an opening
parenthesis. With the rest of the chain, this one is the last to be applied. -/
theorem substitute_chain {front rest : List (List Char)} {step : List Char}
    (hname : IsWord isIdentStart isIdentRest name)
    (hvalue : env.lookup (String.ofList name) = some value)
    (hfront : ∀ step ∈ front, Token.IsTransform step ∧ Token.HasPlainArgument step)
    (hrest : ∀ next ∈ step :: rest, Token.IsTransform next)
    (hopen : rest ≠ [] → ¬ Token.HasPlainArgument step) :
    substitute env (String.ofList
        (Token.text ⟨name, some (join ['|'] (front ++ step :: rest))⟩)) =
      String.ofList ((Transform.ofText (join ['|'] (step :: rest))).apply env.today
        (front.foldl (fun value step => (Transform.ofText step).apply env.today value)
          value.toList)) := by
  have hsteps : ∀ next ∈ front ++ step :: rest, Token.IsTransform next := by
    intro next hnext
    obtain hnext | hnext := List.mem_append.mp hnext
    · exact (hfront next hnext).1
    · exact hrest next hnext
  have htoken : Token.IsWellFormed ⟨name, some (join ['|'] (front ++ step :: rest))⟩ := by
    refine ⟨hname, ?_⟩
    rintro chain ⟨⟩
    exact Token.isChain_join (by simp) hsteps
  refine substitute_token htoken ?_
  rw [Environment.valueOf?, hvalue, Option.map_some]
  dsimp only
  rw [Transform.applyChain, Transform.splitChain_join hfront hrest hopen, List.foldl_append]
  rfl

/-- **Transforms are applied from left to right**, if no argument but that of the last one has
an opening parenthesis. -/
theorem chain_applies_left_to_right {steps : List (List Char)}
    (hname : IsWord isIdentStart isIdentRest name)
    (hvalue : env.lookup (String.ofList name) = some value) (hne : steps ≠ [])
    (hsteps : ∀ step ∈ steps, Token.IsTransform step)
    (hplain : ∀ step ∈ steps.dropLast, Token.HasPlainArgument step) :
    substitute env (String.ofList (Token.text ⟨name, some (join ['|'] steps)⟩)) =
      String.ofList (steps.foldl
        (fun value step => (Transform.ofText step).apply env.today value) value.toList) := by
  obtain ⟨front, step, rfl⟩ := (List.eq_nil_or_concat' steps).resolve_left hne
  rw [List.dropLast_concat] at hplain
  rw [List.foldl_append]
  exact substitute_chain hname hvalue
    (fun next hnext => ⟨hsteps next (by simp [hnext]), hplain next hnext⟩)
    (fun next hnext => hsteps next (by simpa using Or.inr hnext)) (by simp)

end Applying

/-! ### A date in capitals -/

/-- Whatever is asked for is this day. -/
def leapDay : Environment := ⟨⟨2024, 3, 1, by decide⟩, fun _ => some "2024-02-29"⟩

lemma isTransform_upper : Token.IsTransform "upper".toList :=
  .plain (by decide) (List.all_eq_true.mp (by decide))

lemma isTransform_format (pattern : List Char) (h : pattern.all Token.isArgumentChar) :
    Token.IsTransform ("format".toList ++ '(' :: pattern ++ [')']) :=
  .applied (by decide) (List.all_eq_true.mp (by decide)) (List.all_eq_true.mp h)

/-- Bars may stand in an argument, and opening parentheses in the last one. -/
theorem chain_applies_to_date :
    let steps := ["upper".toList, "format(MMM|D)".toList, "upper".toList, "format(()".toList]
    (∀ step ∈ steps, Token.IsTransform step) ∧
      (∀ step ∈ steps.dropLast, Token.HasPlainArgument step) ∧
      substitute leapDay "%DATE:upper|format(MMM|D)|upper|format(()%" = "FEB|29" := by
  intro steps
  have hsteps : ∀ step ∈ steps, Token.IsTransform step := by
    have hpattern : Token.IsTransform "format(MMM|D)".toList :=
      isTransform_format "MMM|D".toList (by decide)
    have hlast : Token.IsTransform "format(()".toList :=
      isTransform_format ['('] (by decide)
    simp only [steps, List.forall_mem_cons]
    exact ⟨isTransform_upper, hpattern, isTransform_upper, hlast, by simp⟩
  have hplain : ∀ step ∈ steps.dropLast, Token.HasPlainArgument step := by decide
  have hname : IsWord isIdentStart isIdentRest "DATE".toList := by decide
  have hvalue : leapDay.lookup (String.ofList "DATE".toList) = some "2024-02-29" := rfl
  have happly := chain_applies_left_to_right hname hvalue (by decide) hsteps hplain
  exact ⟨hsteps, hplain, happly.trans (by decide +kernel)⟩

/-- **An opening parenthesis in an argument holds the rest of the chain back.** The date is
written together with what should be the next transform, and not in capitals. -/
theorem chain_after_open_argument :
    let steps := ["format(YYYY (MMM)".toList, "upper".toList]
    (∀ step ∈ steps, Token.IsTransform step) ∧
      substitute leapDay "%DATE:format(YYYY (MMM)|upper%" = "2024 (Feb)|upper" ∧
      String.ofList (steps.foldl
        (fun value step => (Transform.ofText step).apply leapDay.today value)
        "2024-02-29".toList) = "2024 (FEB" := by
  intro steps
  have hsteps : ∀ step ∈ steps, Token.IsTransform step := by
    have hpattern : Token.IsTransform "format(YYYY (MMM)".toList :=
      isTransform_format "YYYY (MMM".toList (by decide)
    simp only [steps, List.forall_mem_cons]
    exact ⟨hpattern, isTransform_upper, by simp⟩
  have hname : IsWord isIdentStart isIdentRest "DATE".toList := by decide
  have hvalue : leapDay.lookup (String.ofList "DATE".toList) = some "2024-02-29" := rfl
  have hchain := substitute_chain hname hvalue (List.forall_mem_nil _) hsteps fun _ => by decide
  exact ⟨hsteps, hchain.trans (by decide +kernel), by decide +kernel⟩

end Scaffold

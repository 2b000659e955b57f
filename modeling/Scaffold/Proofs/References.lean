import Mathlib.Tactic
import Scaffold.Proofs.Dictionary
import Scaffold.Proofs.Tokens

/-!
The variables that a text refers to.

References are looked for apart from tokens: a reference has a capital name, and any text may
stand in it behind a colon.

* `IsReference`: the ways to write a reference. A text starts with at most one
  (`referenceAfterPercent?_eq_some_iff`);
* `Searched`: how far a search for references has come, from left to right and without overlap.
  `mem_referenceNames_iff`: what is read on its way is what is found;
* `Searched.reaches_or_crosses`: a search comes by each place of a text, or reads a reference
  across it. So it misses a reference only if another one is read whose last percent sign is the
  first one of this (`Clipped`);
* `tokens_are_referenced`: hence a text refers to the variables of its tokens with capital
  names, save those that are clipped, and substitution reads no other variables;
* `clipped_token_is_missed`: a token that is clipped by text in front of it.
-/

namespace Scaffold

open Text Variable

/-! ### Written references -/

/-- The ways to write a reference: a capital name between percent signs. A colon and any text
without percent signs may follow the name. -/
inductive IsReference : List Char → List Char → Prop
  | plain {name : List Char} : IsWord isReferenceStart isReferenceRest name →
      IsReference name ('%' :: (name ++ ['%']))
  | extended {name more : List Char} : IsWord isReferenceStart isReferenceRest name →
      '%' ∉ more → IsReference name ('%' :: (name ++ ':' :: (more ++ ['%'])))

/-- A reference is written at the start of a text. -/
def StartsReference (cs : List Char) : Prop :=
  ∃ name w, IsReference name w ∧ w <+: cs

section Reading

variable {cs rest name w : List Char}

lemma isReferenceRest_of_start {c : Char} (h : isReferenceStart c) : isReferenceRest c := by
  simp only [isReferenceStart, isReferenceRest, Bool.or_eq_true] at h ⊢
  exact .inl (.inl h)

lemma IsReference.not_mem_name (h : IsWord isReferenceStart isReferenceRest name) : '%' ∉ name :=
  fun hmem => absurd (h.2 _ hmem) (by decide)

/-- The percent signs of a reference are its first and its last character. A capital letter
follows the first one. -/
lemma IsReference.eq_inside (h : IsReference name w) :
    ∃ inside, w = '%' :: (inside ++ ['%']) ∧ '%' ∉ inside ∧
      ∃ c ∈ inside.head?, isReferenceStart c := by
  cases h with
  | plain hname => exact ⟨name, rfl, not_mem_name hname, hname.1⟩
  | @extended more hname hmore =>
      obtain ⟨c, hc, hstart⟩ := hname.1
      obtain ⟨tail, htail⟩ := List.head?_eq_some_iff.mp hc
      refine ⟨name ++ ':' :: more, by simp, ?_, c, by simp [htail], hstart⟩
      simpa [hmore] using not_mem_name hname

/-- What is read behind a percent sign is a reference, and any reference is read. -/
lemma referenceAfterPercent?_eq_some_iff :
    referenceAfterPercent? cs = some (name, rest) ↔
      ∃ w, IsReference name w ∧ '%' :: cs = w ++ rest := by
  constructor
  · intro h
    unfold referenceAfterPercent? at h
    split at h
    · simp at h
    rename_i c more
    split at h
    · simp at h
    rename_i hstart
    have hcut := (List.takeWhile_append_dropWhile (p := isReferenceRest) (l := c :: more)).symm
    have hname : IsWord isReferenceStart isReferenceRest
        ((c :: more).takeWhile isReferenceRest) := by
      have hc : isReferenceStart c := by simpa using hstart
      exact ⟨⟨c, by simp [isReferenceRest_of_start hc], hc⟩, fun d hd => List.mem_takeWhile_imp hd⟩
    split at h
    · rename_i tail htail
      obtain ⟨rfl, rfl⟩ : _ = name ∧ _ = rest := by simpa using h
      rw [htail] at hcut
      exact ⟨_, .plain hname, (congrArg ('%' :: ·) hcut).trans (by simp)⟩
    · rename_i body hbody
      split at h
      · rename_i d tail htail
        obtain ⟨rfl, rfl⟩ : _ = name ∧ _ = rest := by simpa using h
        obtain ⟨hmore, hall, hend⟩ := takeWhile_dropWhile_iff.mp ⟨rfl, htail⟩
        obtain rfl : d = '%' := by simpa using hend d rfl
        have hno : '%' ∉ body.takeWhile (· != '%') := fun hmem => by simpa using hall _ hmem
        rw [hbody, hmore] at hcut
        exact ⟨_, .extended hname hno, (congrArg ('%' :: ·) hcut).trans (by simp)⟩
      · simp at h
    · simp at h
  · rintro ⟨w, hw, hcut⟩
    have hword (c : Char) (hc : isReferenceRest c = false) (tail : List Char)
        (hname : IsWord isReferenceStart isReferenceRest name) :
        ∃ d more, name ++ c :: tail = d :: more ∧ isReferenceStart d ∧
          (d :: more).takeWhile isReferenceRest = name ∧
          (d :: more).dropWhile isReferenceRest = c :: tail := by
      obtain ⟨⟨d, hd, hstart⟩, hall⟩ := hname
      obtain ⟨more, rfl⟩ := List.head?_eq_some_iff.mp hd
      exact ⟨d, _, rfl, hstart, takeWhile_dropWhile_iff.mpr ⟨rfl, hall, by simpa using hc⟩⟩
    cases hw with
    | plain hname =>
        obtain ⟨d, more, hcons, hstart, htake, hdrop⟩ := hword '%' (by decide) rest hname
        obtain rfl : cs = d :: more := by simpa [← hcons] using hcut
        simp [referenceAfterPercent?, hstart, htake, hdrop]
    | @extended more hname hmore =>
        obtain ⟨d, tail, hcons, hstart, htake, hdrop⟩ :=
          hword ':' (by decide) (more ++ '%' :: rest) hname
        obtain rfl : cs = d :: tail := by simpa [← hcons] using hcut
        have hbody : (more ++ '%' :: rest).dropWhile (· != '%') = '%' :: rest :=
          (takeWhile_dropWhile_iff.mpr ⟨rfl,
            fun c hc => by simpa using ne_of_mem_of_not_mem hc hmore, by simp⟩).2
        simp [referenceAfterPercent?, hstart, htake, hdrop, hbody]

lemma referenceAfterPercent?_eq_none_iff :
    referenceAfterPercent? cs = none ↔ ¬ StartsReference ('%' :: cs) := by
  rw [← not_iff_not, not_not, ← ne_eq, Option.ne_none_iff_exists']
  constructor
  · rintro ⟨⟨name, rest⟩, h⟩
    obtain ⟨w, hw, hcut⟩ := referenceAfterPercent?_eq_some_iff.mp h
    exact ⟨name, w, hw, rest, hcut.symm⟩
  · rintro ⟨name, w, hw, rest, hcut⟩
    exact ⟨(name, rest), referenceAfterPercent?_eq_some_iff.mpr ⟨w, hw, hcut.symm⟩⟩

/-- A reference starts with a percent sign. -/
lemma not_startsReference_of_ne {c : Char} (hc : c ≠ '%') : ¬ StartsReference (c :: cs) := by
  rintro ⟨name, w, hw, hstart⟩
  obtain ⟨inside, rfl, -, -⟩ := hw.eq_inside
  exact hc (List.cons_prefix_cons.mp hstart).1.symm

lemma referenceNames_reference (h : IsReference name w) (rest : List Char) :
    referenceNames (w ++ rest) = name :: referenceNames rest := by
  obtain ⟨inside, rfl, -, -⟩ := h.eq_inside
  have hread : referenceAfterPercent? (inside ++ ['%'] ++ rest) = some (name, rest) :=
    referenceAfterPercent?_eq_some_iff.mpr ⟨_, h, rfl⟩
  rw [List.cons_append, referenceNames, if_pos (beq_self_eq_true '%')]
  split <;> simp_all

lemma referenceNames_cons {c : Char} (h : ¬ StartsReference (c :: cs)) :
    referenceNames (c :: cs) = referenceNames cs := by
  rw [referenceNames]
  split_ifs with hc
  · rw [eq_of_beq hc] at h
    have hread := referenceAfterPercent?_eq_none_iff.mpr h
    split <;> simp_all
  · rfl

end Reading

/-! ### A search for references -/

/-- How far a search for references in a text has come: what is behind it, and what is ahead.
It goes on behind a reference that starts here, and one character further otherwise. -/
inductive Searched (cs : List Char) : List Char → List Char → Prop
  | start : Searched cs [] cs
  | step {done rest : List Char} {c : Char} : Searched cs done (c :: rest) →
      ¬ StartsReference (c :: rest) → Searched cs (done ++ [c]) rest
  | read {done rest name w : List Char} : Searched cs done (w ++ rest) → IsReference name w →
      Searched cs (done ++ w) rest

/-- A search reads a reference of which the last percent sign is the one behind some text. -/
def Clipped (cs before : List Char) : Prop :=
  ∃ done w rest name, Searched cs done (w ++ rest) ∧ IsReference name w ∧
    done ++ w = before ++ ['%']

section Searching

variable {cs done rest name w : List Char}

lemma Searched.append_eq (h : Searched cs done rest) : done ++ rest = cs := by
  induction h with
  | start => rfl
  | step _ _ ih | read _ _ ih => simpa using ih

lemma Searched.trans {done' rest' : List Char} (h : Searched cs done rest)
    (h' : Searched rest done' rest') : Searched cs (done ++ done') rest' := by
  induction h' with
  | start => simpa using h
  | step _ hstart ih => simpa using ih.step hstart
  | read _ hw ih => simpa using ih.read hw

/-- The names that are found ahead are found in the whole text. -/
lemma Searched.referenceNames_suffix (h : Searched cs done rest) :
    referenceNames rest <:+ referenceNames cs := by
  induction h with
  | start => exact List.suffix_rfl
  | step _ hstart ih => exact referenceNames_cons hstart ▸ ih
  | @read _ rest name w _ hw ih =>
      rw [referenceNames_reference hw] at ih
      exact (List.suffix_cons name _).trans ih

/-- **The names that are found** are those of the references that a search reads. -/
lemma mem_referenceNames_iff :
    name ∈ referenceNames cs ↔
      ∃ done w rest, Searched cs done (w ++ rest) ∧ IsReference name w := by
  constructor
  · intro h
    fun_induction referenceNames cs with
    | case1 => simp at h
    | case2 c rest hc first tail hread ih =>
        obtain ⟨w, hw, hcut⟩ := referenceAfterPercent?_eq_some_iff.mp hread
        rw [eq_of_beq hc, hcut]
        obtain rfl | hmem := List.mem_cons.mp h
        · exact ⟨[], w, tail, .start, hw⟩
        · obtain ⟨done, w', more, hsearched, hw'⟩ := ih hmem
          have hfirst : Searched (w ++ tail) ([] ++ w) tail := Searched.start.read hw
          exact ⟨_, w', more, hfirst.trans hsearched, hw'⟩
    | case3 c rest hc hread ih =>
        obtain ⟨done, w, more, hsearched, hw⟩ := ih h
        have hnone := referenceAfterPercent?_eq_none_iff.mp hread
        exact ⟨_, w, more, (Searched.start.step (eq_of_beq hc ▸ hnone)).trans hsearched, hw⟩
    | case4 c rest hc ih =>
        obtain ⟨done, w, more, hsearched, hw⟩ := ih h
        have hnone : ¬ StartsReference (c :: rest) := not_startsReference_of_ne (by simpa using hc)
        exact ⟨_, w, more, (Searched.start.step hnone).trans hsearched, hw⟩
  · rintro ⟨done, w, rest, hsearched, hw⟩
    refine hsearched.referenceNames_suffix.subset ?_
    rw [referenceNames_reference hw]
    exact List.mem_cons_self

/-- **A search comes by each place of a text, or reads a reference across it.** -/
lemma Searched.reaches_or_crosses {more target : List Char}
    (h : Searched cs done (more ++ target)) :
    Searched cs (done ++ more) target ∨
      ∃ passed w rest name front back, Searched cs passed (w ++ rest) ∧ IsReference name w ∧
        w = front ++ back ∧ front ≠ [] ∧ back ≠ [] ∧ passed ++ front = done ++ more := by
  -- by induction on what is left up to the place
  induction hlength : more.length using Nat.strong_induction_on generalizing done more with
  | _ n ih =>
    subst hlength
    cases more with
    | nil => exact .inl (by simpa using h)
    | cons c more =>
        by_cases hstart : StartsReference (c :: more ++ target)
        · obtain ⟨name, w, hw, rest, hcut⟩ := hstart
          rw [← hcut] at h
          obtain ⟨extra, hmore, rfl⟩ | ⟨back, rfl, htarget⟩ := List.append_eq_append_iff.mp hcut
          · -- the reference ends in front of the place
            have hshorter : extra.length < (c :: more).length := by
              obtain ⟨inside, rfl, -, -⟩ := hw.eq_inside
              simp [hmore]
              omega
            have hnext := ih extra.length hshorter (h.read hw) rfl
            rwa [hmore, ← List.append_assoc]
          · by_cases hback : back = []
            · subst hback
              refine .inl ?_
              rw [htarget]
              simpa using h.read hw
            · exact .inr ⟨done, _, rest, name, c :: more, back, h, hw, rfl, by simp, hback, rfl⟩
        · have hnext := ih more.length (by simp) (h.step hstart) rfl
          simpa using hnext

/-- What a reference ends with, from a percent sign on that is not its first one. -/
lemma IsReference.eq_percent {front back : List Char} (h : IsReference name (front ++ '%' :: back))
    (hfront : front ≠ []) : back = [] := by
  obtain ⟨inside, hinside, hno, -⟩ := h.eq_inside
  obtain ⟨c, front, rfl⟩ := List.exists_cons_of_ne_nil hfront
  rw [List.cons_append, List.cons.injEq] at hinside
  obtain ⟨extra, rfl, hends⟩ | ⟨extra, rfl, hends⟩ := List.append_eq_append_iff.mp hinside.2
  · cases extra with
    | nil => simpa using hends
    | cons d extra =>
        obtain ⟨rfl, -⟩ : '%' = d ∧ _ := by simpa using hends
        simp at hno
  · cases extra with
    | nil => simpa using hends.symm
    | cons d extra => simp at hends

/-- **A search reads a reference where it is written**, unless the first percent sign of the
reference is the last one of another. -/
lemma mem_referenceNames_or_clipped (hw : IsReference name w) (before rest : List Char) :
    name ∈ referenceNames (before ++ (w ++ rest)) ∨ Clipped (before ++ (w ++ rest)) before := by
  have hstart : Searched (before ++ (w ++ rest)) [] (before ++ (w ++ rest)) := .start
  obtain hreaches | ⟨passed, _, rest', name', front, back, hsearched, hw', rfl, hfront, hback,
    hplace⟩ := hstart.reaches_or_crosses
  · exact .inl (mem_referenceNames_iff.mpr ⟨_, w, rest, hreaches, hw⟩)
  · have hplace : passed ++ front = before := hplace
    have hsame : before ++ (back ++ rest') = before ++ (w ++ rest) := by
      rw [← hsearched.append_eq, ← hplace]
      simp
    obtain ⟨inside, rfl, -, -⟩ := hw.eq_inside
    obtain ⟨c, back, rfl⟩ := List.exists_cons_of_ne_nil hback
    obtain ⟨rfl, -⟩ : c = '%' ∧ _ := by simpa using hsame
    obtain rfl := hw'.eq_percent hfront
    exact .inr ⟨passed, _, rest', name', hsearched, hw', by simp [← hplace]⟩

/-- A text is split in one way at its last percent sign. -/
lemma eq_of_last_percent {front front' back back' : List Char} (h : '%' ∉ back) (h' : '%' ∉ back')
    (heq : front ++ '%' :: back = front' ++ '%' :: back') : back = back' := by
  have hreverse :
      back.reverse ++ '%' :: front.reverse = back'.reverse ++ '%' :: front'.reverse := by
    simpa using congrArg List.reverse heq
  have htake (cs more : List Char) (hno : '%' ∉ cs) :
      (cs.reverse ++ '%' :: more).takeWhile (· != '%') = cs.reverse := by
    refine (takeWhile_dropWhile_iff.mpr ⟨rfl, fun c hc => ?_, by simp⟩).1
    simpa using ne_of_mem_of_not_mem (List.mem_reverse.mp hc) hno
  have hcut := congrArg (List.takeWhile (· != '%')) hreverse
  rw [htake back _ h, htake back' _ h'] at hcut
  exact List.reverse_injective hcut

/-- Nothing is clipped where no capital letter follows the last percent sign in front. -/
lemma not_clipped_of_last {front back : List Char} (hback : '%' ∉ back)
    (hstart : ¬ back.head?.any isReferenceStart) : ¬ Clipped cs (front ++ '%' :: back) := by
  rintro ⟨done, w, rest, name, -, hw, hplace⟩
  obtain ⟨inside, rfl, hno, c, hc, hcapital⟩ := hw.eq_inside
  have hfront : done ++ '%' :: inside = front ++ '%' :: back := by
    rw [← List.cons_append, ← List.append_assoc] at hplace
    exact List.append_cancel_right hplace
  obtain rfl := eq_of_last_percent hno hback hfront
  exact hstart ((Option.any_eq_true ..).mpr ⟨c, hc, hcapital⟩)

end Searching

/-! ### The tokens of a text -/

/-- A token at which a text is cut, and the text in front of it. -/
def TokenAt (cs before : List Char) (t : Token) : Prop :=
  ∃ front marks next marks', Tokenized cs front (marks ++ (t, next) :: marks') ∧
    before = front ++ marks.flatMap fun mark => mark.1.text ++ mark.2

section Tokens

variable {cs front before : List Char} {marks : List (Token × List Char)} {t : Token}

lemma Tokenized.eq_flatMap (h : Tokenized cs front marks) :
    cs = front ++ marks.flatMap fun mark => mark.1.text ++ mark.2 := by
  induction h with
  | last _ => simp
  | token _ _ _ ih => simp [← ih]

lemma Tokenized.isWellFormed (h : Tokenized cs front marks) :
    ∀ mark ∈ marks, mark.1.IsWellFormed := by
  induction h with
  | last _ => simp
  | token _ ht _ ih => simpa [ht] using ih

lemma TokenAt.isWellFormed (h : TokenAt cs before t) : t.IsWellFormed := by
  obtain ⟨front, marks, next, marks', hcut, -⟩ := h
  exact hcut.isWellFormed (t, next) (by simp)

lemma TokenAt.eq_append (h : TokenAt cs before t) : ∃ rest, cs = before ++ (t.text ++ rest) := by
  obtain ⟨front, marks, next, marks', hcut, rfl⟩ := h
  exact ⟨_, by simpa using hcut.eq_flatMap⟩

lemma exists_next_of_mem {ps : List Piece} (h : .token t ∈ ps) :
    ∃ next, (t, next) ∈ (gather ps).2 := by
  induction ps with
  | nil => simp at h
  | cons p ps ih =>
      obtain rfl | hmem := List.mem_cons.mp h
      · exact ⟨(gather ps).1, by simp [gather]⟩
      · obtain ⟨next, hnext⟩ := ih hmem
        refine ⟨next, ?_⟩
        cases p with
        | plain c => exact hnext
        | token t => simp [gather, hnext]

lemma exists_tokenAt_of_mem (h : .token t ∈ pieces cs) : ∃ before, TokenAt cs before t := by
  obtain ⟨next, hnext⟩ := exists_next_of_mem h
  obtain ⟨marks, marks', hsplit⟩ := List.append_of_mem hnext
  exact ⟨_, _, marks, next, marks', hsplit ▸ tokenized_gather cs, rfl⟩

/-- A token with a capital name is a reference. -/
lemma Token.IsWellFormed.isReference (h : t.IsWellFormed)
    (hname : IsWord isReferenceStart isReferenceRest t.name) : IsReference t.name t.text := by
  obtain ⟨name, chain⟩ := t
  cases chain with
  | none => simpa [Token.text] using IsReference.plain hname
  | some chain => simpa [Token.text] using IsReference.extended hname (h.chain chain rfl).not_mem

lemma mem_distinctSorted_iff {names : List String} {name : String} :
    name ∈ distinctSorted names ↔ name ∈ names := by
  have hkeys : ∀ (names : List String) (d : Dictionary String Unit),
      name ∈ (names.foldl (fun d name => d.insert name ()) d).keys ↔
        name ∈ d.keys ∨ name ∈ names := by
    intro names
    induction names with
    | nil => simp
    | cons first names ih =>
        intro d
        rw [List.foldl_cons, ih, Dictionary.keys, Dictionary.insert, Dictionary.mem_keys_place,
          List.mem_cons, or_comm (a := name = first), or_assoc]
        rfl
  rw [distinctSorted, hkeys]
  simp [Dictionary.keys, EmptyCollection.emptyCollection, Dictionary.empty]

end Tokens

/-- **Substitution reads the variables of the tokens of a text**, and no others. -/
lemma substituteWith_congr {text : String} {env env' : Environment} (hday : env.today = env'.today)
    (h : ∀ before t, TokenAt text.toList before t →
      env.lookup (String.ofList t.name) = env'.lookup (String.ofList t.name))
    (escape : List Char → List Char) :
    substituteWith env escape text = substituteWith env' escape text := by
  rw [substituteWith, substituteWith, substituteChars, substituteChars]
  refine congrArg String.ofList (List.flatMap_congr fun p hp => ?_)
  cases p with
  | plain c => rfl
  | token t =>
      obtain ⟨before, ht⟩ := exists_tokenAt_of_mem hp
      rw [Piece.replace, Piece.replace, Environment.valueOf?, Environment.valueOf?, hday,
        h before t ht]

/-- **The tokens of a text are among its references**, if they have capital names and are not
clipped. Where all tokens are so, what is put in their places is decided by the variables that
the text refers to. -/
theorem tokens_are_referenced (text : String) :
    (∀ before t, TokenAt text.toList before t → IsWord isReferenceStart isReferenceRest t.name →
      ¬ Clipped text.toList before → String.ofList t.name ∈ referenced text) ∧
    ∀ env env' escape, env.today = env'.today →
      (∀ name ∈ referenced text, env.lookup name = env'.lookup name) →
      (∀ before t, TokenAt text.toList before t →
        IsWord isReferenceStart isReferenceRest t.name ∧ ¬ Clipped text.toList before) →
      substituteWith env escape text = substituteWith env' escape text := by
  have hfound : ∀ before t, TokenAt text.toList before t →
      IsWord isReferenceStart isReferenceRest t.name → ¬ Clipped text.toList before →
      String.ofList t.name ∈ referenced text := by
    intro before t ht hname hclipped
    obtain ⟨rest, hcut⟩ := ht.eq_append
    have hmem := (mem_referenceNames_or_clipped (ht.isWellFormed.isReference hname) before
      rest).resolve_right (hcut ▸ hclipped)
    rw [← hcut] at hmem
    exact mem_distinctSorted_iff.mpr (List.mem_map_of_mem hmem)
  refine ⟨hfound, fun env env' escape hday hagree hall => ?_⟩
  refine substituteWith_congr hday (fun before t ht => ?_) escape
  obtain ⟨hname, hclipped⟩ := hall before t ht
  exact hagree _ (hfound before t ht hname hclipped)

/-! ### One token -/

/-- The only token of a text stands behind the text in front of it. -/
lemma TokenAt.eq_of_single {cs front next before : List Char} {t t' : Token}
    (h : TokenAt cs before t) (hcut : gather (pieces cs) = (front, [(t', next)])) :
    t = t' ∧ before = front := by
  obtain ⟨front', marks, next', marks', hcut', rfl⟩ := h
  obtain ⟨rfl, hmarks⟩ := Prod.mk.inj ((tokenized_iff.mp hcut').symm.trans hcut)
  obtain ⟨rfl, hone⟩ | ⟨-, hnil⟩ := List.append_eq_singleton_iff.mp hmarks
  · simp_all
  · simp at hnil

/-- The day does not matter here. -/
def withValues (pairs : List (String × String)) : Environment :=
  (Scope.ofPairs pairs).environment ⟨2024, 12, 31, by decide⟩

/-- A percent sign that is part of no token. -/
theorem tokens_are_referenced_of_percentage :
    let text := "100%, %NAME:upper%"
    (∀ before t, TokenAt text.toList before t →
      IsWord isReferenceStart isReferenceRest t.name ∧ ¬ Clipped text.toList before) ∧
      TokenAt text.toList "100%, ".toList ⟨"NAME".toList, some "upper".toList⟩ ∧
      "NAME" ∈ referenced text ∧
      substituteWith (withValues [("NAME", "x")]) id text =
        substituteWith (withValues [("NAME", "x"), ("UPPER", "y")]) id text := by
  intro text
  have hcut : gather (pieces text.toList) =
      ("100%, ".toList, [(⟨"NAME".toList, some "upper".toList⟩, [])]) := by decide +kernel
  have hname : IsWord isReferenceStart isReferenceRest "NAME".toList := by decide
  have hfree : ¬ Clipped text.toList "100%, ".toList := by
    have hlast : "100%, ".toList = "100".toList ++ '%' :: ", ".toList := rfl
    rw [hlast]
    exact not_clipped_of_last (by decide) (by decide)
  have hat : TokenAt text.toList "100%, ".toList ⟨"NAME".toList, some "upper".toList⟩ :=
    ⟨_, [], [], [], tokenized_iff.mpr hcut, rfl⟩
  have hall : ∀ before t, TokenAt text.toList before t →
      IsWord isReferenceStart isReferenceRest t.name ∧ ¬ Clipped text.toList before := by
    intro before t ht
    obtain ⟨rfl, rfl⟩ := ht.eq_of_single hcut
    exact ⟨hname, hfree⟩
  obtain ⟨hfound, hsame⟩ := tokens_are_referenced text
  have hnames : referenced text = ["NAME"] := by decide +kernel
  refine ⟨hall, hat, hfound _ _ hat hname hfree, hsame _ _ _ rfl ?_ hall⟩
  rw [hnames]
  decide +kernel

/-- **A token that is clipped is missed.** A colon makes a reference of what ends with the first
percent sign of the token. So two values of its variable are put in for one set of
references. -/
theorem clipped_token_is_missed :
    let text := "%A:%B%"
    TokenAt text.toList "%A:".toList ⟨['B'], none⟩ ∧
      IsWord isReferenceStart isReferenceRest ['B'] ∧
      (∀ before t, TokenAt text.toList before t → IsWord isReferenceStart isReferenceRest t.name) ∧
      referenced text = ["A"] ∧
      (∀ name ∈ referenced text,
        (withValues [("B", "x")]).lookup name = (withValues []).lookup name) ∧
      substitute (withValues [("B", "x")]) text = "%A:x" ∧
      substitute (withValues []) text = "%A:%B%" := by
  intro text
  have hcut : gather (pieces text.toList) = ("%A:".toList, [(⟨['B'], none⟩, [])]) := by
    decide +kernel
  have hname : IsWord isReferenceStart isReferenceRest ['B'] := by decide
  have hnames : referenced text = ["A"] := by decide +kernel
  refine ⟨⟨_, [], [], [], tokenized_iff.mpr hcut, rfl⟩, hname, fun before t ht => ?_, hnames, ?_,
    by decide +kernel, by decide +kernel⟩
  · obtain ⟨rfl, -⟩ := ht.eq_of_single hcut
    exact hname
  · rw [hnames]
    decide +kernel

end Scaffold

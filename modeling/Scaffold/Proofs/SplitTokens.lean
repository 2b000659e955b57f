import Mathlib
import Scaffold.Proofs.TextRuns

/-!
Tokens that are spread over several runs.

* `two_mul_tokenCount_le`: a complete token has two percent signs. Hence texts with one of them
  are never joined (`mergeRuns_eq_self`), and hold nothing to replace
  (`substituteChars_of_count_le_one`);
* `dangles_iff`: what has been read of a token dangles as long as its chain shows only letters,
  digits and the characters `_|()-` of ASCII;
* `reach_pieces`: the first run of a token then takes in all the others;
* `split_token_is_joined`: so the value is put in its place. Where any other character shows
  before the last cut, the document stays as it is;
* `split_token_with_slash_stays`: a document where this happens to a date.
-/

namespace Scaffold.Archive

open Text Variable

/-! ### Percent signs -/

section Counting

variable {cs rest : List Char}

lemma count_of_completeAfterPercent? (h : completeAfterPercent? cs = some rest) :
    rest.count '%' + 1 ≤ cs.count '%' := by
  have hname : (cs.dropWhile isIdentRest).count '%' ≤ cs.count '%' :=
    (List.dropWhile_sublist _).count_le _
  unfold completeAfterPercent? at h
  split at h
  · simp at h
  split at h
  · rename_i tail htail
    obtain rfl : tail = rest := by simpa using h
    rwa [htail, List.count_cons_self] at hname
  · rename_i body hbody
    have hchain : (body.dropWhile fun c => c != '%' && c != '<').count '%' ≤ body.count '%' :=
      (List.dropWhile_sublist _).count_le _
    split at h
    · rename_i tail htail
      obtain rfl : tail = rest := by simpa using h
      rw [hbody, List.count_cons_of_ne (by decide)] at hname
      rw [htail, List.count_cons_self] at hchain
      exact hchain.trans hname
    · simp at h
  · simp at h

lemma completeAfterPercent?_of_not_mem (h : '%' ∉ cs) : completeAfterPercent? cs = none := by
  cases hread : completeAfterPercent? cs with
  | none => rfl
  | some rest =>
      have hcount := count_of_completeAfterPercent? hread
      rw [List.count_eq_zero_of_not_mem h] at hcount
      omega

lemma withoutTokens_of_complete (h : completeAfterPercent? cs = some rest) :
    withoutTokens ('%' :: cs) = ((withoutTokens rest).1 + 1, (withoutTokens rest).2) := by
  rw [withoutTokens, if_pos (beq_self_eq_true '%')]
  split <;> simp_all

lemma withoutTokens_of_incomplete (h : completeAfterPercent? cs = none) :
    withoutTokens ('%' :: cs) = ((withoutTokens cs).1, '%' :: (withoutTokens cs).2) := by
  rw [withoutTokens, if_pos (beq_self_eq_true '%')]
  split <;> simp_all

lemma withoutTokens_cons {c : Char} (hc : c ≠ '%') (cs : List Char) :
    withoutTokens (c :: cs) = ((withoutTokens cs).1, c :: (withoutTokens cs).2) := by
  rw [withoutTokens, if_neg (by simpa using hc)]

/-- Text without percent signs holds no token, whatever follows. -/
lemma withoutTokens_append {front : List Char} (h : '%' ∉ front) (cs : List Char) :
    withoutTokens (front ++ cs) = ((withoutTokens cs).1, front ++ (withoutTokens cs).2) := by
  induction front with
  | nil => rfl
  | cons c front ih =>
      rw [List.mem_cons, not_or] at h
      rw [List.cons_append, withoutTokens_cons (Ne.symm h.1), ih h.2]
      rfl

lemma withoutTokens_of_not_mem (h : '%' ∉ cs) : withoutTokens cs = (0, cs) := by
  have happend := withoutTokens_append h []
  rwa [List.append_nil, withoutTokens, List.append_nil] at happend

/-- A complete token has two percent signs. -/
lemma two_mul_tokenCount_le (cs : List Char) : 2 * tokenCount cs ≤ cs.count '%' := by
  rw [tokenCount]
  fun_induction withoutTokens cs with
  | case1 => simp
  | case2 c rest hc tail h count others hothers ih =>
      have hcount := count_of_completeAfterPercent? h
      rw [eq_of_beq hc, List.count_cons_self]
      rw [hothers] at ih
      dsimp only at ih ⊢
      omega
  | case3 c rest hc h count others hothers ih =>
      rw [hothers] at ih
      exact ih.trans (List.count_le_count_cons)
  | case4 c rest hc count others hothers ih =>
      rw [hothers] at ih
      exact ih.trans (List.count_le_count_cons)

lemma tokenCount_eq_zero (h : cs.count '%' ≤ 1) : tokenCount cs = 0 := by
  have := two_mul_tokenCount_le cs
  omega

lemma foldl_tokenCount {texts : List (List Char)} (h : ∀ text ∈ texts, text.count '%' ≤ 1)
    (n : Nat) : texts.foldl (fun n text => n + tokenCount text) n = n := by
  induction texts with
  | nil => rfl
  | cons text texts ih =>
      rw [List.foldl_cons, tokenCount_eq_zero (h text List.mem_cons_self), Nat.add_zero]
      exact ih fun t ht => h t (List.mem_cons_of_mem _ ht)

/-- Runs with one percent sign together are not joined. -/
lemma mergeRuns_eq_self {texts : List (List Char)} (h : texts.flatten.count '%' ≤ 1) :
    mergeRuns texts = texts := by
  fun_induction mergeRuns texts with
  | case1 => rfl
  | case2 text rest count block hmore ih =>
      have hblock : block.flatten.count '%' ≤ 1 :=
        (((List.take_sublist count rest).cons_cons text).flatten.count_le _).trans h
      rw [tokenCount_eq_zero hblock] at hmore
      exact absurd hmore (Nat.not_lt_zero _)
  | case3 text rest count block hmore ih =>
      have hrest : rest.flatten.count '%' ≤ 1 :=
        ((List.sublist_append_right text rest.flatten).count_le _).trans h
      rw [ih hrest]

/-- No token starts in a text with one percent sign. -/
lemma isFree_of_count_le_one (h : cs.count '%' ≤ 1) : IsFree cs [] := by
  rintro back - hback ⟨t, -, hstart⟩
  have hcount : t.text.count '%' ≤ cs.count '%' := by
    rw [List.append_nil] at hstart
    exact (hstart.sublist.trans hback.sublist).count_le _
  have htwo : 2 ≤ t.text.count '%' := by
    rw [Token.text, List.cons_append, List.cons_append, List.count_cons_self, List.count_append,
      List.count_singleton_self]
    omega
  omega

/-- No token starts in text without percent signs, whatever follows. -/
lemma isFree_of_not_mem (h : '%' ∉ cs) (rest : List Char) : IsFree cs rest := by
  intro back hne hback
  obtain ⟨c, more, rfl⟩ := List.exists_cons_of_ne_nil hne
  exact not_startsToken_of_ne fun hc => h (hback.subset (by simp [hc]))

lemma substituteChars_of_count_le_one (h : cs.count '%' ≤ 1) (env : Environment)
    (escape : List Char → List Char) : substituteChars env escape cs = cs := by
  have hpieces := (isFree_of_count_le_one h).pieces_append
  rw [List.append_nil] at hpieces
  rw [substituteChars, hpieces]
  simp [pieces, List.flatMap_map, Piece.replace]

/-- Text without percent signs stays, whatever follows. -/
lemma substituteChars_append {front : List Char} (h : '%' ∉ front) (env : Environment)
    (escape : List Char → List Char) (cs : List Char) :
    substituteChars env escape (front ++ cs) = front ++ substituteChars env escape cs := by
  rw [substituteChars, (isFree_of_not_mem h cs).pieces_append, List.flatMap_append]
  simp [substituteChars, List.flatMap_map, Piece.replace]

/-- The value of a token is put between the texts around it. -/
lemma substituteChars_token {env : Environment} {t : Token} {value before after : List Char}
    (ht : t.IsWellFormed) (hvalue : Environment.valueOf? env t = some value)
    (hbefore : '%' ∉ before) (hafter : '%' ∉ after) (escape : List Char → List Char) :
    substituteChars env escape (before ++ (t.text ++ after)) = before ++ escape value ++ after := by
  have hstays : substituteChars env escape after = after :=
    substituteChars_of_count_le_one (by simp [List.count_eq_zero_of_not_mem hafter]) env escape
  rw [substituteChars_append hbefore, substituteChars, pieces_of_startsToken ht, List.flatMap_cons,
    ← substituteChars, hstays, Piece.replace, hvalue, List.append_assoc]

end Counting

/-! ### Tokens in part -/

section Parts

variable {t : Token} {read rest before after : List Char}

/-- What is between the percent signs of a token. -/
def inside (t : Token) : List Char :=
  t.name ++ t.chain.elim [] (':' :: ·)

lemma text_eq_inside (t : Token) : t.text = '%' :: (inside t ++ ['%']) := by
  obtain ⟨name, chain⟩ := t
  cases chain <;> simp [Token.text, inside]

lemma not_mem_inside (ht : t.IsWellFormed) : '%' ∉ inside t := by
  have hname : '%' ∉ t.name := fun hmem => absurd (ht.name.2 _ hmem) (by decide)
  obtain ⟨name, chain⟩ := t
  cases chain with
  | none => simpa [inside] using hname
  | some chain => simpa [inside] using ⟨hname, (ht.chain chain rfl).not_mem⟩

/-- What has been read of a token before its end is a percent sign, and a part of what is
inside. -/
lemma exists_read (hcut : read ++ rest = t.text) (hread : read ≠ []) (hrest : rest ≠ []) :
    ∃ p, read = '%' :: p ∧ p <+: inside t := by
  obtain ⟨c, p, rfl⟩ := List.exists_cons_of_ne_nil hread
  rw [text_eq_inside, List.cons_append] at hcut
  obtain ⟨rfl, hinside⟩ := List.cons_eq_cons.mp hcut
  refine ⟨p, rfl, ?_⟩
  obtain ⟨tail, last, rfl⟩ := (List.eq_nil_or_concat' rest).resolve_left hrest
  rw [← List.append_assoc] at hinside
  exact ⟨tail, (List.append_inj' hinside rfl).1⟩

/-- All characters of its chain that have been read of a token may stand in a chain that is not
finished. -/
def ShowsChain (t : Token) (read : List Char) : Prop :=
  ∀ c ∈ read.drop (t.name.length + 2), isChainChar c

lemma isUnfinished_iff (ht : t.IsWellFormed) {p : List Char} (hp : p <+: inside t) :
    isUnfinished p ↔ ShowsChain t ('%' :: p) := by
  have hword : ∀ q more, q ++ more = t.name → isUnfinished q = true := by
    intro q more hq
    cases q with
    | nil => rfl
    | cons c q =>
        have hrest : ∀ d ∈ c :: q, isIdentRest d :=
          fun d hd => ht.name.2 d (hq ▸ List.mem_append_left more hd)
        obtain ⟨⟨d, hd, hstart⟩, -⟩ := ht.name
        obtain rfl : c = d := by simpa [← hq] using hd
        have hdrop : (c :: q).dropWhile isIdentRest = [] := List.dropWhile_eq_nil_iff.mpr hrest
        simp [isUnfinished, hstart, hdrop]
  obtain ⟨more, hmore⟩ := hp
  rw [inside] at hmore
  obtain ⟨gap, hname, -⟩ | ⟨shown, rfl, hshown⟩ := List.append_eq_append_iff.mp hmore
  · have hlength : p.length ≤ t.name.length := by simp [hname]
    have hnone : ('%' :: p).drop (t.name.length + 2) = [] :=
      List.drop_eq_nil_iff.mpr (by simp; omega)
    simp [hword p gap hname.symm, ShowsChain, hnone]
  · cases shown with
    | nil =>
        have hnone : ('%' :: (t.name ++ [])).drop (t.name.length + 2) = [] :=
          List.drop_eq_nil_iff.mpr (by simp)
        rw [hword (t.name ++ []) [] (by simp), ShowsChain, hnone]
        simp
    | cons c shown =>
        obtain rfl : c = ':' := by
          cases hchain : t.chain <;> simp_all
        obtain ⟨hstart, -, hdrop⟩ :=
          Token.takeWhile_dropWhile_word ht.name ':' (by decide) shown
        have hshows : ('%' :: (t.name ++ ':' :: shown)).drop (t.name.length + 2) = shown := by
          simp
        rw [isUnfinished, hstart, hdrop, ShowsChain, hshows]
        simp

/-- A text dangles if what is behind its only percent sign is not finished. -/
lemma dangles_of_percent {p : List Char} (hbefore : '%' ∉ before) (hp : '%' ∉ p) :
    dangles (before ++ '%' :: p) = isUnfinished p := by
  have hothers : withoutTokens (before ++ '%' :: p) = (0, before ++ '%' :: p) := by
    rw [withoutTokens_append hbefore, withoutTokens_of_incomplete
      (completeAfterPercent?_of_not_mem hp), withoutTokens_of_not_mem hp]
  have hlast : ((before ++ '%' :: p).reverse.takeWhile (· != '%')).reverse = p := by
    have hp' : '%' ∉ p.reverse := by simpa using hp
    have hreverse : (before ++ '%' :: p).reverse = p.reverse ++ '%' :: before.reverse := by simp
    rw [hreverse, (takeWhile_ne_eq hp' _).1, List.reverse_reverse]
  rw [dangles, hothers, hlast]
  simp

lemma not_dangles_of_not_mem {cs : List Char} (h : '%' ∉ cs) : dangles cs = false := by
  simp [dangles, withoutTokens_of_not_mem h, h]

/-- What has been read of a token dangles as long as its chain shows nothing else. -/
lemma dangles_iff (ht : t.IsWellFormed) (hbefore : '%' ∉ before) (hcut : read ++ rest = t.text)
    (hread : read ≠ []) (hrest : rest ≠ []) : dangles (before ++ read) ↔ ShowsChain t read := by
  obtain ⟨p, rfl, hp⟩ := exists_read hcut hread hrest
  have hno : '%' ∉ p := fun hmem => not_mem_inside ht (hp.subset hmem)
  rw [dangles_of_percent hbefore hno]
  exact isUnfinished_iff ht hp

lemma ShowsChain.of_prefix {read' : List Char} (h : ShowsChain t read) (hread : read' <+: read) :
    ShowsChain t read' :=
  fun c hc => h c ((hread.drop _).subset hc)

lemma completeAfterPercent?_inside (ht : t.IsWellFormed) (hbracket : '<' ∉ t.text)
    (after : List Char) :
    completeAfterPercent? (inside t ++ '%' :: after) = some after := by
  obtain ⟨name, chain⟩ := t
  cases chain with
  | none =>
      obtain ⟨hstart, -, hdrop⟩ :=
        Token.takeWhile_dropWhile_word ht.name '%' (by decide) after
      simp only [inside, Option.elim_none, List.append_nil]
      rw [completeAfterPercent?, hstart, hdrop]
      rfl
  | some chain =>
      obtain ⟨hstart, -, hdrop⟩ :=
        Token.takeWhile_dropWhile_word ht.name ':' (by decide) (chain ++ '%' :: after)
      have hchain : ∀ c ∈ chain, (c != '%' && c != '<') = true := by
        intro c hc
        have hpercent : c ≠ '%' :=
          ne_of_mem_of_not_mem hc (ht.chain chain rfl).not_mem
        have hopen : c ≠ '<' := by
          rintro rfl
          exact hbracket (by simp [Token.text, hc])
        simp [hpercent, hopen]
      obtain ⟨-, hend⟩ := takeWhile_dropWhile_iff.mpr
        ⟨(rfl : chain ++ '%' :: after = _), hchain, by simp⟩
      simp only [inside, Option.elim_some, List.append_assoc, List.cons_append]
      rw [completeAfterPercent?, hstart, hdrop]
      simp [hend]

/-- A token is complete, and nothing is left of it. -/
lemma withoutTokens_token (ht : t.IsWellFormed) (hbracket : '<' ∉ t.text) (hbefore : '%' ∉ before)
    (hafter : '%' ∉ after) :
    withoutTokens (before ++ (t.text ++ after)) = (1, before ++ after) := by
  have hcomplete := completeAfterPercent?_inside ht hbracket after
  have htext : t.text ++ after = '%' :: (inside t ++ '%' :: after) := by simp [text_eq_inside]
  rw [withoutTokens_append hbefore, htext, withoutTokens_of_complete hcomplete,
    withoutTokens_of_not_mem hafter]

end Parts

/-! ### Joining -/

section Joining

variable {t : Token} {before after last : List Char} {middle : List (List Char)}

lemma reach_of_not_dangles {merged : List Char} (h : dangles merged = false) (bound : Nat)
    (texts : List (List Char)) : reach bound merged texts = 0 := by
  cases bound with
  | zero => rfl
  | succ bound => cases texts <;> simp [reach, h]

/-- A text takes in nothing behind what it dangles with no more. -/
lemma reach_le {merged : List Char} (h : dangles (merged ++ middle.flatten) = false) (bound : Nat)
    (texts : List (List Char)) : reach bound merged (middle ++ texts) ≤ middle.length := by
  induction middle generalizing merged bound with
  | nil =>
      rw [List.flatten_nil, List.append_nil] at h
      exact (reach_of_not_dangles h bound _).le
  | cons piece middle ih =>
      cases bound with
      | zero => exact Nat.zero_le _
      | succ bound =>
          rw [List.flatten_cons, ← List.append_assoc] at h
          rw [List.cons_append, reach, List.length_cons]
          split_ifs
          · exact Nat.succ_le_succ (ih h bound)
          · exact Nat.zero_le _

/-- The first run of a token takes in all the others, as many as it may. -/
lemma reach_pieces (ht : t.IsWellFormed) (hbefore : '%' ∉ before)
    (hstop : dangles (before ++ (t.text ++ after)) = false) (hlast : last ≠ [])
    {read : List Char} (hread : read ≠ []) (hcut : read ++ (middle.flatten ++ last) = t.text)
    (hshows : ShowsChain t (read ++ middle.flatten)) {bound : Nat} (hbound : middle.length < bound)
    (back : List (List Char)) :
    reach bound (before ++ read) (middle ++ (last ++ after) :: back) = middle.length + 1 := by
  induction middle generalizing read bound with
  | nil =>
      obtain ⟨bound, rfl⟩ : ∃ n, bound = n + 1 := ⟨bound - 1, by simp at hbound; omega⟩
      have hdangles : dangles (before ++ read) = true :=
        (dangles_iff ht hbefore hcut hread hlast).mpr (by simpa using hshows)
      have hwhole : before ++ read ++ (last ++ after) = before ++ (t.text ++ after) := by
        simp [← hcut]
      rw [List.nil_append, reach, if_pos hdangles, hwhole, reach_of_not_dangles hstop]
      rfl
  | cons piece middle ih =>
      obtain ⟨bound, rfl⟩ : ∃ n, bound = n + 1 := ⟨bound - 1, by simp at hbound; omega⟩
      have hdangles : dangles (before ++ read) = true :=
        (dangles_iff ht hbefore hcut hread (by simp [hlast])).mpr
          (hshows.of_prefix (List.prefix_append _ _))
      rw [List.cons_append, reach, if_pos hdangles, List.append_assoc, List.length_cons]
      refine congrArg (· + 1) (ih (by simp [hread]) ?_ ?_ (by simpa using hbound))
      · simpa using hcut
      · simpa using hshows

lemma mergeRuns_cons_of_not_dangles {text : List Char} (h : dangles text = false)
    (rest : List (List Char)) : mergeRuns (text :: rest) = text :: mergeRuns rest := by
  rw [mergeRuns, reach_of_not_dangles h]
  simp

/-- Runs without percent signs are not joined to others. -/
lemma mergeRuns_append {front : List (List Char)} (h : ∀ text ∈ front, '%' ∉ text)
    (texts : List (List Char)) : mergeRuns (front ++ texts) = front ++ mergeRuns texts := by
  induction front with
  | nil => rfl
  | cons text front ih =>
      have htext : dangles text = false := not_dangles_of_not_mem (h text List.mem_cons_self)
      rw [List.cons_append, mergeRuns_cons_of_not_dangles htext,
        ih fun t ht => h t (List.mem_cons_of_mem _ ht), List.cons_append]

/-- Runs are joined where this completes a token. -/
lemma mergeRuns_of_reach {text : List Char} {taken back : List (List Char)}
    (hreach : reach mergeBound text (taken ++ back) = taken.length)
    (hpieces : ∀ piece ∈ text :: taken, piece.count '%' ≤ 1)
    (htoken : 0 < tokenCount (text ++ taken.flatten)) :
    mergeRuns (text :: (taken ++ back)) =
      (text ++ taken.flatten) :: (List.replicate taken.length [] ++ mergeRuns back) := by
  have hsum := foldl_tokenCount hpieces 0
  rw [mergeRuns, hreach]
  simp only [List.take_left, List.drop_left]
  rw [if_pos (by rw [hsum]; exact htoken)]
  rfl

/-- A run that does not take in all of a token takes in nothing. -/
lemma mergeRuns_of_not_dangles {text : List Char} {texts : List (List Char)}
    (h : dangles (text ++ middle.flatten) = false) (hfront : (text ++ middle.flatten).count '%' ≤ 1)
    (hback : (middle ++ texts).flatten.count '%' ≤ 1) :
    mergeRuns (text :: (middle ++ texts)) = text :: (middle ++ texts) := by
  have hle := reach_le h mergeBound texts
  have hblock : (text ++ ((middle ++ texts).take
      (reach mergeBound text (middle ++ texts))).flatten).count '%' ≤ 1 := by
    rw [List.take_append_of_le_length hle]
    have hpart := ((List.take_sublist (reach mergeBound text (middle ++ texts)) middle).flatten)
    exact (((List.Sublist.refl text).append hpart).count_le _).trans hfront
  rw [mergeRuns]
  simp only [List.flatten_cons, tokenCount_eq_zero hblock, Nat.not_lt_zero, ↓reduceIte]
  rw [mergeRuns_eq_self hback]

/-- One of the percent signs of a token is in its first piece, the other one in its last. -/
lemma count_of_cut {first : List Char} (ht : t.IsWellFormed)
    (hcut : first ++ (middle.flatten ++ last) = t.text) (hfirst : first ≠ []) (hlast : last ≠ []) :
    first.count '%' = 1 ∧ middle.flatten.count '%' = 0 ∧ last.count '%' = 1 := by
  have hpart : ∀ read rest, read ++ rest = t.text → read ≠ [] → rest ≠ [] →
      read.count '%' = 1 := by
    intro read rest hcut hread hrest
    obtain ⟨p, rfl, hp⟩ := exists_read hcut hread hrest
    have hno : '%' ∉ p := fun hmem => not_mem_inside ht (hp.subset hmem)
    rw [List.count_cons_self, List.count_eq_zero_of_not_mem hno]
  have hone : first.count '%' = 1 := hpart _ _ hcut hfirst (by simp [hlast])
  have hboth : (first ++ middle.flatten).count '%' = 1 :=
    hpart _ _ (by simpa using hcut) (by simp [hfirst]) hlast
  have hall : t.text.count '%' = 2 := by
    rw [text_eq_inside, List.count_cons_self, List.count_append,
      List.count_eq_zero_of_not_mem (not_mem_inside ht)]
    rfl
  rw [List.count_append] at hboth
  rw [← hcut, List.count_append, List.count_append] at hall
  omega

section Cuts

variable {first : List Char} {front back : List (List Char)} (ht : t.IsWellFormed)
  (hcut : first ++ (middle.flatten ++ last) = t.text) (hfirst : first ≠ []) (hlast : last ≠ [])
  (hbefore : '%' ∉ before) (hafter : '%' ∉ after) (hfront : ∀ text ∈ front, '%' ∉ text)
  (hback : ∀ text ∈ back, '%' ∉ text)

include ht hcut hfirst hlast hbefore hafter in
/-- Each run has one percent sign at most. -/
lemma count_pieces :
    ∀ piece ∈ (before ++ first) :: (middle ++ [last ++ after]), piece.count '%' ≤ 1 := by
  obtain ⟨hone, hzero, hlastone⟩ := count_of_cut ht hcut hfirst hlast
  intro piece hpiece
  simp only [List.mem_cons, List.mem_append, List.not_mem_nil, or_false] at hpiece
  obtain rfl | hpiece | rfl := hpiece
  · simp [hone, List.count_eq_zero_of_not_mem hbefore]
  · exact ((List.sublist_flatten_of_mem hpiece).count_le '%').trans (by omega)
  · simp [hlastone, List.count_eq_zero_of_not_mem hafter]

include hback in
lemma not_mem_back : '%' ∉ back.flatten := by
  intro hmem
  obtain ⟨text, htext, hin⟩ := List.mem_flatten.mp hmem
  exact hback text htext hin

include ht hcut hfirst hlast hbefore hafter hfront hback in
/-- The runs of a token are joined as long as its chain shows nothing that would end it. -/
lemma mergeRuns_pieces (hbracket : '<' ∉ t.text) (hbound : middle.length < mergeBound)
    (hshows : ShowsChain t (first ++ middle.flatten)) :
    mergeRuns (front ++ (before ++ first) :: (middle ++ (last ++ after) :: back)) =
      front ++ (before ++ (t.text ++ after)) ::
        (List.replicate (middle.length + 1) [] ++ back) := by
  have htoken := withoutTokens_token ht hbracket hbefore hafter
  have hstop : dangles (before ++ (t.text ++ after)) = false := by
    simp [dangles, htoken, hbefore, hafter]
  have hreach : reach mergeBound (before ++ first) ((middle ++ [last ++ after]) ++ back) =
      (middle ++ [last ++ after]).length := by
    simpa using reach_pieces ht hbefore hstop hlast hfirst hcut hshows hbound back
  have hwhole : before ++ first ++ (middle ++ [last ++ after]).flatten =
      before ++ (t.text ++ after) := by
    simp [← hcut]
  have hcomplete : 0 < tokenCount (before ++ first ++ (middle ++ [last ++ after]).flatten) := by
    rw [hwhole, tokenCount, htoken]
    exact Nat.one_pos
  have hjoin := mergeRuns_of_reach hreach
    (count_pieces ht hcut hfirst hlast hbefore hafter) hcomplete
  have hstays : mergeRuns back = back :=
    mergeRuns_eq_self (by simp [List.count_eq_zero_of_not_mem (not_mem_back hback)])
  rw [hwhole, hstays, List.append_assoc, List.length_append] at hjoin
  rw [mergeRuns_append hfront]
  exact congrArg (front ++ ·) hjoin

include ht hcut hfirst hlast hbefore hafter hfront hback in
/-- The runs of a token stay as they are if its chain shows anything else. -/
lemma mergeRuns_pieces_of_not_shows (hhides : ¬ ShowsChain t (first ++ middle.flatten)) :
    mergeRuns (front ++ (before ++ first) :: (middle ++ (last ++ after) :: back)) =
      front ++ (before ++ first) :: (middle ++ (last ++ after) :: back) := by
  obtain ⟨hone, hzero, hlastone⟩ := count_of_cut ht hcut hfirst hlast
  have hdangles : dangles (before ++ first ++ middle.flatten) = false := by
    rw [List.append_assoc, ← Bool.not_eq_true,
      dangles_iff ht hbefore (by simpa using hcut) (by simp [hfirst]) hlast]
    exact hhides
  rw [mergeRuns_append hfront, mergeRuns_of_not_dangles hdangles]
  · simp [hone, hzero, List.count_eq_zero_of_not_mem hbefore]
  · simp [hzero, hlastone, List.count_eq_zero_of_not_mem hafter,
      List.count_eq_zero_of_not_mem (not_mem_back hback)]

end Cuts

end Joining

/-- Texts with one percent sign each have nothing to replace. -/
lemma map_substituteChars_eq_self {texts : List (List Char)}
    (h : ∀ text ∈ texts, text.count '%' ≤ 1) (env : Environment)
    (escape : List Char → List Char) : texts.map (substituteChars env escape) = texts := by
  conv_rhs => rw [← List.map_id texts]
  exact List.map_congr_left fun text htext =>
    substituteChars_of_count_le_one (h text htext) env escape

section Documents

variable {env : Environment} {xml : String} {t : Token} {front middle back : List (List Char)}
  {before first last after : List Char} (ht : t.IsWellFormed)
  (hcut : first ++ (middle.flatten ++ last) = t.text) (hfirst : first ≠ []) (hlast : last ≠ [])
  (hruns : runTexts (segments xml.toList) =
    front ++ (before ++ first) :: (middle ++ (last ++ after) :: back))
  (hbefore : '%' ∉ before) (hafter : '%' ∉ after) (hfront : ∀ text ∈ front, '%' ∉ text)
  (hback : ∀ text ∈ back, '%' ∉ text)

include ht hcut hfirst hlast hruns hbefore hafter hfront hback in
/-- Where the runs of a token are joined, its value is put between the texts around it. -/
lemma runTexts_of_shows {value : List Char} (hvalue : Environment.valueOf? env t = some value)
    (hbound : middle.length < mergeBound) (hshows : ShowsChain t (first ++ middle.flatten)) :
    (runTexts (segments (substituteRuns env xml).toList)).flatten =
        front.flatten ++ before ++ escapeMarkup value ++ after ++ back.flatten ∧
      substituteChars env escapeMarkup (runTexts (segments xml.toList)).flatten =
        front.flatten ++ before ++ escapeMarkup value ++ after ++ back.flatten := by
  have hflat : (runTexts (segments xml.toList)).flatten =
      front.flatten ++ before ++ (t.text ++ (after ++ back.flatten)) := by
    simp [hruns, ← hcut]
  have hbracket : '<' ∉ t.text := by
    intro hmem
    obtain ⟨text, htext, hin⟩ := List.mem_flatten.mp
      (show '<' ∈ (runTexts (segments xml.toList)).flatten by simp [hflat, hmem])
    exact (segmented_segments _).not_mem_runTexts text htext hin
  constructor
  · have hmerged := mergeRuns_pieces ht hcut hfirst hlast hbefore hafter hfront hback hbracket
      hbound hshows
    have hstay : ∀ texts : List (List Char), (∀ text ∈ texts, '%' ∉ text) →
        texts.map (substituteChars env escapeMarkup) = texts := fun texts htexts =>
      map_substituteChars_eq_self
        (fun text htext => by simp [List.count_eq_zero_of_not_mem (htexts text htext)]) _ _
    rw [runTexts_substituteRuns, hruns, hmerged, List.map_append, List.map_cons, List.map_append,
      hstay front hfront, hstay back hback, hstay (List.replicate _ []) (by simp),
      substituteChars_token ht hvalue hbefore hafter]
    simp
  · rw [hflat, substituteChars_token ht hvalue]
    · simp
    · simpa [hbefore] using not_mem_back hfront
    · simpa [hafter] using not_mem_back hback

include ht hcut hfirst hlast hruns hbefore hafter hfront hback in
/-- Where they are not joined, no run has anything to replace. -/
lemma substituteRuns_of_not_shows (hhides : ¬ ShowsChain t (first ++ middle.flatten)) :
    substituteRuns env xml = xml := by
  have hmerged : mergeRuns (runTexts (segments xml.toList)) = runTexts (segments xml.toList) := by
    rw [hruns]
    exact mergeRuns_pieces_of_not_shows ht hcut hfirst hlast hbefore hafter hfront hback hhides
  have hcount : ∀ text ∈ runTexts (segments xml.toList), text.count '%' ≤ 1 := by
    intro text htext
    have hnone : ∀ text ∈ front ++ back, text.count '%' ≤ 1 := by
      intro text htext
      have hno : '%' ∉ text := (List.mem_append.mp htext).elim (hfront text) (hback text)
      simp [List.count_eq_zero_of_not_mem hno]
    have hsplit : text ∈ (before ++ first) :: (middle ++ [last ++ after]) ∨
        text ∈ front ++ back := by
      rw [hruns] at htext
      simp only [List.mem_append, List.mem_cons, List.not_mem_nil, or_false] at htext ⊢
      tauto
    exact hsplit.elim (count_pieces ht hcut hfirst hlast hbefore hafter text) (hnone text)
  rw [substituteRuns, hmerged, map_substituteChars_eq_self hcount, withRunTexts_runTexts,
    text_segments, String.ofList_toList]

end Documents

/-- **A token that is spread over runs is put together.** Up to seventeen runs are joined, as
long as the chain of the token shows only letters, digits and the characters `_|()-` of ASCII
before the last cut: the escaped value then stands once in the text of all runs, as it would if
they were one. If anything else shows there then nothing is replaced. -/
theorem split_token_is_joined (env : Environment) (xml : String) {t : Token} {value : List Char}
    {front middle back : List (List Char)} {before first last after : List Char}
    (ht : t.IsWellFormed) (hvalue : Environment.valueOf? env t = some value)
    (hcut : first ++ (middle.flatten ++ last) = t.text) (hfirst : first ≠ []) (hlast : last ≠ [])
    (hbound : middle.length + 2 ≤ 17)
    (hruns : runTexts (segments xml.toList) =
      front ++ (before ++ first) :: (middle ++ (last ++ after) :: back))
    (hplain : ∀ text ∈ before :: after :: (front ++ back), '%' ∉ text) :
    ((∀ c ∈ (first ++ middle.flatten).drop (t.name.length + 2), isChainChar c) →
      (runTexts (segments (substituteRuns env xml).toList)).flatten =
          substituteChars env escapeMarkup (runTexts (segments xml.toList)).flatten ∧
        (runTexts (segments (substituteRuns env xml).toList)).flatten =
          front.flatten ++ before ++ escapeMarkup value ++ after ++ back.flatten) ∧
    ((∃ c ∈ (first ++ middle.flatten).drop (t.name.length + 2), isChainChar c = false) →
      substituteRuns env xml = xml) := by
  have hbefore : '%' ∉ before := hplain before (by simp)
  have hafter : '%' ∉ after := hplain after (by simp)
  have hfront : ∀ text ∈ front, '%' ∉ text := fun text htext => hplain text (by simp [htext])
  have hback : ∀ text ∈ back, '%' ∉ text := fun text htext => hplain text (by simp [htext])
  refine ⟨fun hshows => ?_, fun ⟨c, hc, hother⟩ => ?_⟩
  · obtain ⟨hjoined, hwhole⟩ := runTexts_of_shows ht hcut hfirst hlast hruns hbefore hafter hfront
      hback hvalue (by rw [mergeBound]; omega) hshows
    exact ⟨hjoined.trans hwhole.symm, hjoined⟩
  · refine substituteRuns_of_not_shows ht hcut hfirst hlast hruns hbefore hafter hfront hback
      fun hshows => ?_
    simpa [hother] using hshows c hc

/-- A token with a transform, over three runs. -/
theorem split_token_over_three_runs :
    let env : Environment := ⟨⟨2024, 1, 1, by decide⟩, fun _ => some "a<b"⟩
    let xml := "<t>on %NA</t><t>ME:le</t><t>n% off</t>"
    let t : Token := ⟨"NAME".toList, some "len".toList⟩
    t.IsWellFormed ∧ Environment.valueOf? env t = some "3".toList ∧
      runTexts (segments xml.toList) =
        ["on %NA".toList, "ME:le".toList, "n% off".toList] ∧
      (runTexts (segments (substituteRuns env xml).toList)).flatten = "on 3 off".toList := by
  intro env xml t
  have ht : t.IsWellFormed := by
    refine ⟨⟨⟨'N', rfl, by decide⟩, List.all_eq_true.mp (by decide)⟩, ?_⟩
    rintro chain ⟨⟩
    exact .one (.plain (by decide) (List.all_eq_true.mp (by decide)))
  have hvalue : Environment.valueOf? env t = some "3".toList := by decide +kernel
  have hcut : "%NA".toList ++ (["ME:le".toList].flatten ++ "n%".toList) = t.text := by decide
  have hruns : runTexts (segments xml.toList) =
      [] ++ ("on ".toList ++ "%NA".toList) ::
        (["ME:le".toList] ++ ("n%".toList ++ " off".toList) :: []) := by decide +kernel
  have hplain : ∀ text ∈ ["on ".toList, " off".toList], '%' ∉ text := by decide
  obtain ⟨hjoined, -⟩ := split_token_is_joined env xml ht hvalue hcut (by decide) (by decide)
    (by decide) hruns hplain
  exact ⟨ht, hvalue, hruns, (hjoined (List.all_eq_true.mp (by decide))).2⟩

/-- A date over two runs, cut behind a slash in its format: nothing is replaced, while in one
run the date would be. -/
theorem split_token_with_slash_stays :
    let env : Environment := ⟨⟨2024, 1, 1, by decide⟩, fun _ => some "2024-03-05"⟩
    let xml := "<w:t>%DATE:format(DD/</w:t><w:t>MM)%</w:t>"
    substituteRuns env xml = xml ∧
      substituteChars env escapeMarkup (runTexts (segments xml.toList)).flatten =
        "05/03".toList := by
  intro env xml
  let t : Token := ⟨"DATE".toList, some "format(DD/MM)".toList⟩
  have ht : t.IsWellFormed := by
    refine ⟨⟨⟨'D', rfl, by decide⟩, List.all_eq_true.mp (by decide)⟩, ?_⟩
    rintro chain ⟨⟩
    exact .one (@Token.IsTransform.applied "format".toList "DD/MM".toList (by decide)
      (List.all_eq_true.mp (by decide)) (List.all_eq_true.mp (by decide)))
  have hvalue : Environment.valueOf? env t = some "05/03".toList := by decide +kernel
  have hcut : "%DATE:format(DD/".toList ++ ([].flatten ++ "MM)%".toList) = t.text := by decide
  have hruns : runTexts (segments xml.toList) =
      [] ++ ([] ++ "%DATE:format(DD/".toList) :: ([] ++ ("MM)%".toList ++ []) :: []) := by
    decide +kernel
  constructor
  · exact substituteRuns_of_not_shows ht hcut (by decide) (by decide) hruns (by simp) (by simp)
      (by simp) (by simp) fun hshows => absurd (hshows '/' (by decide)) (by decide)
  · have hone : (runTexts (segments xml.toList)).flatten = [] ++ (t.text ++ []) := by
      rw [hruns]
      rfl
    rw [hone, substituteChars_token ht hvalue (by simp) (by simp)]
    rfl

end Scaffold.Archive

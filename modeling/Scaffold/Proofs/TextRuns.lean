import Mathlib
import Scaffold.Archive.Run
import Scaffold.Proofs.Tokens

/-!
Text runs keep the markup around them.

* `Run.IsWritten`: what a run is written with. A document starts with at most one run
  (`runAfterBracket?_eq_some_iff`);
* `Segmented`: a document is cut into runs and the characters between them, and no run starts at
  one of these. `segments_eq_iff`: this is the cut that is found;
* `Segment.Alike`: segments that differ in the text of a run at most.
  `segmented_of_alike`: a document that is alike is cut alike, since the text of a run holds no
  bracket;
* `mergeRuns_flatten`: joining runs moves their text forward only;
* `substituteRuns_keeps_markup`: hence values change nothing but the text of runs;
* `Takes`: how many of the following runs a run takes in. It goes on as long as the joined text
  dangles, up to a bound (`takes_reach`). `Gains`: runs have a token together that none of them has;
* `Blocks`: from left to right, a run is the first of a block with the runs that it takes in if
  this gains a token, and a block of its own otherwise;
* `merged_runs_are_blocks`: joining runs cuts their list into these blocks and moves the text of
  each of them into its first run.
-/

namespace Scaffold.Archive

open Text Variable

/-! ### Written runs -/

/-- What is behind the name in the opening tag of a run: nothing or, after a blank, attributes,
and the only closing bracket. -/
def IsTagEnd (tag : List Char) : Prop :=
  ∃ inside, tag = inside ++ ['>'] ∧ '>' ∉ inside ∧ ∀ c ∈ inside.head?, isBlank c

/-- A run has one of three names in its tags, and no opening bracket in its text. -/
structure Run.IsWritten (r : Run) : Prop where
  opening : ∃ name ∈ runNames, ∃ tag, IsTagEnd tag ∧ r.opening = '<' :: name ++ tag
  text : '<' ∉ r.text
  closing : ∃ name ∈ runNames, r.closing = '<' :: '/' :: name ++ ['>']

section Reading

variable {cs rest : List Char} {r : Run}

/-- What comes before the first of some character is the same in the same text. -/
lemma eq_of_first {a : Char} {front front' rest' : List Char} (h : a ∉ front) (h' : a ∉ front')
    (heq : front ++ a :: rest = front' ++ a :: rest') : front = front' := by
  rw [← (takeWhile_ne_eq h rest).1, heq, (takeWhile_ne_eq h' rest').1]

/-- The names of runs start with different letters. -/
lemma firstStart?_runNames_iff {name : List Char} :
    firstStart? runNames cs = some (name, rest) ↔ name ∈ runNames ∧ cs = name ++ rest := by
  constructor
  · intro h
    refine ⟨?_, eq_append_of_firstStart? h⟩
    obtain ⟨start, hmem, hstart⟩ := List.exists_of_findSome?_eq_some h
    obtain ⟨tail, -, heq⟩ := Option.map_eq_some_iff.mp hstart
    exact (Prod.mk.inj heq).1 ▸ hmem
  · rintro ⟨hmem, rfl⟩
    simp only [runNames, List.mem_cons, List.not_mem_nil, or_false] at hmem
    rcases hmem with rfl | rfl | rfl <;> rfl

lemma tagEnd?_eq_some_iff {tag : List Char} :
    tagEnd? cs = some (tag, rest) ↔ IsTagEnd tag ∧ cs = tag ++ rest := by
  constructor
  · intro h
    refine ⟨?_, eq_append_of_tagEnd? h⟩
    unfold tagEnd? at h
    split at h
    · obtain ⟨rfl, -⟩ := Prod.mk.inj (Option.some.inj h)
      exact ⟨[], rfl, by simp, by simp⟩
    · rename_i c more hne
      split_ifs at h with hblank
      split at h
      · rename_i close rest' hdrop
        obtain ⟨rfl, -⟩ := Prod.mk.inj (Option.some.inj h)
        have hclose : close = '>' := by
          obtain ⟨-, -, hend⟩ := takeWhile_dropWhile_iff.mp ⟨rfl, hdrop⟩
          simpa using hend close rfl
        refine ⟨(c :: more).takeWhile (· != '>'), by rw [hclose], ?_, ?_⟩
        · intro hmem
          simpa using List.mem_takeWhile_imp hmem
        · intro d hd
          have hhead : ((c :: more).takeWhile (· != '>')).head? = some c := by
            rw [List.takeWhile_cons_of_pos (by simpa using hne)]
            rfl
          obtain rfl : c = d := by simpa [hhead] using hd
          exact hblank
      · simp at h
    · simp at h
  · rintro ⟨⟨inside, rfl, hinside, hblank⟩, rfl⟩
    cases inside with
    | nil => rfl
    | cons c more =>
        have hc : isBlank c := hblank c rfl
        have hne : c ≠ '>' := fun h => hinside (by simp [h])
        obtain ⟨htake, hdrop⟩ := takeWhile_ne_eq hinside rest
        have hcut : c :: more ++ ['>'] ++ rest = c :: more ++ '>' :: rest := by simp
        rw [hcut, List.cons_append]
        rw [List.cons_append] at htake hdrop
        unfold tagEnd?
        split
        · rename_i heq
          exact absurd (List.cons.inj heq).1 hne
        · rename_i heq
          obtain ⟨rfl, -⟩ := List.cons.inj heq
          simp only [hc, hdrop, htake, ↓reduceIte]
        · rename_i heq
          cases heq

/-- A document starts with a run if and only if it starts with one of the ways to write it. -/
lemma runAfterBracket?_eq_some_iff :
    runAfterBracket? cs = some (r, rest) ↔
      r.IsWritten ∧ '<' :: cs = (Segment.run r).text ++ rest := by
  constructor
  · intro h
    refine ⟨?_, eq_append_of_runAfterBracket? h⟩
    unfold runAfterBracket? at h
    split at h
    · simp at h
    rename_i name afterName hname
    split at h
    · simp at h
    rename_i tag body htag
    split at h
    · simp at h
    split at h
    · rename_i closeName rest' hclose
      obtain ⟨rfl, -⟩ := Prod.mk.inj (Option.some.inj h)
      refine ⟨⟨name, (firstStart?_runNames_iff.mp hname).1, tag, (tagEnd?_eq_some_iff.mp htag).1,
        rfl⟩, ?_, closeName, (firstStart?_runNames_iff.mp hclose).1, rfl⟩
      intro hmem
      simpa using List.mem_takeWhile_imp hmem
    · simp at h
  · obtain ⟨opening, text, closing⟩ := r
    rintro ⟨⟨⟨name, hname, tag, htag, hopening⟩, htext, ⟨closeName, hclose, hclosing⟩⟩, heq⟩
    dsimp only at hopening htext hclosing
    subst hopening hclosing
    obtain rfl : cs = name ++ (tag ++ (text ++ '<' :: '/' :: (closeName ++ '>' :: rest))) := by
      simpa [Segment.text] using heq
    obtain ⟨htake, hdrop⟩ :=
      takeWhile_ne_eq htext ('/' :: (closeName ++ '>' :: rest))
    have hafter : after? ['<', '/'] ('<' :: '/' :: (closeName ++ '>' :: rest)) =
        some (closeName ++ '>' :: rest) := after?_append ['<', '/'] _
    rw [runAfterBracket?, firstStart?_runNames_iff.mpr ⟨hname, rfl⟩]
    simp only [tagEnd?_eq_some_iff.mpr ⟨htag, rfl⟩, hdrop, hafter, htake,
      firstStart?_runNames_iff.mpr ⟨hclose, rfl⟩]

end Reading

/-! ### Cutting a document -/

/-- A run is written at the start of a document. -/
def StartsRun (cs : List Char) : Prop :=
  ∃ r : Run, r.IsWritten ∧ (Segment.run r).text <+: cs

lemma runAfterBracket?_eq_none_iff {cs : List Char} :
    runAfterBracket? cs = none ↔ ¬ StartsRun ('<' :: cs) := by
  rw [← not_iff_not, not_not, ← ne_eq, Option.ne_none_iff_exists']
  constructor
  · rintro ⟨⟨r, rest⟩, h⟩
    obtain ⟨hr, hcut⟩ := runAfterBracket?_eq_some_iff.mp h
    exact ⟨r, hr, rest, hcut.symm⟩
  · rintro ⟨r, hr, rest, hcut⟩
    exact ⟨(r, rest), runAfterBracket?_eq_some_iff.mpr ⟨hr, hcut.symm⟩⟩

/-- A run starts with a bracket, and a letter behind it. -/
lemma Run.IsWritten.text_eq {r : Run} (h : r.IsWritten) :
    ∃ c more, (Segment.run r).text = '<' :: c :: more ∧ c ≠ '/' := by
  obtain ⟨⟨name, hname, tag, -, hopening⟩, -, -⟩ := h
  simp only [runNames, List.mem_cons, List.not_mem_nil, or_false] at hname
  rcases hname with rfl | rfl | rfl <;>
    exact ⟨_, _, by rw [Segment.text, hopening]; rfl, by decide⟩

lemma not_startsRun_of_ne {c : Char} {cs : List Char} (hc : c ≠ '<') : ¬ StartsRun (c :: cs) := by
  rintro ⟨r, hr, hstart⟩
  obtain ⟨d, more, htext, -⟩ := hr.text_eq
  rw [htext] at hstart
  exact hc (List.cons_prefix_cons.mp hstart).1.symm

/-- The document that segments make up. -/
def written (parts : List Segment) : List Char :=
  parts.flatMap Segment.text

@[simp]
lemma written_nil : written [] = [] := rfl

@[simp]
lemma written_cons (part : Segment) (parts : List Segment) :
    written (part :: parts) = part.text ++ written parts :=
  List.flatMap_cons

/-- A document cut into runs and characters, from left to right. No run starts at such a
character. -/
inductive Segmented : List Segment → Prop
  | nil : Segmented []
  | run {r : Run} {parts : List Segment} : r.IsWritten → Segmented parts →
      Segmented (.run r :: parts)
  | plain {c : Char} {parts : List Segment} : ¬ StartsRun (c :: written parts) →
      Segmented parts → Segmented (.plain c :: parts)

/-- The segments that are found are a cut of the document. -/
lemma segmented_segments (cs : List Char) : Segmented (segments cs) := by
  fun_induction segments cs with
  | case1 => exact .nil
  | case2 c rest hc r tail h ih => exact .run (runAfterBracket?_eq_some_iff.mp h).1 ih
  | case3 c rest hc h ih =>
      refine .plain ?_ ih
      rw [written, text_segments, eq_of_beq hc]
      exact runAfterBracket?_eq_none_iff.mp h
  | case4 c rest hc ih => exact .plain (not_startsRun_of_ne (by simpa using hc)) ih

/-- A cut of the document is what is found. -/
lemma Segmented.segments_written {parts : List Segment} (h : Segmented parts) :
    segments (written parts) = parts := by
  induction h with
  | nil => simp [segments]
  | @run r parts hr _ ih =>
      obtain ⟨tail, htail⟩ : ∃ tail, (Segment.run r).text ++ written parts = '<' :: tail := by
        obtain ⟨c, more, htext, -⟩ := hr.text_eq
        exact ⟨_, by rw [htext]; rfl⟩
      have hread : runAfterBracket? tail = some (r, written parts) :=
        runAfterBracket?_eq_some_iff.mpr ⟨hr, htail.symm⟩
      rw [written_cons, htail, segments, if_pos (beq_self_eq_true '<')]
      split <;> simp_all
  | @plain c parts hstart _ ih =>
      rw [written_cons, Segment.text, List.singleton_append, segments]
      split_ifs with hc
      · rw [eq_of_beq hc] at hstart
        have hread := runAfterBracket?_eq_none_iff.mpr hstart
        split <;> simp_all
      · rw [ih]

/-- A document is cut in one way, and that one is found. -/
lemma segments_eq_iff {cs : List Char} {parts : List Segment} :
    segments cs = parts ↔ Segmented parts ∧ written parts = cs := by
  constructor
  · rintro rfl
    exact ⟨segmented_segments cs, text_segments cs⟩
  · rintro ⟨h, rfl⟩
    exact h.segments_written

/-! ### Documents that are alike -/

/-- Segments that are the same, but for the text if they are runs. -/
inductive Segment.Alike : Segment → Segment → Prop
  | plain (c : Char) : Alike (.plain c) (.plain c)
  | run {r r' : Run} : r.IsWritten → r'.IsWritten → r.opening = r'.opening →
      r.closing = r'.closing → Alike (.run r) (.run r')

section Alike

variable {parts parts' : List Segment}

/-- What holds no bracket at the start of a document is outside runs. -/
lemma strip_alike {front rest : List Char} (h : List.Forall₂ Segment.Alike parts parts')
    (hfront : '<' ∉ front) (hcut : written parts = front ++ rest) :
    ∃ more more', List.Forall₂ Segment.Alike more more' ∧ rest = written more ∧
      written parts' = front ++ written more' := by
  induction front generalizing parts parts' with
  | nil => exact ⟨parts, parts', h, hcut.symm, rfl⟩
  | cons c front ih =>
      cases h with
      | nil => simp at hcut
      | @cons part part' tail tail' hpart hparts =>
          cases hpart with
          | plain d =>
              obtain ⟨rfl, htail⟩ : d = c ∧ written tail = front ++ rest := by
                simpa [Segment.text] using hcut
              obtain ⟨more, more', hmore, hrest, hwritten⟩ :=
                ih hparts (fun hmem => hfront (List.mem_cons_of_mem _ hmem)) htail
              exact ⟨more, more', hmore, hrest, by simp [Segment.text, hwritten]⟩
          | run hr _ _ _ =>
              -- A run would put a bracket in front.
              obtain ⟨d, more, htext, -⟩ := hr.text_eq
              rw [written_cons, htext] at hcut
              obtain rfl : '<' = c := by simpa using congrArg List.head? hcut
              exact absurd List.mem_cons_self hfront

/-- Up to the closing bracket, an opening tag is its own front. -/
lemma Run.IsWritten.opening_eq {r : Run} (h : r.IsWritten) :
    ∃ front, r.opening = front ++ ['>'] ∧ '>' ∉ front := by
  obtain ⟨name, hname, tag, ⟨inside, rfl, hinside, -⟩, hopening⟩ := h.opening
  refine ⟨'<' :: name ++ inside, by simp [hopening], ?_⟩
  simp only [runNames, List.mem_cons, List.not_mem_nil, or_false] at hname
  rcases hname with rfl | rfl | rfl <;> simpa using hinside

/-- What ends at the first closing bracket ends outside runs, or with the opening tag of a
run. -/
lemma strip_alike_tag {front rest : List Char} (h : List.Forall₂ Segment.Alike parts parts')
    (hfront : '>' ∉ front) (hcut : written parts = front ++ '>' :: rest) :
    (∃ more more', List.Forall₂ Segment.Alike more more' ∧ rest = written more ∧
      written parts' = front ++ '>' :: written more') ∨
    ∃ text name back, '<' ∉ text ∧ name ∈ runNames ∧
      written parts' = front ++ '>' :: (text ++ '<' :: '/' :: name ++ '>' :: back) := by
  induction front generalizing parts parts' with
  | nil =>
      cases h with
      | nil => simp at hcut
      | @cons part part' tail tail' hpart hparts =>
          cases hpart with
          | plain d =>
              obtain ⟨rfl, htail⟩ : d = '>' ∧ written tail = rest := by
                simpa [Segment.text] using hcut
              exact .inl ⟨_, _, hparts, htail.symm, by simp [Segment.text]⟩
          | run hr _ _ _ =>
              obtain ⟨d, more, htext, -⟩ := hr.text_eq
              rw [written_cons, htext] at hcut
              simp at hcut
  | cons c front ih =>
      cases h with
      | nil => simp at hcut
      | @cons part part' tail tail' hpart hparts =>
          cases hpart with
          | plain d =>
              obtain ⟨rfl, htail⟩ : d = c ∧ written tail = front ++ '>' :: rest := by
                simpa [Segment.text] using hcut
              refine (ih hparts (fun hmem => hfront (List.mem_cons_of_mem _ hmem)) htail).imp ?_ ?_
              · rintro ⟨more, more', hmore, hrest, hwritten⟩
                exact ⟨more, more', hmore, hrest, by simp [Segment.text, hwritten]⟩
              · rintro ⟨text, name, back, htext, hname, hwritten⟩
                exact ⟨text, name, back, htext, hname, by simp [Segment.text, hwritten]⟩
          | @run r r' hr hr' hopening hclosing =>
              -- The first closing bracket of a run is the one that its opening tag ends with.
              obtain ⟨open', hopen, hno⟩ := hr.opening_eq
              obtain ⟨name, hname, hclose⟩ := hr'.closing
              have hfirst : open' ++ '>' :: (r.text ++ r.closing ++ written tail) =
                  c :: front ++ '>' :: rest := by
                rw [← hcut]
                simp [Segment.text, hopen]
              obtain rfl := eq_of_first hno hfront hfirst
              refine .inr ⟨r'.text, name, written tail', hr'.text, hname, ?_⟩
              simp [Segment.text, ← hopening, hopen, hclose]

/-- Where a run starts in a document, one starts in all that are alike. -/
lemma startsRun_of_alike (h : List.Forall₂ Segment.Alike parts parts')
    (hstart : StartsRun ('<' :: written parts)) : StartsRun ('<' :: written parts') := by
  obtain ⟨r, ⟨⟨name, hname, tag, ⟨inside, rfl, hinside, hblank⟩, hopening⟩, htext,
    ⟨closeName, hclose, hclosing⟩⟩, rest, hrest⟩ := hstart
  have hletters : ∀ name ∈ runNames, '<' ∉ name := by decide
  have hcut : written parts =
      name ++ (inside ++ '>' :: (r.text ++ ('<' :: ('/' :: closeName ++ ['>'] ++ rest)))) := by
    simpa [Segment.text, hopening, hclosing] using hrest.symm
  obtain ⟨more, more', hmore, hcut, hname'⟩ := strip_alike h (hletters name hname) hcut
  have hfinish : ∀ text name' back, '<' ∉ text → name' ∈ runNames →
      written more' = inside ++ '>' :: (text ++ '<' :: '/' :: name' ++ '>' :: back) →
      StartsRun ('<' :: written parts') := by
    intro text name' back htext' hmem hwritten
    refine ⟨⟨'<' :: name ++ (inside ++ ['>']), text, '<' :: '/' :: name' ++ ['>']⟩,
      ⟨⟨name, hname, _, ⟨inside, rfl, hinside, hblank⟩, rfl⟩, htext', name', hmem, rfl⟩, back, ?_⟩
    simp [Segment.text, hname', hwritten]
  obtain ⟨tail, tail', htail, hcut, hinside'⟩ | ⟨text, name', back, htext', hmem, hwritten⟩ :=
    strip_alike_tag hmore hinside hcut.symm
  · obtain ⟨last, last', hlast, hcut, htext'⟩ := strip_alike htail htext hcut.symm
    -- What closes the run is outside runs, since a run starts otherwise.
    cases hlast with
    | nil => simp at hcut
    | @cons part part' back back' hpart hback =>
        cases hpart with
        | plain c =>
            obtain ⟨rfl, hcut'⟩ : '<' = c ∧ '/' :: closeName ++ ['>'] ++ rest = written back := by
              simpa [Segment.text] using hcut
            have hno : '<' ∉ '/' :: closeName ++ ['>'] := by simpa using hletters closeName hclose
            obtain ⟨end', end'', -, -, hend⟩ := strip_alike hback hno hcut'.symm
            refine hfinish r.text closeName (written end'') htext hclose ?_
            simp [hinside', htext', Segment.text, hend]
        | run hr _ _ _ =>
            obtain ⟨d, more, hrun, hslash⟩ := hr.text_eq
            rw [written_cons, hrun] at hcut
            obtain ⟨rfl, -⟩ : '/' = d ∧ _ = more ++ written back := by simpa using hcut
            exact absurd rfl hslash
  · exact hfinish text name' back htext' hmem hwritten

lemma Segment.Alike.symm {part part' : Segment} (h : part.Alike part') : part'.Alike part := by
  cases h with
  | plain c => exact .plain c
  | run hr hr' hopening hclosing => exact .run hr' hr hopening.symm hclosing.symm

/-- What is alike is cut alike. -/
lemma segmented_of_alike (h : Segmented parts) (halike : List.Forall₂ Segment.Alike parts parts') :
    Segmented parts' := by
  induction halike with
  | nil => exact .nil
  | cons hpart hparts ih =>
      cases hpart with
      | plain c =>
          cases h with
          | plain hstart hrest =>
              refine .plain (fun hstart' => ?_) (ih hrest)
              by_cases hc : c = '<'
              · subst hc
                exact hstart (startsRun_of_alike
                  (hparts.flip.imp fun _ _ hpart => hpart.symm) hstart')
              · exact not_startsRun_of_ne hc hstart'
      | run hr hr' _ _ =>
          cases h with
          | run _ hrest => exact .run hr' (ih hrest)

end Alike

/-! ### New texts -/

/-- The segment with no text if it is a run. -/
def Segment.emptied : Segment → Segment
  | plain c => plain c
  | run r => run { r with text := [] }

section Texts

variable {parts : List Segment}

/-- What is alike differs in the text of runs at most. -/
lemma map_emptied_of_alike {parts' : List Segment} (h : List.Forall₂ Segment.Alike parts parts') :
    parts.map Segment.emptied = parts'.map Segment.emptied := by
  induction h with
  | nil => rfl
  | cons hpart _ ih =>
      rw [List.map_cons, List.map_cons, ih]
      cases hpart with
      | plain c => rfl
      | run _ _ hopening hclosing => simp [Segment.emptied, hopening, hclosing]

/-- Texts without brackets may be put into the runs of a document. -/
lemma alike_withRunTexts (h : Segmented parts) {texts : List (List Char)}
    (htexts : ∀ text ∈ texts, '<' ∉ text) :
    List.Forall₂ Segment.Alike parts (withRunTexts parts texts) := by
  induction h generalizing texts with
  | nil => exact .nil
  | plain _ _ ih => exact .cons (.plain _) (ih htexts)
  | @run r parts hr _ ih =>
      have hnew : ∀ text, '<' ∉ text → (Segment.run r).Alike (.run { r with text := text }) :=
        fun text htext => .run hr ⟨hr.opening, htext, hr.closing⟩ rfl rfl
      cases texts with
      | nil => exact .cons (hnew [] (by simp)) (ih (by simp))
      | cons text texts =>
          exact .cons (hnew text (htexts text (by simp)))
            (ih fun t ht => htexts t (by simp [ht]))

/-- The runs have the texts that were put in. -/
lemma runTexts_withRunTexts {texts : List (List Char)}
    (h : texts.length = (runTexts parts).length) : runTexts (withRunTexts parts texts) = texts := by
  induction parts generalizing texts with
  | nil => exact (List.length_eq_zero_iff.mp h).symm
  | cons part parts ih =>
      cases part with
      | plain c => exact ih h
      | run r =>
          cases texts with
          | nil => simp [runTexts] at h
          | cons text texts => exact congrArg (text :: ·) (ih (Nat.succ_injective h))

/-- With its own texts a document is what it was. -/
lemma withRunTexts_runTexts (parts : List Segment) :
    withRunTexts parts (runTexts parts) = parts := by
  induction parts with
  | nil => rfl
  | cons part parts ih =>
      cases part with
      | plain c => exact congrArg (Segment.plain c :: ·) ih
      | run r => exact congrArg (Segment.run r :: ·) ih

/-- The texts of runs hold no brackets. -/
lemma Segmented.not_mem_runTexts (h : Segmented parts) : ∀ text ∈ runTexts parts, '<' ∉ text := by
  intro text htext
  obtain ⟨part, hpart, hrun⟩ := List.mem_filterMap.mp htext
  cases part with
  | plain c => simp at hrun
  | run r =>
      obtain rfl : r.text = text := by simpa using hrun
      clear htext hrun
      induction h with
      | nil => simp at hpart
      | plain _ _ ih => exact ih (by simpa using hpart)
      | run hr _ ih =>
          rcases List.mem_cons.mp hpart with heq | hmem
          · cases heq
            exact hr.text
          · exact ih hmem

end Texts

/-! ### Joining runs -/

/-- Joining runs keeps their number. -/
lemma length_mergeRuns (texts : List (List Char)) : (mergeRuns texts).length = texts.length := by
  fun_induction mergeRuns texts with
  | case1 => rfl
  | case2 text rest count block hmore ih =>
      simp [ih]
      omega
  | case3 text rest count block hmore ih => simp [ih]

/-- Joining runs keeps the text of all of them together. -/
lemma mergeRuns_flatten (texts : List (List Char)) : (mergeRuns texts).flatten = texts.flatten := by
  fun_induction mergeRuns texts with
  | case1 => rfl
  | case2 text rest count block hmore ih =>
      have hblock : block.flatten = text ++ (rest.take count).flatten := rfl
      rw [List.cons_append, List.flatten_cons, List.flatten_append, List.flatten_replicate_nil, ih,
        List.nil_append, hblock, List.append_assoc, ← List.flatten_append, List.take_append_drop,
        List.flatten_cons]
  | case3 text rest count block hmore ih => rw [List.flatten_cons, ih, List.flatten_cons]

/-! ### Substitution -/

lemma not_mem_escapeChar (c : Char) : '<' ∉ escapeChar c := by
  unfold escapeChar
  split
  case h_6 hopening _ _ _ _ => simpa using fun h => hopening h.symm
  all_goals decide

lemma not_mem_escapeMarkup (cs : List Char) : '<' ∉ escapeMarkup cs := by
  intro hmem
  obtain ⟨c, -, hc⟩ := List.mem_flatMap.mp hmem
  exact not_mem_escapeChar c hc

/-- Escaped values bring no bracket into a text. -/
lemma not_mem_substituteChars {cs : List Char} (h : '<' ∉ cs) (env : Environment) :
    '<' ∉ substituteChars env escapeMarkup cs := by
  intro hmem
  obtain ⟨p, hp, hin⟩ := List.mem_flatMap.mp hmem
  have hpiece : '<' ∉ p.text := fun hin => h <| by
    rw [← text_pieces cs]
    exact List.mem_flatMap.mpr ⟨p, hp, hin⟩
  cases p with
  | plain c => exact hpiece hin
  | token t =>
      rw [Piece.replace] at hin
      split at hin
      · exact not_mem_escapeMarkup _ hin
      · exact hpiece hin

/-- Without values a text stays. -/
lemma substituteChars_of_unbound {env : Environment} (h : ∀ name, env.lookup name = none)
    (escape : List Char → List Char) (cs : List Char) : substituteChars env escape cs = cs := by
  have hpiece : Piece.replace env escape = Piece.text := by
    funext p
    cases p with
    | plain c => rfl
    | token t => simp [Piece.replace, Environment.valueOf?, h, Piece.text]
  rw [substituteChars, hpiece, text_pieces]

/-- The segments of a document with the tokens in its runs replaced. -/
lemma segments_substituteRuns (env : Environment) (xml : String) :
    let parts := segments xml.toList
    let texts := (mergeRuns (runTexts parts)).map (substituteChars env escapeMarkup)
    segments (substituteRuns env xml).toList = withRunTexts parts texts ∧
      List.Forall₂ Segment.Alike parts (withRunTexts parts texts) ∧
      runTexts (withRunTexts parts texts) = texts := by
  intro parts texts
  have hcut : Segmented parts := segmented_segments _
  have htexts : ∀ text ∈ texts, '<' ∉ text := by
    intro text htext
    obtain ⟨joined, hjoined, rfl⟩ := List.mem_map.mp htext
    refine not_mem_substituteChars (fun hmem => ?_) env
    have hflat : '<' ∈ (runTexts parts).flatten := by
      rw [← mergeRuns_flatten]
      exact List.mem_flatten.mpr ⟨joined, hjoined, hmem⟩
    obtain ⟨own, hown, hin⟩ := List.mem_flatten.mp hflat
    exact hcut.not_mem_runTexts own hown hin
  have halike := alike_withRunTexts hcut htexts
  refine ⟨?_, halike, runTexts_withRunTexts (by simp [texts, length_mergeRuns])⟩
  rw [substituteRuns, String.toList_ofList]
  exact (segmented_of_alike hcut halike).segments_written

/-- The texts of the runs of a document with the tokens in them replaced. -/
lemma runTexts_substituteRuns (env : Environment) (xml : String) :
    runTexts (segments (substituteRuns env xml).toList) =
      (mergeRuns (runTexts (segments xml.toList))).map (substituteChars env escapeMarkup) := by
  obtain ⟨hsegments, -, htexts⟩ := segments_substituteRuns env xml
  rw [hsegments, htexts]

/-- **Values change nothing but the text of runs.** Without these texts, the runs and the
characters between them are the same as before, in the same order. If no variable has a value
then the text of all runs together stays, too. -/
theorem substituteRuns_keeps_markup (env : Environment) (xml : String) :
    let before := segments xml.toList
    let after := segments (substituteRuns env xml).toList
    after.map Segment.emptied = before.map Segment.emptied ∧
      (runTexts after).length = (runTexts before).length ∧
      (after.map Segment.emptied).flatMap Segment.text =
        (before.map Segment.emptied).flatMap Segment.text ∧
      ((∀ name, env.lookup name = none) → (runTexts after).flatten = (runTexts before).flatten) := by
  intro before after
  obtain ⟨hsegments, halike, -⟩ := segments_substituteRuns env xml
  have hmap : after.map Segment.emptied = before.map Segment.emptied := by
    rw [map_emptied_of_alike halike, ← hsegments]
  have hafter : runTexts after =
      (mergeRuns (runTexts before)).map (substituteChars env escapeMarkup) :=
    runTexts_substituteRuns env xml
  refine ⟨hmap, by rw [hafter, List.length_map, length_mergeRuns], congrArg _ hmap, ?_⟩
  intro hunbound
  have hsame : substituteChars env escapeMarkup = id :=
    funext (substituteChars_of_unbound hunbound escapeMarkup)
  rw [hafter, hsame, List.map_id, mergeRuns_flatten]

/-- A token over two runs whose variable has no value. -/
theorem substituteRuns_unbound_token :
    let env : Environment := ⟨⟨2024, 1, 1, by decide⟩, fun _ => none⟩
    let xml := "<w:t>%NA</w:t><w:t xml:space=\"preserve\">ME%</w:t>"
    (∀ name, env.lookup name = none) ∧
      (runTexts (segments (substituteRuns env xml).toList)).flatten = "%NAME%".toList := by
  intro env xml
  have hunbound : ∀ name, env.lookup name = none := fun _ => rfl
  have hbefore : (runTexts (segments xml.toList)).flatten = "%NAME%".toList := by
    decide +kernel
  obtain ⟨-, -, -, hsame⟩ := substituteRuns_keeps_markup env xml
  exact ⟨hunbound, (hsame hunbound).trans hbefore⟩

/-! ### Taking in runs -/

/-- A run takes in a number of the runs that follow: all that the text dangles in front of, one
after the other, up to a bound. -/
structure Takes (bound : ℕ) (run : List Char) (following : List (List Char)) (n : ℕ) : Prop where
  le_bound : n ≤ bound
  le_length : n ≤ following.length
  goesOn : ∀ k < n, dangles (run ++ (following.take k).flatten)
  stops : n < bound → n < following.length → dangles (run ++ (following.take n).flatten) = false

lemma takes_reach (bound : ℕ) (run : List Char) (following : List (List Char)) :
    Takes bound run following (reach bound run following) := by
  induction following generalizing bound run with
  | nil =>
      have hzero : reach bound run [] = 0 := by cases bound <;> rfl
      rw [hzero]
      exact ⟨Nat.zero_le _, Nat.zero_le _, by simp, by simp⟩
  | cons text following ih =>
      cases bound with
      | zero => exact ⟨Nat.zero_le _, Nat.zero_le _, by simp [reach], by simp⟩
      | succ bound =>
          have htake : ∀ k, run ++ ((text :: following).take (k + 1)).flatten =
              run ++ text ++ (following.take k).flatten := by
            intro k
            rw [List.take_succ_cons, List.flatten_cons, List.append_assoc]
          obtain ⟨hbound, hlength, hgoesOn, hstops⟩ := ih bound (run ++ text)
          rw [reach]
          split_ifs with hrun
          · refine ⟨Nat.succ_le_succ hbound, Nat.succ_le_succ hlength, fun k hk => ?_, ?_⟩
            · cases k with
              | zero => simpa using hrun
              | succ k =>
                  rw [htake]
                  exact hgoesOn k (Nat.lt_of_succ_lt_succ hk)
            · intro hless hmore
              rw [htake]
              exact hstops (Nat.lt_of_succ_lt_succ hless) (Nat.lt_of_succ_lt_succ hmore)
          · exact ⟨Nat.zero_le _, Nat.zero_le _, by simp, fun _ _ => by simpa using hrun⟩

/-- Together, some runs have more complete tokens than one by one. -/
def Gains (runs : List (List Char)) : Prop :=
  (runs.map tokenCount).sum < tokenCount runs.flatten

lemma foldl_tokenCount_eq_sum (runs : List (List Char)) (n : ℕ) :
    runs.foldl (fun n text => n + tokenCount text) n = n + (runs.map tokenCount).sum := by
  induction runs generalizing n with
  | nil => rfl
  | cons run runs ih => rw [List.foldl_cons, ih, List.map_cons, List.sum_cons, Nat.add_assoc]

/-! ### Blocks -/

/-- The blocks that a list of runs is cut into, from left to right. -/
inductive Blocks : List (List Char) → List (List (List Char)) → Prop
  | nil : Blocks [] []
  | alone {run following blocks n} : Takes mergeBound run following n →
      ¬ Gains (run :: following.take n) → Blocks following blocks →
      Blocks (run :: following) ([run] :: blocks)
  | joined {run following blocks n} : Takes mergeBound run following n →
      Gains (run :: following.take n) → Blocks (following.drop n) blocks →
      Blocks (run :: following) ((run :: following.take n) :: blocks)

/-- A block with its text in the first run. -/
def moved (block : List (List Char)) : List (List Char) :=
  block.flatten :: List.replicate (block.length - 1) []

/-- **Joining runs** moves the text of each block into its first run. -/
lemma blocks_mergeRuns (texts : List (List Char)) :
    ∃ blocks, Blocks texts blocks ∧ mergeRuns texts = blocks.flatMap moved := by
  fun_induction mergeRuns texts with
  | case1 => exact ⟨[], .nil, rfl⟩
  | case2 run rest count block hmore ih =>
      obtain ⟨blocks, hblocks, hmoved⟩ := ih
      rw [foldl_tokenCount_eq_sum, Nat.zero_add] at hmore
      refine ⟨block :: blocks, .joined (takes_reach _ _ _) hmore hblocks, ?_⟩
      rw [hmoved, List.flatMap_cons]
      rfl
  | case3 run rest count block hmore ih =>
      obtain ⟨blocks, hblocks, hmoved⟩ := ih
      rw [foldl_tokenCount_eq_sum, Nat.zero_add] at hmore
      refine ⟨[run] :: blocks, .alone (takes_reach _ _ _) hmore hblocks, ?_⟩
      rw [hmoved, List.flatMap_cons]
      simp [moved]

section Blocks

variable {texts : List (List Char)} {blocks : List (List (List Char))}

/-- The blocks are the runs, in order. -/
lemma Blocks.flatten (h : Blocks texts blocks) : blocks.flatten = texts := by
  induction h with
  | nil => rfl
  | alone _ _ _ ih => rw [List.flatten_cons, ih, List.singleton_append]
  | joined _ _ _ ih => rw [List.flatten_cons, ih, List.cons_append, List.take_append_drop]

/-- A block has a first run, and seventeen runs at most. If there are others, then the first one
dangles and together they complete a token. -/
lemma Blocks.of_mem (h : Blocks texts blocks) {block : List (List Char)} (hblock : block ∈ blocks) :
    ∃ run taken, block = run :: taken ∧ block.length ≤ 17 ∧
      (1 < block.length → dangles run ∧ Gains block) := by
  induction h with
  | nil => cases hblock
  | @alone run _ _ _ _ _ _ ih =>
      rcases List.mem_cons.mp hblock with rfl | hblock
      · exact ⟨run, [], rfl, by simp, by simp⟩
      · exact ih hblock
  | @joined run following _ n htakes hgains _ ih =>
      rcases List.mem_cons.mp hblock with rfl | hblock
      · have hlength : (run :: following.take n).length = n + 1 := by
          rw [List.length_cons, List.length_take_of_le htakes.le_length]
        have hbound : n ≤ 16 := htakes.le_bound
        refine ⟨run, following.take n, rfl, by omega, fun hmany => ⟨?_, hgains⟩⟩
        simpa using htakes.goesOn 0 (by omega)
      · exact ih hblock

/-- **Runs are joined in blocks.** Every list of runs is cut into consecutive blocks of seventeen
runs at most. The text of a block is moved forward into its first run, and its other runs are
left empty, so that neither the number of runs nor the text of all of them changes. A block of
more than one run starts with a run that dangles and has more complete tokens than its runs have
one by one; and a run stays alone only if it has none to gain from those it would take in. -/
theorem merged_runs_are_blocks (texts : List (List Char)) :
    (mergeRuns texts).length = texts.length ∧ (mergeRuns texts).flatten = texts.flatten ∧
      ∃ blocks, blocks.flatten = texts ∧ mergeRuns texts = blocks.flatMap moved ∧
        (∀ block ∈ blocks, ∃ run taken, block = run :: taken ∧ block.length ≤ 17 ∧
          (1 < block.length → dangles run ∧
            (block.map tokenCount).sum < tokenCount block.flatten)) ∧
        Blocks texts blocks := by
  obtain ⟨blocks, hblocks, hmoved⟩ := blocks_mergeRuns texts
  exact ⟨length_mergeRuns texts, mergeRuns_flatten texts, blocks, hblocks.flatten, hmoved,
    fun block hblock => hblocks.of_mem hblock, hblocks⟩

end Blocks

end Scaffold.Archive

import Mathlib
import Scaffold.Markup.Element
import Scaffold.Proofs.Texts

/-!
Attributes and tags as they are written.

* `advances_attributeAt?`, `advances_elementAt?`: the readers take at least one character, so what
  follows is found behind it. `AtBrackets`: those that read nothing but at a bracket;
* `tagAt?_open`, `tagAt?_closed`: a tag is read up to its bracket, and `elementAt?_append`: an
  element up to its closing tag;
* `Attribute`: a key that stands alone, or that has a value in double quotes behind an equals
  sign. `attributes_row`: attributes in a row are read as their keys and values, and the keys
  that stand alone are passed over;
* `words_row`: cutting such a row at blanks cuts each attribute for itself, and
  `eq_key_or_isShown`: a word of one without quotes and equals signs is the key, or it stands
  between two blanks of the value (`IsShown`).
-/

namespace Scaffold.Markup

open Text

/-! ### Keys and gaps -/

/-- A character that a key goes on with. -/
def isKeyChar (c : Char) : Bool :=
  isWordChar c || c == '-'

lemma isKeyChar_eq : (fun c => isWordChar c || c == '-') = isKeyChar := rfl

lemma isKeyChar_equals : isKeyChar '=' = false := by
  decide

/-- A gap between attributes: blanks that no key goes on with. -/
def IsGap (gap : List Char) : Prop :=
  ∀ c ∈ gap, isBlank c ∧ isKeyChar c = false

/-- A key in small letters. -/
structure IsKey (key : List Char) : Prop where
  start : ∃ c ∈ key.head?, c.isAlpha
  rest : ∀ c ∈ key, isKeyChar c ∧ isBlank c = false
  small : asciiLower key = key

section Readers

variable {cs rest key gap before after value name inside : List Char}

lemma isBlank_of_isAlpha {c : Char} (h : c.isAlpha) : isBlank c = false := by
  have hbounds : 65 ≤ c.toNat ∧ c.toNat ≤ 90 ∨ 97 ≤ c.toNat ∧ c.toNat ≤ 122 := by
    simpa [Char.isAlpha, Char.isUpper, Char.isLower, UInt32.le_iff_toNat_le] using h
  simp only [isBlank, Bool.or_eq_false_iff, Bool.and_eq_false_iff, decide_eq_false_iff_not,
    beq_eq_false_iff_ne]
  omega

lemma IsKey.ne_nil (h : IsKey key) : key ≠ [] := by
  rintro rfl
  obtain ⟨c, hc, -⟩ := h.start
  cases hc

/-- Whether a text is a key can be seen from its characters. -/
lemma IsKey.of_all (start : key.head?.any Char.isAlpha)
    (rest : key.all fun c => isKeyChar c && !isBlank c) (small : asciiLower key = key) :
    IsKey key where
  start := by simpa [Option.any_eq_true] using start
  rest := by simpa using rest
  small := small

/-- A key is one word. -/
lemma IsKey.words (h : IsKey key) : wordsBy isBlank key = [key] :=
  wordsBy_of_forall (fun c hc => by simp [(h.rest c hc).2]) h.ne_nil

lemma IsGap.words (h : IsGap gap) : wordsBy isBlank gap = [] := by
  have hnone := wordsBy_gap (fun c hc => (h c hc).1) []
  rwa [List.append_nil] at hnone

lemma IsGap.not_mem (h : IsGap gap) {c : Char} (hc : isBlank c = false) : c ∉ gap := by
  intro hmem
  rw [(h c hmem).1] at hc
  cases hc

/-- A gap is trimmed off. -/
lemma IsGap.trimStart_append (h : IsGap gap) {c : Char} (hc : isBlank c = false)
    (rest : List Char) : trimStart (gap ++ c :: rest) = c :: rest :=
  dropWhile_eq_iff.mpr ⟨gap, fun d hd => (h d hd).1, rfl, by simpa using hc⟩

/-! ### Readers -/

lemma length_valueAt? (h : valueAt? cs = some (value, rest)) : rest.length ≤ cs.length := by
  unfold valueAt? at h
  split at h
  · have := splitOnce_length h
    rw [List.length_cons]
    omega
  · have := splitOnce_length h
    rw [List.length_cons]
    omega
  · split at h
    · cases h
    · obtain ⟨-, rfl⟩ := Prod.mk.inj (Option.some.inj h)
      exact (List.dropWhile_sublist _).length_le

lemma advances_attributeAt? : Advances attributeAt? := by
  intro cs found rest h
  have hkey : (trimStart (cs.dropWhile isKeyChar)).length ≤ cs.length :=
    ((List.dropWhile_sublist _).trans (List.dropWhile_sublist _)).length_le
  unfold attributeAt? at h
  split at h
  · cases h
  · dsimp only at h
    split at h
    · rename_i tail htail
      obtain ⟨⟨value, rest'⟩, hvalue, hpair⟩ := Option.map_eq_some_iff.mp h
      obtain ⟨-, rfl⟩ := Prod.mk.inj hpair
      have hle : rest'.length ≤ tail.length :=
        (length_valueAt? hvalue).trans (List.dropWhile_sublist _).length_le
      have hcons : (trimStart (cs.dropWhile isKeyChar)).length = tail.length + 1 :=
        congrArg List.length htail
      dsimp only
      omega
    · cases h

lemma advances_tagAt? (name : List Char) : Advances (tagAt? name) := by
  intro cs found rest h
  unfold tagAt? at h
  split at h
  · cases h
  · rename_i body hbody
    have hlength := after?_length hbody
    split at h
    · cases h
    · obtain ⟨⟨inside, tail⟩, hsplit, hpair⟩ := Option.map_eq_some_iff.mp h
      have hlt := splitOnce_length hsplit
      have hrest : tail = rest := by
        dsimp only at hpair
        split at hpair <;> exact (Prod.mk.inj hpair).2
      rw [← hrest]
      omega

/-- The element of a name, with its tag and the text inside it, and what follows it. -/
def elementAt? (name cs : List Char) : Option ((Tag × List Char) × List Char) := do
  let (tag, rest) ← tagAt? name cs
  let (body, rest) ← bodyAt? name tag rest
  return ((tag, body), rest)

lemma elements_eq (name : String) (cs : List Char) :
    elements name cs = findAll (elementAt? name.toList) cs := rfl

lemma advances_elementAt? (name : List Char) : Advances (elementAt? name) := by
  intro cs found rest h
  obtain ⟨⟨tag, inner⟩, htag, h⟩ := Option.bind_eq_some_iff.mp h
  obtain ⟨⟨body, outer⟩, hbody, h⟩ := Option.bind_eq_some_iff.mp h
  obtain ⟨-, rfl⟩ := Prod.mk.inj (Option.some.inj h)
  have hlt : inner.length < cs.length := advances_tagAt? name htag
  have hle : outer.length ≤ inner.length := by
    unfold bodyAt? at hbody
    split at hbody
    · rw [(Prod.mk.inj (Option.some.inj hbody)).2]
    · rw [eq_append_of_cutAt? hbody, List.length_append]
      omega
  omega

/-- The text between the tags of a name without attributes, and what follows it. -/
def plainBodyAt? (name cs : List Char) : Option (List Char × List Char) := do
  let rest ← after? ('<' :: name ++ ['>']) cs
  cutAt? ("</".toList ++ name ++ ['>']) rest

lemma plainBodies_eq (name : String) (cs : List Char) :
    plainBodies name cs = findAll (plainBodyAt? name.toList) cs := rfl

/-- A reader that reads nothing but what starts with a bracket. -/
def AtBrackets {α : Type} (read : List Char → Option α) : Prop :=
  ∀ c ≠ '<', ∀ cs, read (c :: cs) = none

lemma AtBrackets.unread {α : Type} {read : List Char → Option α} (hread : AtBrackets read)
    (h : '<' ∉ cs) (rest : List Char) : Unread read cs rest :=
  unread_of_forall fun c hc _ => hread c (ne_of_mem_of_not_mem hc h) _

lemma atBrackets_after? (part : List Char) : AtBrackets (after? ('<' :: part)) :=
  fun _ hc _ => if_neg (by simpa using Ne.symm hc)

lemma atBrackets_tagAt? (name : List Char) : AtBrackets (tagAt? name) := by
  intro c hc cs
  rw [tagAt?, atBrackets_after? name c hc cs]

lemma atBrackets_elementAt? (name : List Char) : AtBrackets (elementAt? name) := by
  intro c hc cs
  rw [elementAt?, atBrackets_tagAt? name c hc cs]
  rfl

lemma atBrackets_plainBodyAt? (name : List Char) : AtBrackets (plainBodyAt? name) := by
  intro c hc cs
  rw [plainBodyAt?, List.cons_append, atBrackets_after? _ c hc cs]
  rfl

section Tags

variable (hhead : ∀ c ∈ inside.head?, isWordChar c = false) (hinside : '>' ∉ inside)

include hhead hinside

lemma tagAt?_append (name rest : List Char) :
    tagAt? name ('<' :: (name ++ (inside ++ '>' :: rest))) =
      some ((before? ['/'] inside).elim (⟨inside, false⟩, rest)
        fun inside => (⟨inside, true⟩, rest)) := by
  have hafter : after? ('<' :: name) ('<' :: (name ++ (inside ++ '>' :: rest))) =
      some (inside ++ '>' :: rest) :=
    after?_append ('<' :: name) _
  have hword : (inside ++ '>' :: rest).head?.any isWordChar = false := by
    cases inside with
    | nil => rfl
    | cons c inside => exact hhead c rfl
  rw [tagAt?, hafter]
  simp only [hword, Bool.false_eq_true, if_false, splitOnce_append hinside, Option.map_some]
  cases before? ['/'] inside <;> rfl

/-- A tag is read up to its bracket. -/
lemma tagAt?_open (hlast : ∀ c ∈ inside.getLast?, c ≠ '/') (name rest : List Char) :
    tagAt? name ('<' :: (name ++ (inside ++ '>' :: rest))) = some (⟨inside, false⟩, rest) := by
  have hbefore : before? ['/'] inside = none := by
    rw [← List.head?_reverse] at hlast
    rw [before?]
    cases hreverse : inside.reverse with
    | nil => rfl
    | cons c front =>
        have hc : c ≠ '/' := hlast c (by rw [hreverse]; rfl)
        have hnone : after? ['/'] (c :: front) = none := if_neg (by simpa using Ne.symm hc)
        exact congrArg _ hnone
  rw [tagAt?_append hhead hinside, hbefore, Option.elim_none]

/-- An element is read up to its closing tag. -/
lemma elementAt?_append (hlast : ∀ c ∈ inside.getLast?, c ≠ '/') {body : List Char}
    (hbody : Unread (after? ('<' :: '/' :: name ++ ['>'])) body
      ('<' :: '/' :: name ++ ['>'] ++ rest)) :
    elementAt? name ('<' :: (name ++ (inside ++ '>' ::
      (body ++ ('<' :: '/' :: name ++ ['>'] ++ rest))))) =
        some ((⟨inside, false⟩, body), rest) := by
  have hcut : bodyAt? name ⟨inside, false⟩ (body ++ ('<' :: '/' :: name ++ ['>'] ++ rest)) =
      some (body, rest) :=
    cutAt?_append (by simp) hbody
  rw [elementAt?, tagAt?_open hhead hinside hlast]
  dsimp only [Option.bind_eq_bind, Option.bind_some]
  rw [hcut]
  rfl

end Tags

/-- A tag that closes itself is read up to its slash. -/
lemma tagAt?_closed (hhead : ∀ c ∈ inside.head?, isWordChar c = false) (hinside : '>' ∉ inside)
    (name rest : List Char) :
    tagAt? name ('<' :: (name ++ (inside ++ '/' :: '>' :: rest))) =
      some (⟨inside, true⟩, rest) := by
  have hbefore : before? ['/'] (inside ++ ['/']) = some inside := by
    simp [before?, after?]
  have hhead' : ∀ c ∈ (inside ++ ['/']).head?, isWordChar c = false := by
    cases inside with
    | nil =>
        rintro c ⟨⟩
        decide
    | cons c inside => exact hhead
  have happend := tagAt?_append hhead' (by simpa using hinside) name rest
  rwa [hbefore, Option.elim_some, List.append_assoc] at happend

end Readers

/-! ### Attributes -/

/-- An attribute behind a gap: a key alone, or a value in double quotes behind the key and an
equals sign, which may have gaps around it. -/
structure Attribute where
  gap : List Char
  key : List Char
  before : List Char := []
  after : List Char := []
  value? : Option (List Char)

namespace Attribute

/-- The attribute as it is written behind its gap. -/
def text (a : Attribute) : List Char :=
  match a.value? with
  | some value => a.key ++ (a.before ++ '=' :: (a.after ++ '"' :: (value ++ ['"'])))
  | none => a.key

/-- What is read of an attribute. -/
def pair? (a : Attribute) : Option (List Char × List Char) :=
  a.value?.map fun value => (a.key, value)

/-- The gaps are gaps, and the value ends at the second quote. -/
structure IsWritten (a : Attribute) : Prop where
  gap : IsGap a.gap
  gap_ne_nil : a.gap ≠ []
  key : IsKey a.key
  before : IsGap a.before
  after : IsGap a.after
  value : ∀ value, a.value? = some value → '"' ∉ value

/-- Attributes one after the other, and a last gap. -/
def row (attrs : List Attribute) (gap : List Char) : List Char :=
  attrs.flatMap (fun a => a.gap ++ a.text) ++ gap

section Rows

variable {a : Attribute} {attrs : List Attribute} {gap rest value word : List Char}

lemma row_cons (a : Attribute) (attrs : List Attribute) (gap : List Char) :
    row (a :: attrs) gap = a.gap ++ (a.text ++ row attrs gap) := by
  simp [row]

lemma text_of_some (h : a.value? = some value) :
    a.text = a.key ++ (a.before ++ '=' :: (a.after ++ '"' :: (value ++ ['"']))) := by
  rw [text, h]

lemma text_of_none (h : a.value? = none) : a.text = a.key := by
  rw [text, h]

/-- An attribute starts with a letter. -/
lemma IsWritten.head (h : a.IsWritten) (rest : List Char) :
    ∃ c more, a.text ++ rest = c :: more ∧ c.isAlpha := by
  obtain ⟨c, hc, halpha⟩ := h.key.start
  obtain ⟨more, hkey⟩ := List.head?_eq_some_iff.mp hc
  cases hvalue : a.value? with
  | none => exact ⟨c, more ++ rest, by rw [text_of_none hvalue, hkey]; rfl, halpha⟩
  | some value =>
      exact ⟨c, _, by rw [text_of_some hvalue, hkey, List.cons_append, List.cons_append], halpha⟩

/-- A character that is no part of a gap or a key is in a value, if anywhere. -/
lemma not_mem_row (h : ∀ a ∈ attrs, a.IsWritten) (hgap : IsGap gap) {c : Char}
    (hblank : isBlank c = false) (hkey : isKeyChar c = false) (hc : c ≠ '=' ∧ c ≠ '"')
    (hvalue : ∀ a ∈ attrs, ∀ value, a.value? = some value → c ∉ value) : c ∉ row attrs gap := by
  have htext : ∀ a ∈ attrs, c ∉ a.text := by
    intro a ha
    have hin : c ∉ a.key := fun hmem => by simpa [hkey] using ((h a ha).key.rest c hmem).1
    cases hgiven : a.value? with
    | none => rwa [text_of_none hgiven]
    | some value =>
        simp [text_of_some hgiven, hin, (h a ha).before.not_mem hblank, hc,
          (h a ha).after.not_mem hblank, hvalue a ha value hgiven]
  intro hmem
  rcases List.mem_append.mp hmem with hmem | hmem
  · obtain ⟨a, ha, hmem⟩ := List.mem_flatMap.mp hmem
    rcases List.mem_append.mp hmem with hmem | hmem
    · exact (h a ha).gap.not_mem hblank hmem
    · exact htext a ha hmem
  · exact hgap.not_mem hblank hmem

/-- Attributes end with a blank, a quote or a character of a key. -/
lemma getLast?_row (h : ∀ a ∈ attrs, a.IsWritten) (hgap : IsGap gap) {c : Char}
    (hc : c ∈ (row attrs gap).getLast?) : isBlank c ∨ c = '"' ∨ isKeyChar c := by
  cases gap using List.reverseRecOn with
  | append_singleton gap b =>
      rw [row, ← List.append_assoc, List.getLast?_concat, Option.mem_some_iff] at hc
      exact .inl (hgap c (by simp [hc])).1
  | nil =>
      cases attrs using List.reverseRecOn with
      | nil => cases hc
      | append_singleton attrs a =>
          have ha : a.IsWritten := h a (by simp)
          have hrow : row (attrs ++ [a]) [] = row attrs a.gap ++ a.text := by simp [row]
          rw [hrow] at hc
          cases hgiven : a.value? with
          | some value =>
              have htext : a.text = (a.key ++ (a.before ++ '=' :: (a.after ++ '"' :: value))) ++
                  ['"'] := by
                simp [text_of_some hgiven]
              rw [htext, ← List.append_assoc, List.getLast?_concat, Option.mem_some_iff] at hc
              exact .inr (.inl hc.symm)
          | none =>
              rw [text_of_none hgiven, List.getLast?_append_of_ne_nil _ ha.key.ne_nil] at hc
              exact .inr (.inr (ha.key.rest c (List.mem_of_getLast? hc)).1)

/-- What follows a key that stands alone: nothing, or a gap and then no equals sign. -/
def Resumes (rest : List Char) : Prop :=
  (∀ c ∈ rest.head?, isBlank c ∧ isKeyChar c = false) ∧ ∀ c ∈ (trimStart rest).head?, c ≠ '='

lemma resumes_row (h : ∀ a ∈ attrs, a.IsWritten) (hgap : IsGap gap) : Resumes (row attrs gap) := by
  cases attrs with
  | nil =>
      have htrim : trimStart gap = [] :=
        List.dropWhile_eq_nil_iff.mpr fun c hc => (hgap c hc).1
      refine ⟨fun c hc => hgap c (List.mem_of_head? hc), fun c hc => ?_⟩
      rw [row, List.flatMap_nil, List.nil_append, htrim] at hc
      cases hc
  | cons a attrs =>
      have ha : a.IsWritten := h a List.mem_cons_self
      obtain ⟨c, more, htext, halpha⟩ := ha.head (row attrs gap)
      have htrim : trimStart (row (a :: attrs) gap) = c :: more := by
        rw [row_cons, htext]
        exact ha.gap.trimStart_append (isBlank_of_isAlpha halpha) more
      obtain ⟨d, front, hfront⟩ := List.exists_cons_of_ne_nil ha.gap_ne_nil
      refine ⟨fun e he => ?_, fun e he => ?_⟩
      · rw [row_cons, hfront, List.cons_append, List.head?_cons, Option.mem_some_iff] at he
        rw [← he]
        exact ha.gap d (by rw [hfront]; exact List.mem_cons_self)
      · rw [htrim, List.head?_cons, Option.mem_some_iff] at he
        rintro rfl
        rw [he] at halpha
        cases halpha

/-- A key with a value is read. -/
lemma attributeAt?_text (h : a.IsWritten) (hvalue : a.value? = some value) (rest : List Char) :
    attributeAt? (a.text ++ rest) = some ((a.key, value), rest) := by
  obtain ⟨c, more, hhead, halpha⟩ := h.head rest
  have htext : a.text ++ rest = a.key ++ (a.before ++ '=' :: (a.after ++ '"' ::
      (value ++ '"' :: rest))) := by
    simp [text_of_some hvalue]
  have hfollows : ∀ c ∈ (a.before ++ '=' :: (a.after ++ '"' :: (value ++ '"' :: rest))).head?,
      isKeyChar c = false := by
    cases hbefore : a.before with
    | nil => simp [isKeyChar_equals]
    | cons d before =>
        have hd := (h.before d (by rw [hbefore]; exact List.mem_cons_self)).2
        simpa using hd
  obtain ⟨htake, hdrop⟩ :=
    takeWhile_dropWhile_iff.mpr ⟨htext, fun c hc => (h.key.rest c hc).1, hfollows⟩
  have hequals : trimStart (a.before ++ '=' :: (a.after ++ '"' :: (value ++ '"' :: rest))) =
      '=' :: (a.after ++ '"' :: (value ++ '"' :: rest)) :=
    h.before.trimStart_append (by decide) _
  have hquote : trimStart (a.after ++ '"' :: (value ++ '"' :: rest)) =
      '"' :: (value ++ '"' :: rest) :=
    h.after.trimStart_append (by decide) _
  have hread : valueAt? ('"' :: (value ++ '"' :: rest)) = some (value, rest) :=
    splitOnce_append (h.value value hvalue)
  have hany : (a.text ++ rest).head?.any Char.isAlpha = true := by
    rw [hhead]
    exact halpha
  simp only [attributeAt?, hany, Bool.not_true, Bool.false_eq_true, if_false, isKeyChar_eq, htake,
    hdrop, hequals, hquote, hread, h.key.small, Option.map_some]

/-- A key that stands alone, or the end of one, is not read. -/
lemma attributeAt?_of_resumes {part : List Char} (hpart : ∀ c ∈ part, isKeyChar c)
    (hrest : Resumes rest) : attributeAt? (part ++ rest) = none := by
  have hdrop : (part ++ rest).dropWhile isKeyChar = rest :=
    dropWhile_eq_iff.mpr ⟨part, hpart, rfl, fun c hc => (hrest.1 c hc).2⟩
  simp only [attributeAt?, isKeyChar_eq, hdrop]
  split
  · rfl
  · split
    · rename_i htrim
      exact absurd rfl (hrest.2 '=' (by rw [htrim]; rfl))
    · rfl

lemma unread_key {part : List Char} (hpart : ∀ c ∈ part, isKeyChar c) (hrest : Resumes rest) :
    Unread attributeAt? part rest := by
  induction part with
  | nil => trivial
  | cons c part ih =>
      exact ⟨attributeAt?_of_resumes hpart hrest,
        ih fun d hd => hpart d (List.mem_cons_of_mem c hd)⟩

lemma unread_gap (hgap : IsGap gap) (rest : List Char) : Unread attributeAt? gap rest := by
  refine unread_of_forall fun c hc cs => ?_
  have halpha : c.isAlpha = false := by
    by_contra h
    exact hgap.not_mem (isBlank_of_isAlpha (by simpa using h)) hc
  rw [attributeAt?, List.head?_cons, Option.any_some, halpha]
  rfl

/-- **Attributes in a row are read** as their keys and values. Keys that stand alone are passed
over. -/
lemma attributes_row (h : ∀ a ∈ attrs, a.IsWritten) (hgap : IsGap gap) :
    attributes (row attrs gap) = attrs.filterMap pair? := by
  induction attrs with
  | nil => exact findAll_eq_nil (unread_gap hgap [])
  | cons a attrs ih =>
      obtain ⟨ha, htail⟩ := List.forall_mem_cons.mp h
      have hskip := findAll_append (unread_gap ha.gap (a.text ++ row attrs gap))
      rw [attributes, row_cons, hskip]
      cases hvalue : a.value? with
      | none =>
          have hkey := findAll_append (unread_key (fun c hc => (ha.key.rest c hc).1)
            (resumes_row htail hgap))
          rw [text_of_none hvalue, hkey, List.filterMap_cons_none (by simp [pair?, hvalue])]
          exact ih htail
      | some value =>
          rw [findAll_of_some advances_attributeAt? (attributeAt?_text ha hvalue _),
            List.filterMap_cons_some (b := (a.key, value)) (by simp [pair?, hvalue])]
          exact congrArg _ (ih htail)

/-! ### Words -/

/-- Cutting attributes at blanks cuts each of them for itself. -/
lemma words_row (h : ∀ a ∈ attrs, a.IsWritten) (hgap : IsGap gap) :
    wordsBy isBlank (row attrs gap) = attrs.flatMap fun a => wordsBy isBlank a.text := by
  induction attrs with
  | nil => exact hgap.words
  | cons a attrs ih =>
      obtain ⟨ha, htail⟩ := List.forall_mem_cons.mp h
      have hblank := fun c hc => ((resumes_row htail hgap).1 c hc).1
      rw [row_cons, wordsBy_gap fun c hc => (ha.gap c hc).1, wordsBy_append hblank, ih htail,
        List.flatMap_cons]

/-- A word stands between two blanks of a text. -/
def IsShown (word text : List Char) : Prop :=
  ∃ front b b' back, text = front ++ b :: (word ++ b' :: back) ∧ isBlank b ∧ isBlank b'

/-- In front of the quotes, the only word without equals signs is the key. -/
lemma eq_key_of_append (h : a.IsWritten) {front back : List Char}
    (hcut : (a.key ++ a.before) ++ '=' :: a.after = front ++ (word ++ back)) (hne : word ≠ [])
    (hword : ∀ c ∈ word, ¬ isBlank c) (hequals : '=' ∉ word)
    (hfront : ∀ c ∈ front.getLast?, isBlank c) (hback : ∀ c ∈ back.head?, isBlank c) :
    word = a.key := by
  rcases append_cons_cases hcut hequals with ⟨mid, hkey, rfl⟩ | ⟨mid, -, hafter⟩
  · have hmid : ∀ c ∈ mid.head?, isBlank c := by
      cases mid with
      | nil => simp
      | cons c mid => exact hback
    have hmem : word ∈ wordsBy isBlank (a.key ++ a.before) :=
      mem_wordsBy_iff.mpr ⟨hne, hword, front, mid, hkey, hfront, hmid⟩
    have hgap : ∀ c ∈ a.before.head?, isBlank c :=
      fun c hc => (h.before c (List.mem_of_head? hc)).1
    rwa [wordsBy_append hgap, h.key.words, h.before.words, List.append_nil,
      List.mem_singleton] at hmem
  · obtain ⟨c, word', rfl⟩ := List.exists_cons_of_ne_nil hne
    exact absurd (h.after c (by rw [hafter]; simp)).1 (hword c List.mem_cons_self)

/-- Behind the first quote, a word without quotes is shown. The quotes are no blanks, so there is
something between them and the word. -/
lemma isShown_of_append {front back : List Char} (hcut : value ++ ['"'] = front ++ (word ++ back))
    (hne : word ≠ []) (hquote : '"' ∉ word) (hfront : ∀ c ∈ ('"' :: front).getLast?, isBlank c)
    (hback : ∀ c ∈ back.head?, isBlank c) : IsShown word value := by
  rcases append_cons_cases hcut hquote with ⟨mid, rfl, rfl⟩ | ⟨mid, -, hnil⟩
  · cases front using List.reverseRecOn with
    | nil => exact absurd (hfront '"' rfl) (by decide)
    | append_singleton front b =>
        cases mid with
        | nil => exact absurd (hback '"' rfl) (by decide)
        | cons b' mid =>
            rw [← List.cons_append] at hfront
            exact ⟨front, b, b', mid, by simp, hfront b List.getLast?_concat, hback b' rfl⟩
  · obtain ⟨-, hnil⟩ := List.append_eq_nil_iff.mp hnil.symm
    exact absurd (List.append_eq_nil_iff.mp hnil).1 hne

/-- **A word of an attribute** without quotes and equals signs is its key, or its value shows it
between blanks. -/
lemma eq_key_or_isShown (h : a.IsWritten) (hvalue : a.value? = some value)
    (hmem : word ∈ wordsBy isBlank a.text) (hquote : '"' ∉ word) (hequals : '=' ∉ word) :
    word = a.key ∨ IsShown word value := by
  obtain ⟨hne, hword, front, back, hcut, hfront, hback⟩ := mem_wordsBy_iff.mp hmem
  have hquoted : ((a.key ++ a.before) ++ '=' :: a.after) ++ '"' :: (value ++ ['"']) =
      front ++ (word ++ back) := by
    rw [← hcut, text_of_some hvalue]
    simp
  rcases append_cons_cases hquoted hquote with ⟨mid, hkey, rfl⟩ | ⟨mid, rfl, hinside⟩
  · have hmid : ∀ c ∈ mid.head?, isBlank c := by
      cases mid with
      | nil => simp
      | cons c mid => exact hback
    exact .inl (eq_key_of_append h hkey hne hword hequals hfront hmid)
  · rw [List.getLast?_append_cons] at hfront
    exact .inr (isShown_of_append hinside hne hquote hfront hback)

/-- What a value shows is a word of the attribute. -/
lemma IsShown.mem_words (h : IsShown word value) (hvalue : a.value? = some value) (hne : word ≠ [])
    (hword : ∀ c ∈ word, ¬ isBlank c) : word ∈ wordsBy isBlank a.text := by
  obtain ⟨front, b, b', back, rfl, hb, hb'⟩ := h
  have htext : a.text = (a.key ++ (a.before ++ '=' :: (a.after ++ '"' :: front)) ++ [b]) ++
      (word ++ b' :: (back ++ ['"'])) := by
    simp [text_of_some hvalue]
  refine mem_wordsBy_iff.mpr ⟨hne, hword, _, _, htext, fun c hc => ?_, by simpa using hb'⟩
  rw [List.getLast?_concat, Option.mem_some_iff] at hc
  rwa [← hc]

end Rows

end Attribute

end Scaffold.Markup

import Mathlib.Tactic
import Scaffold.Proofs.Directives

/-!
Loop items in the text of a template.

* `fill`: one pass over a text puts an item in place of each placeholder, and goes on behind
  it. Of two items with one name the first is taken (`itemAt?_placeholder`);
* `Overlap`: of two texts, one is part of the other, or the end of one is the start of the
  other;
* `fill_cons`: an item may be put in before the others unless it overlaps a placeholder of
  theirs. `bindItems_eq_fill`: items that are put in one after the other are then put in at
  once;
* `Template.expand`: the text of a template with one pass over each text in it;
* `Template.Plain`: no item of a loop overlaps the placeholder of a loop around it;
* `renderTemplate_eq_expand`: such a template is rendered to that text;
* `renderTemplate_item_read_again`: without this an item can be taken for a placeholder.
-/

namespace Scaffold

open Text Variable

/-! ### One pass over a text -/

/-- What stands for the current item of a loop: the name in double braces. -/
def placeholder (name : List Char) : List Char :=
  '{' :: '{' :: (name ++ ['}', '}'])

/-- The item whose placeholder is at the start of a text, and what follows. -/
def itemAt? (items : List (List Char × List Char)) (cs : List Char) :
    Option (List Char × List Char) :=
  items.findSome? fun item => (after? (placeholder item.1) cs).map fun rest => (item.2, rest)

section Items

variable {items : List (List Char × List Char)} {cs rest : List Char}

lemma itemAt?_eq_some {value : List Char} (h : itemAt? items cs = some (value, rest)) :
    ∃ name, (name, value) ∈ items ∧ cs = placeholder name ++ rest := by
  obtain ⟨⟨name, value'⟩, hmem, hitem⟩ := List.exists_of_findSome?_eq_some h
  obtain ⟨rest', hafter, hpair⟩ := Option.map_eq_some_iff.mp hitem
  obtain ⟨rfl, rfl⟩ : value' = value ∧ rest' = rest := by simpa using hpair
  exact ⟨name, hmem, after?_eq_some_iff.mp hafter⟩

lemma itemAt?_eq_none_iff :
    itemAt? items cs = none ↔ ∀ item ∈ items, ¬ placeholder item.1 <+: cs := by
  simp only [itemAt?, List.findSome?_eq_none_iff, Option.map_eq_none_iff, after?_eq_none_iff]

lemma itemAt?_length {value : List Char} (h : itemAt? items cs = some (value, rest)) :
    rest.length < cs.length := by
  obtain ⟨name, -, rfl⟩ := itemAt?_eq_some h
  simp [placeholder]
  omega

/-- The text with each placeholder replaced by its item, in one pass from left to right. What
has been put in is not read again. -/
def fill (items : List (List Char × List Char)) (cs : List Char) : List Char :=
  match cs with
  | [] => []
  | c :: rest =>
    match _h : itemAt? items (c :: rest) with
    | some (value, next) => value ++ fill items next
    | none => c :: fill items rest
termination_by cs.length
decreasing_by
  · exact itemAt?_length _h
  · simp

lemma fill_of_some {value : List Char} (h : itemAt? items cs = some (value, rest)) :
    fill items cs = value ++ fill items rest := by
  cases cs with
  | nil => exact absurd (itemAt?_length h) (by simp)
  | cons c tail =>
      rw [fill]
      split
      · next value' next hsome =>
          rw [h] at hsome
          obtain ⟨rfl, rfl⟩ : value = value' ∧ rest = next := by simpa using hsome
          rfl
      · next hnone => simp [h] at hnone

lemma fill_of_none {c : Char} (h : itemAt? items (c :: rest) = none) :
    fill items (c :: rest) = c :: fill items rest := by
  rw [fill]
  split
  · next hsome => simp [h] at hsome
  · rfl

/-- Text that no placeholder starts in stays. -/
lemma fill_append {front : List Char}
    (h : ∀ back, back ≠ [] → back <:+ front → itemAt? items (back ++ rest) = none) :
    fill items (front ++ rest) = front ++ fill items rest := by
  induction front with
  | nil => rfl
  | cons c front ih =>
      have hnone : itemAt? items (c :: (front ++ rest)) = none :=
        h (c :: front) (by simp) List.suffix_rfl
      have htail : ∀ back, back ≠ [] → back <:+ front → itemAt? items (back ++ rest) = none :=
        fun back hne hback => h back hne (hback.trans (List.suffix_cons c front))
      rw [List.cons_append, fill_of_none hnone, ih htail, List.cons_append]

/-- Without items the text stays. -/
lemma fill_nil (cs : List Char) : fill [] cs = cs := by
  have h : fill [] (cs ++ []) = cs ++ fill [] [] := fill_append fun _ _ _ => rfl
  rwa [List.append_nil, fill, List.append_nil] at h

/-- Putting in one item is replacing its placeholder everywhere. -/
lemma fill_singleton (item : List Char × List Char) (cs : List Char) :
    fill [item] cs = replaceAll '{' ('{' :: item.1 ++ ['}', '}']) item.2 cs := by
  fun_induction replaceAll '{' ('{' :: item.1 ++ ['}', '}']) item.2 cs with
  | case1 => rw [fill]
  | case2 c rest next hfound ih =>
      have hafter : after? (placeholder item.1) (c :: rest) = some next := hfound
      have hsome : itemAt? [item] (c :: rest) = some (item.2, next) := by simp [itemAt?, hafter]
      rw [fill_of_some hsome, ih]
  | case3 c rest hfound ih =>
      have hafter : after? (placeholder item.1) (c :: rest) = none := hfound
      have hnone : itemAt? [item] (c :: rest) = none := by simp [itemAt?, hafter]
      rw [fill_of_none hnone, ih]

end Items

/-! ### Placeholders side by side -/

/-- A text without braces. -/
def BraceFree (cs : List Char) : Prop :=
  '{' ∉ cs ∧ '}' ∉ cs

/-- Of two placeholders at one place, one is the other. -/
lemma eq_of_placeholder_starts {name other rest : List Char} (hname : BraceFree name)
    (hother : BraceFree other) (h : placeholder name <+: placeholder other ++ rest) :
    name = other := by
  obtain ⟨tail, htail⟩ := h
  have hends : name ++ '}' :: ('}' :: tail) = other ++ '}' :: ('}' :: rest) := by
    simpa [placeholder] using htail
  have hcut (cs more : List Char) (hfree : BraceFree cs) :
      (cs ++ '}' :: more).takeWhile (· != '}') = cs := by
    have hall : ∀ c ∈ cs, (c != '}') = true := fun c hc => by
      simpa using fun heq : c = '}' => hfree.2 (heq ▸ hc)
    rw [List.takeWhile_append_of_pos hall]
    simp
  rw [← hcut name ('}' :: tail) hname, hends, hcut other ('}' :: rest) hother]

/-- No placeholder starts within another. -/
lemma not_placeholder_prefix_within {name other back rest : List Char} (hother : BraceFree other)
    (hne : back ≠ []) (hback : back <:+ placeholder other) (hproper : back ≠ placeholder other) :
    ¬ placeholder name <+: back ++ rest := by
  rintro ⟨tail, htail⟩
  have hsuffix : back <:+ '{' :: (other ++ ['}', '}']) :=
    (List.suffix_cons_iff.mp hback).resolve_left hproper
  obtain rfl | hsuffix := List.suffix_cons_iff.mp hsuffix
  · -- The second character is one of the name or a closing brace.
    cases other with
    | nil => simp [placeholder] at htail
    | cons c more =>
        obtain ⟨rfl, -⟩ : '{' = c ∧ _ := by simpa [placeholder] using htail
        exact hother.1 (by simp)
  · -- So is the first one.
    obtain ⟨c, more, rfl⟩ := List.exists_cons_of_ne_nil hne
    obtain ⟨rfl, -⟩ : '{' = c ∧ _ := by simpa [placeholder] using htail
    have hmem : '{' ∈ other ++ ['}', '}'] := hsuffix.subset (by simp)
    simp [hother.1] at hmem

section Items

variable {items : List (List Char × List Char)}

/-- The item at a placeholder is the first one of that name. -/
lemma itemAt?_placeholder (hitems : ∀ item ∈ items, BraceFree item.1) {name : List Char}
    (hname : BraceFree name) (rest : List Char) :
    itemAt? items (placeholder name ++ rest) =
      (items.lookup name).map fun value => (value, rest) := by
  induction items with
  | nil => rfl
  | cons item items ih =>
      obtain ⟨first, value⟩ := item
      have ih := ih fun item hitem => hitems item (by simp [hitem])
      rw [itemAt?] at ih ⊢
      rw [List.findSome?_cons, List.lookup_cons]
      by_cases heq : name = first
      · subst heq
        simp
      · have hfirst : BraceFree first := hitems (first, value) (by simp)
        have hnone : after? (placeholder first) (placeholder name ++ rest) = none :=
          after?_eq_none_iff.mpr fun h => heq (eq_of_placeholder_starts hfirst hname h).symm
        simp [hnone, beq_false_of_ne heq, ih]

/-- A placeholder becomes the first item of its name, and stays if there is none. -/
lemma fill_placeholder (hitems : ∀ item ∈ items, BraceFree item.1) {name : List Char}
    (hname : BraceFree name) (rest : List Char) :
    fill items (placeholder name ++ rest) =
      ((items.lookup name).getD (placeholder name)) ++ fill items rest := by
  have hat := itemAt?_placeholder hitems hname
  cases hlookup : items.lookup name with
  | some value => exact fill_of_some (by rw [hat, hlookup]; rfl)
  | none =>
      refine fill_append fun back hne hback => ?_
      by_cases hwhole : back = placeholder name
      · rw [hwhole, hat, hlookup]
        rfl
      · exact itemAt?_eq_none_iff.mpr fun item _ =>
          not_placeholder_prefix_within hname hne hback hwhole

end Items

/-! ### Items put in one after the other -/

/-- Of two texts, one is part of the other, or the end of one is the start of the other. -/
def Overlap (a b : List Char) : Prop :=
  a <:+: b ∨ b <:+: a ∨ (∃ s ∈ a.tails, s ≠ [] ∧ s <+: b) ∨ ∃ s ∈ b.tails, s ≠ [] ∧ s <+: a

instance (a b : List Char) : Decidable (Overlap a b) :=
  inferInstanceAs (Decidable (_ ∨ _))

section Items

variable {items : List (List Char × List Char)} {value rest : List Char}

/-- A value that overlaps no placeholder is not read again. -/
lemma fill_value (h : ∀ item ∈ items, ¬ Overlap value (placeholder item.1)) :
    fill items (value ++ rest) = value ++ fill items rest := by
  refine fill_append fun back hne hback => itemAt?_eq_none_iff.mpr fun item hitem hstart => ?_
  apply h item hitem
  obtain hinside | hacross :=
    List.prefix_or_prefix_of_prefix hstart (List.prefix_append back rest)
  · exact .inr (.inl (hinside.isInfix.trans hback.isInfix))
  · exact .inr (.inr (.inl ⟨back, (List.mem_tails ..).mpr hback, hne, hacross⟩))

/-- What a text starts with once a value has been put in, it starts with before, or the value
has a part in it. -/
lemma prefix_of_fill_singleton {item : List Char × List Char} {cs p : List Char}
    (h : p <+: fill [item] cs) :
    p <+: cs ∨ ∃ s, s ≠ [] ∧ s <:+ p ∧ (s <+: item.2 ∨ item.2 <+: s) := by
  by_cases hne : p = []
  · exact .inl (hne ▸ List.nil_prefix)
  fun_induction fill [item] cs generalizing p with
  | case1 => exact .inl h
  | case2 c rest value next hsome ih =>
      obtain ⟨name, hmem, -⟩ := itemAt?_eq_some hsome
      obtain rfl : item = (name, value) := (List.mem_singleton.mp hmem).symm
      exact .inr ⟨p, hne, List.suffix_rfl,
        List.prefix_or_prefix_of_prefix h (List.prefix_append ..)⟩
  | case3 c rest _ ih =>
      obtain ⟨d, q, rfl⟩ := List.exists_cons_of_ne_nil hne
      obtain ⟨rfl, hq⟩ := List.cons_prefix_cons.mp h
      by_cases hlast : q = []
      · exact .inl (hlast ▸ by simp)
      obtain hbefore | ⟨s, hs, hsuffix, hvalue⟩ := ih hq hlast
      · exact .inl (List.cons_prefix_cons.mpr ⟨rfl, hbefore⟩)
      · exact .inr ⟨s, hs, hsuffix.trans (List.suffix_cons d q), hvalue⟩

/-- A value that does not overlap a placeholder does not make one. -/
lemma not_placeholder_prefix_fill {item : List Char × List Char} {cs p : List Char}
    (hvalue : ¬ Overlap item.2 p) (h : ¬ p <+: cs) : ¬ p <+: fill [item] cs := by
  intro hstart
  obtain hbefore | ⟨s, hs, hsuffix, hpart | hwhole⟩ := prefix_of_fill_singleton hstart
  · exact h hbefore
  · exact hvalue (.inr (.inr (.inr ⟨s, (List.mem_tails ..).mpr hsuffix, hs, hpart⟩)))
  · exact hvalue (.inl (hwhole.isInfix.trans hsuffix.isInfix))

/-- An item may be put in before the others unless it overlaps a placeholder of theirs. -/
lemma fill_cons {item : List Char × List Char} (hnames : ∀ i ∈ item :: items, BraceFree i.1)
    (h : ∀ other ∈ items, ¬ Overlap item.2 (placeholder other.1)) (cs : List Char) :
    fill (item :: items) cs = fill items (fill [item] cs) := by
  obtain ⟨first, inserted⟩ := item
  have hothers : ∀ i ∈ items, BraceFree i.1 := fun i hi => hnames i (by simp [hi])
  have hitem : ∀ i ∈ [(first, inserted)], BraceFree i.1 := fun i hi => hnames i (by simp_all)
  fun_induction fill ((first, inserted) :: items) cs with
  | case1 => simp [fill]
  | case2 c rest value next hsome ih =>
      obtain ⟨name, hmem, hcs⟩ := itemAt?_eq_some hsome
      have hname : BraceFree name := hnames _ hmem
      have hlookup : ((first, inserted) :: items).lookup name = some value := by
        rw [hcs, itemAt?_placeholder hnames hname] at hsome
        simpa using hsome
      rw [ih, hcs, fill_placeholder hitem hname]
      -- Either the first item goes in here, or its pass leaves the placeholder for the others.
      by_cases heq : name = first
      · obtain rfl : inserted = value := by simpa [List.lookup_cons, heq] using hlookup
        simp [heq, fill_value h]
      · have hrest : items.lookup name = some value := by
          simpa [List.lookup_cons, beq_false_of_ne heq] using hlookup
        simp [List.lookup_cons, beq_false_of_ne heq, fill_placeholder hothers hname, hrest]
  | case3 c rest hnone ih =>
      have hstart := itemAt?_eq_none_iff.mp hnone
      have hfirst : itemAt? [(first, inserted)] (c :: rest) = none :=
        itemAt?_eq_none_iff.mpr fun i hi => hstart i (by simp_all)
      have hfilled : itemAt? items (c :: fill [(first, inserted)] rest) = none := by
        rw [← fill_of_none hfirst]
        exact itemAt?_eq_none_iff.mpr fun i hi =>
          not_placeholder_prefix_fill (h i hi) (hstart i (by simp [hi]))
      rw [fill_of_none hfirst, fill_of_none hfilled, ih]

/-- Items whose names have no braces, innermost first: none overlaps the placeholder of one
further out. -/
structure Apart (items : List (List Char × List Char)) : Prop where
  names : ∀ item ∈ items, BraceFree item.1
  values : items.Pairwise fun inner outer => ¬ Overlap inner.2 (placeholder outer.1)

/-- Items that are apart are put in at once by putting them in one after the other. -/
lemma bindItems_eq_fill (h : Apart items) (cs : List Char) :
    bindItems items cs = fill items cs := by
  induction items generalizing cs with
  | nil => exact (fill_nil cs).symm
  | cons item items ih =>
      obtain ⟨hitem, hitems⟩ := List.pairwise_cons.mp h.values
      have hrest : Apart items := ⟨fun i hi => h.names i (by simp [hi]), hitems⟩
      calc bindItems (item :: items) cs
          = bindItems items (fill [item] cs) := by rw [fill_singleton]; rfl
        _ = fill items (fill [item] cs) := ih hrest _
        _ = fill (item :: items) cs := (fill_cons h.names hitem cs).symm

end Items

/-! ### Evaluating a template -/

mutual

/-- The text of a block with one pass over each text in it, where `items` are the current items
of the loops around it, innermost first. -/
def Block.expand (env : Environment) (items : List (List Char × List Char)) : Block → List Char
  | .text cs => fill items cs
  | .choice v thenBody elseBody =>
    if isSet env v then Template.expand env items thenBody
    else Template.expand env items elseBody
  | .loop item list body =>
    (listItems (env.lookup (String.ofList list))).flatMap fun value =>
      Template.expand env ((item, value) :: items) body

/-- The text of the blocks of a template with one pass over each text in it. -/
def Template.expand (env : Environment) (items : List (List Char × List Char)) :
    List Block → List Char
  | [] => []
  | block :: rest => Block.expand env items block ++ Template.expand env items rest

end

mutual

/-- In what is taken of a block, no item of a loop overlaps the placeholder of a loop around
it. `around` are the names of the loops around the block. -/
def Block.Plain (env : Environment) (around : List (List Char)) : Block → Prop
  | .text _ => True
  | .choice v thenBody elseBody =>
    if isSet env v then Template.Plain env around thenBody
    else Template.Plain env around elseBody
  | .loop item list body =>
    (∀ value ∈ listItems (env.lookup (String.ofList list)), ∀ name ∈ around,
      ¬ Overlap value (placeholder name)) ∧ Template.Plain env (item :: around) body

/-- In what is taken of a template, no item of a loop overlaps the placeholder of a loop around
it. -/
def Template.Plain (env : Environment) (around : List (List Char)) : List Block → Prop
  | [] => True
  | block :: rest => Block.Plain env around block ∧ Template.Plain env around rest

end

mutual

/-- The names that the loops of a block bind have no braces. -/
def Block.Named : Block → Prop
  | .text _ => True
  | .choice _ thenBody elseBody => Template.Named thenBody ∧ Template.Named elseBody
  | .loop item _ body => BraceFree item ∧ Template.Named body

/-- The names that the loops of a template bind have no braces. -/
def Template.Named : List Block → Prop
  | [] => True
  | block :: rest => Block.Named block ∧ Template.Named rest

end

lemma Template.named_append (front back : Template) :
    Template.Named (front ++ back) ↔ Template.Named front ∧ Template.Named back := by
  induction front with
  | nil => simp [Template.Named]
  | cons block rest ih => simp [Template.Named, ih, and_assoc]

/-- A loop of a text that has been cut binds a name without braces. -/
lemma Cut.item_braceFree {cs : List Char} {segs : List Segment} (h : Cut cs segs)
    {item list : List Char} (hmem : .directive (.forEach item list) ∈ segs) : BraceFree item := by
  induction h with
  | nil => simp at hmem
  | text _ _ _ _ ih => exact ih (by simpa using hmem)
  | directive hw _ ih =>
      obtain heq | hmem := List.mem_cons.mp hmem
      · obtain rfl := Segment.directive.inj heq
        cases hw with
        | forEach _ hitem _ _ _ _ =>
            have hchar (c : Char) (hc : c ∈ item) : c ≠ '{' ∧ c ≠ '}' :=
              (identRest_bounds (isIdentRest_of_item (hitem.2 c hc))).2
            exact ⟨fun hc => (hchar _ hc).1 rfl, fun hc => (hchar _ hc).2 rfl⟩
      · exact ih hmem

/-- The loops of a template bind the names that its segments do. -/
lemma Template.Builds.named {n : Nat} {segs : List Segment} {t : Template}
    (h : Template.Builds n segs t)
    (hsegs : ∀ item list, .directive (.forEach item list) ∈ segs → BraceFree item) :
    Template.Named t := by
  induction h with
  | nil => trivial
  | text _ ih =>
      have hbefore := ih fun item list h => hsegs item list (by simp [h])
      simpa [Template.named_append, Template.Named, Block.Named] using hbefore
  | choice _ _ ih ihBody =>
      have hbefore := ih fun item list h => hsegs item list (by simp [h])
      have hbody := ihBody fun item list h => hsegs item list (by simp [h])
      simpa [Template.named_append, Template.Named, Block.Named] using ⟨hbefore, hbody⟩
  | alternative _ _ _ ih ihBody ihOther =>
      have hbefore := ih fun item list h => hsegs item list (by simp [h])
      have hbody := ihBody fun item list h => hsegs item list (by simp [h])
      have hother := ihOther fun item list h => hsegs item list (by simp [h])
      simpa [Template.named_append, Template.Named, Block.Named] using ⟨hbefore, hbody, hother⟩
  | @loop _ _ _ _ _ item list _ _ ih ihBody =>
      have hbefore := ih fun item list h => hsegs item list (by simp [h])
      have hbody := ihBody fun item list h => hsegs item list (by simp [h])
      have hitem : BraceFree item := hsegs item list (by simp)
      simpa [Template.named_append, Template.Named, Block.Named] using ⟨hbefore, hitem, hbody⟩

/-- The item of one more loop is apart from the others if it overlaps none of their
placeholders. -/
lemma Apart.cons {items : List (List Char × List Char)} (h : Apart items)
    {name value : List Char} (hname : BraceFree name)
    (hvalue : ∀ outer ∈ items.map Prod.fst, ¬ Overlap value (placeholder outer)) :
    Apart ((name, value) :: items) where
  names := by
    intro item hitem
    obtain rfl | hitem := List.mem_cons.mp hitem
    · exact hname
    · exact h.names item hitem
  values := List.pairwise_cons.mpr
    ⟨fun outer houter => hvalue outer.1 (List.mem_map_of_mem houter), h.values⟩

mutual

/-- Where items are apart, a block is rendered with one pass over each text. -/
lemma Block.render_eq_expand {env : Environment} {items : List (List Char × List Char)}
    (hitems : Apart items) (b : Block) (hnamed : b.Named)
    (hplain : b.Plain env (items.map Prod.fst)) : b.render env items = b.expand env items := by
  match b with
  | .text cs => exact bindItems_eq_fill hitems cs
  | .choice v thenBody elseBody =>
      rw [Block.Plain] at hplain
      rw [Block.render, Block.expand]
      split_ifs at hplain ⊢
      · exact Template.render_eq_expand hitems thenBody hnamed.1 hplain
      · exact Template.render_eq_expand hitems elseBody hnamed.2 hplain
  | .loop item list body =>
      rw [Block.render, Block.expand]
      refine List.flatMap_congr fun value hvalue => ?_
      exact Template.render_eq_expand (hitems.cons hnamed.1 (hplain.1 value hvalue)) body hnamed.2
        hplain.2

/-- Where items are apart, a template is rendered with one pass over each text. -/
lemma Template.render_eq_expand {env : Environment} {items : List (List Char × List Char)}
    (hitems : Apart items) (t : List Block) (hnamed : Template.Named t)
    (hplain : Template.Plain env (items.map Prod.fst) t) :
    Template.render env items t = Template.expand env items t := by
  match t with
  | [] => rfl
  | block :: rest =>
      rw [Template.render, Template.expand, Block.render_eq_expand hitems block hnamed.1 hplain.1,
        Template.render_eq_expand hitems rest hnamed.2 hplain.2]

end

/-- **Loop items are put in as they are.** A template keeps the branches that their variables
choose and repeats the body of each loop for the items of its list. In each text the
placeholders of the loops around it are replaced in one pass, and what is put in is not read
again. This holds wherever no item of a loop overlaps the placeholder of a loop around it. -/
theorem renderTemplate_eq_expand {env : Environment} {text : String} {segs : List Segment}
    {t : Template} (hcut : Cut text.toList segs) (hbuilds : Template.Builds 20 segs t)
    (hplain : Template.Plain env [] t) :
    renderTemplate env text = .ok (String.ofList (Template.expand env [] t)) := by
  have hnamed : Template.Named t := hbuilds.named fun item list hmem => hcut.item_braceFree hmem
  have hapart : Apart [] := ⟨by simp, .nil⟩
  have hnests : Template.ofSegments (segments text.toList) = .ok t :=
    Template.ofSegments_eq_ok_iff.mpr (cut_iff.mp hcut ▸ hbuilds)
  rw [renderTemplate, hnests, Except.map, Template.render_eq_expand hapart t hnamed hplain]

/-- Two loops, one inside the other. -/
def nestedLoops : String :=
  braced "for i in A" ++ braced "for j in B" ++ braced "i" ++ braced "j" ++ braced "endfor" ++
    braced "endfor"

/-- The template of `nestedLoops`. -/
def nestedTemplate : Template :=
  [.loop ['i'] ['A'] [.loop ['j'] ['B'] [.text (placeholder ['i'] ++ placeholder ['j'])]]]

/-- The variables that `nestedLoops` refers to. -/
def twoLists (a b : String) : Environment :=
  (Scope.ofPairs [("A", a), ("B", b)]).environment ⟨2024, 2, 29, by decide⟩

lemma nestedLoops_cut : Cut nestedLoops.toList (segments nestedLoops.toList) :=
  cut_iff.mpr rfl

lemma nestedLoops_builds : Template.Builds 20 (segments nestedLoops.toList) nestedTemplate :=
  Template.ofSegments_eq_ok_iff.mp rfl

/-- Items with braces that overlap no placeholder. -/
theorem renderTemplate_items_with_braces :
    Cut nestedLoops.toList (segments nestedLoops.toList) ∧
      Template.Builds 20 (segments nestedLoops.toList) nestedTemplate ∧
      Template.Plain (twoLists "x,y" "\x7b1\x7d, 2") [] nestedTemplate ∧
      renderTemplate (twoLists "x,y" "\x7b1\x7d, 2") nestedLoops =
        .ok "x\x7b1\x7dx2y\x7b1\x7dy2" := by
  have hplain : Template.Plain (twoLists "x,y" "\x7b1\x7d, 2") [] nestedTemplate := by
    have hitems : listItems ((twoLists "x,y" "\x7b1\x7d, 2").lookup (String.ofList ['B'])) =
        [['{', '1', '}'], ['2']] := by rfl
    simp [nestedTemplate, Template.Plain, Block.Plain, hitems]
    decide
  refine ⟨nestedLoops_cut, nestedLoops_builds, hplain, ?_⟩
  rw [renderTemplate_eq_expand nestedLoops_cut nestedLoops_builds hplain]
  decide +kernel

/-- **An item can be read again** for the placeholder of a loop further out. Here the item of
the inner loop is the placeholder of the outer one. It should stay, and does not. -/
theorem renderTemplate_item_read_again :
    Cut nestedLoops.toList (segments nestedLoops.toList) ∧
      Template.Builds 20 (segments nestedLoops.toList) nestedTemplate ∧
      renderTemplate (twoLists "x" (braced "i")) nestedLoops = .ok "xx" ∧
      String.ofList (Template.expand (twoLists "x" (braced "i")) [] nestedTemplate) =
        "x" ++ braced "i" := by
  refine ⟨nestedLoops_cut, nestedLoops_builds, ?_, ?_⟩
  · decide +kernel
  · decide +kernel

end Scaffold

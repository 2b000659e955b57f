import Mathlib
import Scaffold.Proofs.Directives
import Scaffold.Proofs.References

/-!
The variables that a template reads.

The variables of conditions and loops are looked for apart from directives, and only those with
a name in capitals count.

* `templateVariableAt?_eq_some_iff`: what is found at some place of a text is the variable of
  the directive that starts there;
* `not_startsDirective_within`: no directive starts within another. So both searches take the
  same way through a text, and what is found is what the directives of the text have
  (`Cut.mem_templateVariableNames_iff`);
* `renderTemplate_congr`: a text is rendered by the variables of its directives, and no others
  are read;
* `template_variables_cover_rendering`: hence, where these have names in capitals, two sources
  with the same values for what is found give the same text or the same fault.
-/

namespace Scaffold

open Text Variable

/-- The name of the variable that a directive asks for. -/
def Directive.asked? : Directive → Option (List Char)
  | .ifSet name => some name
  | .forEach _ list => some list
  | .elseMark | .endIf | .endFor => none

/-! ### Variables in capitals -/

section Finding

variable {cs rest name : List Char}

/-- A name in capitals: capital letters, digits and underscores, the first one no digit. -/
abbrev IsCapital (name : List Char) : Prop :=
  IsWord isCapitalStart isReferenceRest name

lemma isReferenceRest_of_capital {c : Char} (h : isCapitalStart c) : isReferenceRest c := by
  simp only [isCapitalStart, isReferenceRest, Bool.or_eq_true] at h ⊢
  exact h.imp_left .inl

lemma isIdentRest_of_reference {c : Char} (h : isReferenceRest c) : isIdentRest c := by
  simp only [isReferenceRest, isIdentRest, Bool.or_eq_true, Char.isAlphanum, Char.isAlpha] at h ⊢
  tauto

lemma isIdentStart_of_capital {c : Char} (h : isCapitalStart c) : isIdentStart c := by
  simp only [isCapitalStart, isIdentStart, Bool.or_eq_true, Char.isAlpha] at h ⊢
  exact h.imp_left .inl

/-- A name in capitals is an identifier. -/
lemma IsCapital.isIdent (h : IsCapital name) : IsWord isIdentStart isIdentRest name := by
  obtain ⟨⟨c, hc, hstart⟩, hrest⟩ := h
  exact ⟨⟨c, hc, isIdentStart_of_capital hstart⟩, fun d hd => isIdentRest_of_reference (hrest d hd)⟩

lemma not_reference_of_closing {tail : List Char} (h : IsBlankText tail) :
    ∀ c ∈ (tail ++ (['}', '}'] ++ rest)).head?, isReferenceRest c = false :=
  not_rest_of_gap (fun _ => isIdentRest_of_reference) h fun _ => head?_braces (by decide)

lemma loopHead?_eq_some_iff {item : List Char} :
    loopHead? cs = some (item, rest) ↔
      ∃ gap gapIn, (gap ≠ [] ∧ IsBlankText gap) ∧ IsWord isItemStart isItemRest item ∧
        (gapIn ≠ [] ∧ IsBlankText gapIn) ∧
        cs = "for".toList ++ (gap ++ (item ++ (gapIn ++ ("in".toList ++ rest)))) := by
  simp only [loopHead?, Option.bind_eq_bind, Option.bind_eq_some_iff, after?_eq_some_iff,
    skipBlanks?_eq_some_iff, Prod.exists, wordAt?_eq_some_iff (fun _ => isItemRest_of_start),
    Option.some.injEq, Prod.mk.injEq]
  constructor
  · rintro ⟨_, rfl, _, ⟨gap, hgap, rfl, -⟩, _, _, ⟨hitem, rfl, -⟩, _, ⟨gapIn, hgapIn, rfl, -⟩, _,
      rfl, rfl, rfl⟩
    exact ⟨gap, gapIn, hgap, hitem, hgapIn, rfl⟩
  · rintro ⟨gap, gapIn, hgap, hitem, hgapIn, rfl⟩
    have hend : ∀ c ∈ (gapIn ++ ("in".toList ++ rest)).head?, isItemRest c = false :=
      not_rest_of_gap (fun _ => isIdentRest_of_item) hgapIn.2 (absurd · hgapIn.1)
    have hin : ∀ c ∈ ("in".toList ++ rest).head?, isBlank c = false := by
      have hletter : isBlank 'i' = false := by decide
      simpa using hletter
    exact ⟨_, rfl, _, ⟨gap, hgap, rfl, not_blank_of_word hitem fun _ => isIdentRest_of_item⟩, item,
      _, ⟨hitem, rfl, hend⟩, _, ⟨gapIn, hgapIn, rfl, hin⟩, _, rfl, rfl, rfl⟩

/-- **What is found at the start of a text** is the variable of the directive that is written
there, if its name is in capitals. -/
lemma templateVariableAt?_eq_some_iff :
    templateVariableAt? cs = some (name, rest) ↔
      ∃ d : Directive, directiveAt? cs = some (d, rest) ∧ d.asked? = some name ∧
        IsCapital name := by
  constructor
  · intro h
    simp only [templateVariableAt?, Option.bind_eq_bind, Option.bind_eq_some_iff,
      Option.or_eq_some_iff, Option.map_eq_some_iff, after?_eq_some_iff, skipBlanks?_eq_some_iff,
      closeBraces?_eq_some_iff, Prod.exists, loopHead?_eq_some_iff, Option.some.injEq,
      Prod.mk.injEq, wordAt?_eq_some_iff (fun _ => isReferenceRest_of_capital)] at h
    obtain ⟨_, rfl, _, hhead, _, ⟨gapName, hgapName, rfl, -⟩, _, _, ⟨hname, rfl, -⟩, _,
      ⟨tail, htail, rfl⟩, rfl, rfl⟩ := h
    obtain rfl | ⟨-, item, _, ⟨gap, gapIn, hgap, hitem, hgapIn, rfl⟩, rfl⟩ := hhead
    · exact ⟨.ifSet _, directiveAt?_eq_some_iff.mpr
        ⟨_, .ifSet hgapName (IsCapital.isIdent hname) htail, by simp⟩, rfl, hname⟩
    · exact ⟨.forEach item _, directiveAt?_eq_some_iff.mpr
        ⟨_, .forEach hgap hitem hgapIn hgapName (IsCapital.isIdent hname) htail, by simp⟩, rfl,
        hname⟩
  · rintro ⟨d, hd, hasked, hname⟩
    obtain ⟨w, hw, rfl⟩ := directiveAt?_eq_some_iff.mp hd
    have hread {gap tail : List Char} (hgap : gap ≠ [] ∧ IsBlankText gap)
        (htail : IsBlankText tail) :
        skipBlanks? (gap ++ (name ++ (tail ++ (['}', '}'] ++ rest)))) =
            some (name ++ (tail ++ (['}', '}'] ++ rest))) ∧
          wordAt? isCapitalStart isReferenceRest (name ++ (tail ++ (['}', '}'] ++ rest))) =
            some (name, tail ++ (['}', '}'] ++ rest)) ∧
          closeBraces? (tail ++ (['}', '}'] ++ rest)) = some rest :=
      ⟨skipBlanks?_eq_some_iff.mpr
          ⟨gap, hgap, rfl, not_blank_of_word hname fun _ => isIdentRest_of_reference⟩,
        (wordAt?_eq_some_iff fun _ => isReferenceRest_of_capital).mpr
          ⟨hname, rfl, not_reference_of_closing htail⟩,
        closeBraces?_eq_some_iff.mpr ⟨tail, htail, rfl⟩⟩
    cases hw with
    | @ifSet gap name' tail hgap _ htail =>
        obtain rfl : name' = name := by simpa [Directive.asked?] using hasked
        obtain ⟨hskip, hword, hclose⟩ := hread hgap htail
        simp only [templateVariableAt?, List.append_assoc, after?_append, Option.bind_eq_bind,
          Option.bind_some, Option.some_or, hskip, hword, hclose]
    | @forEach gap item gapIn gapList list tail hgap hitem hgapIn hgapList _ htail =>
        obtain rfl : list = name := by simpa [Directive.asked?] using hasked
        obtain ⟨hskip, hword, hclose⟩ := hread hgapList htail
        have hhead (more : List Char) : loopHead? ("for".toList ++ (gap ++ (item ++ (gapIn ++
            ("in".toList ++ more))))) = some (item, more) :=
          loopHead?_eq_some_iff.mpr ⟨gap, gapIn, hgap, hitem, hgapIn, rfl⟩
        have hif (more : List Char) : after? "if".toList ("for".toList ++ more) = none := rfl
        simp only [templateVariableAt?, List.append_assoc, after?_append, Option.bind_eq_bind,
          Option.bind_some, hif, Option.none_or, hhead, Option.map_some, hskip, hword, hclose]
    | elseMark | endIf | endFor => simp [Directive.asked?] at hasked

end Finding

/-! ### The way through a text -/

section Searching

variable {cs rest name w : List Char} {d : Directive} {segs : List Segment}

/-- The braces that open a directive are the only ones in it. -/
lemma Directive.Written.opening (h : d.Written w) :
    ∃ body, w = '{' :: '{' :: body ∧ body ≠ [] ∧ '{' ∉ body := by
  have hblank {gap : List Char} (hgap : IsBlankText gap) : '{' ∉ gap := fun hmem =>
    absurd (hgap _ hmem) (by decide)
  have hident {isStart isRest : Char → Bool} {word : List Char} (hword : IsWord isStart isRest word)
      (hrest : isRest '{' = false) : '{' ∉ word := fun hmem => by
    simp [hword.2 _ hmem] at hrest
  cases h with
  | ifSet hgap hname htail =>
      refine ⟨_, rfl, by simp, ?_⟩
      simp [hblank hgap.2, hblank htail, hident hname (by decide)]
  | forEach hgap hitem hgapIn hgapList hlist htail =>
      refine ⟨_, rfl, by simp, ?_⟩
      simp [hblank hgap.2, hblank hgapIn.2, hblank hgapList.2, hblank htail,
        hident hitem (by decide), hident hlist (by decide)]
  | elseMark | endIf | endFor => exact ⟨_, rfl, by simp, by decide⟩

/-- **No directive starts within another.** -/
lemma not_startsDirective_within (h : d.Written w) {back : List Char} (hne : back ≠ [])
    (hback : back <:+ w) (hproper : back ≠ w) : ¬ StartsDirective (back ++ rest) := by
  rintro ⟨d', w', hw', hstart⟩
  obtain ⟨inner, rfl, -, -⟩ := hw'.opening
  obtain ⟨body, rfl, hbody, hno⟩ := h.opening
  obtain ⟨tail, htail⟩ := hstart
  obtain rfl | hback := List.suffix_cons_iff.mp
    ((List.suffix_cons_iff.mp hback).resolve_left hproper)
  · -- the second character is one of the name of the directive
    obtain ⟨c, body, rfl⟩ := List.exists_cons_of_ne_nil hbody
    obtain ⟨rfl, -⟩ : '{' = c ∧ _ := by simpa using htail
    simp at hno
  · -- so is the first one, or one that follows it
    obtain ⟨c, back, rfl⟩ := List.exists_cons_of_ne_nil hne
    obtain ⟨rfl, -⟩ : '{' = c ∧ _ := by simpa using htail
    exact hno (hback.subset (by simp))

/-- Text in which no variable is found is passed. -/
lemma templateVariableNames_append {piece : List Char}
    (h : ∀ back, back ≠ [] → back <:+ piece → templateVariableAt? (back ++ rest) = none)
    {fuel : ℕ} (hfuel : piece.length ≤ fuel) :
    templateVariableNames fuel (piece ++ rest) =
      templateVariableNames (fuel - piece.length) rest := by
  induction piece generalizing fuel with
  | nil => rfl
  | cons c piece ih =>
      obtain ⟨fuel, rfl⟩ : ∃ n, fuel = n + 1 := ⟨fuel - 1, by simp at hfuel; omega⟩
      have hnone : templateVariableAt? (c :: (piece ++ rest)) = none :=
        h (c :: piece) (by simp) List.suffix_rfl
      rw [List.cons_append, templateVariableNames, hnone]
      dsimp only
      rw [ih (fun back hback hsuffix => h back hback (hsuffix.trans (List.suffix_cons c piece)))
        (by simpa using hfuel), List.length_cons, Nat.add_sub_add_right]

lemma templateVariableAt?_eq_none (h : ¬ StartsDirective cs) : templateVariableAt? cs = none := by
  by_contra hne
  obtain ⟨⟨name, rest⟩, hsome⟩ := Option.ne_none_iff_exists'.mp hne
  obtain ⟨d, hd, -⟩ := templateVariableAt?_eq_some_iff.mp hsome
  rw [directiveAt?_eq_none_iff.mpr h] at hd
  simp at hd

/-- A directive asks for an identifier. -/
lemma Cut.isWord_of_asked (h : Cut cs segs) (hd : d ∈ directives segs)
    (hname : name ∈ d.asked?) : IsWord isIdentStart isIdentRest name := by
  induction h with
  | nil => simp at hd
  | directive hw _ ih =>
      rw [directives_directive, List.mem_cons] at hd
      obtain rfl | hd := hd
      · cases hw with
        | ifSet _ hident _ | forEach _ _ _ _ hident _ =>
            obtain rfl : _ = name := by simpa [Directive.asked?] using hname
            exact hident
        | elseMark | endIf | endFor => simp [Directive.asked?] at hname
      · exact ih hd
  | text _ _ _ _ ih => exact ih (by simpa using hd)

/-- **What is found in a text** are the variables of its directives whose names are in
capitals. -/
lemma Cut.mem_templateVariableNames_iff (h : Cut cs segs) {fuel : ℕ} (hfuel : cs.length ≤ fuel) :
    name ∈ templateVariableNames fuel cs ↔
      (∃ d ∈ directives segs, d.asked? = some name) ∧ IsCapital name := by
  induction h generalizing fuel with
  | nil => cases fuel <;> simp [templateVariableNames]
  | @directive d w rest segs hw _ ih =>
      have hat : directiveAt? (w ++ rest) = some (d, rest) :=
        directiveAt?_eq_some_iff.mpr ⟨w, hw, rfl⟩
      have hlength : w.length + rest.length ≤ fuel := by simpa using hfuel
      rw [directives_directive, List.exists_mem_cons_iff, or_and_right]
      cases hfound : templateVariableAt? (w ++ rest) with
      | none =>
          have hnot : ¬ (d.asked? = some name ∧ IsCapital name) := by
            rintro ⟨hasked, hname⟩
            have hsome := templateVariableAt?_eq_some_iff.mpr ⟨d, hat, hasked, hname⟩
            rw [hfound] at hsome
            simp at hsome
          rw [templateVariableNames_append (fun back hne hback => ?_) (by omega),
            ih (by omega), or_iff_right hnot]
          by_cases hwhole : back = w
          · rw [hwhole, hfound]
          · exact templateVariableAt?_eq_none (not_startsDirective_within hw hne hback hwhole)
      | some found =>
          obtain ⟨name', rest'⟩ := found
          obtain ⟨d', hat', hasked, hname⟩ := templateVariableAt?_eq_some_iff.mp hfound
          obtain ⟨rfl, rfl⟩ : d = d' ∧ rest = rest' := by simpa [hat] using hat'
          obtain ⟨c, tail, rfl⟩ := List.exists_cons_of_ne_nil hw.ne_nil
          obtain ⟨fuel, rfl⟩ : ∃ n, fuel = n + 1 := ⟨fuel - 1, by simp at hlength; omega⟩
          have hstep : templateVariableNames (fuel + 1) (c :: tail ++ rest) =
              name' :: templateVariableNames fuel rest := by
            rw [List.cons_append] at hfound ⊢
            rw [templateVariableNames, hfound]
          rw [hstep, List.mem_cons, ih (by simp at hlength; omega), hasked,
            Option.some.injEq]
          refine or_congr_left ?_
          constructor
          · rintro rfl
            exact ⟨rfl, hname⟩
          · exact fun h => h.1.symm
  | @text piece rest segs hne hpiece _ _ ih =>
      have hlength : piece.length + rest.length ≤ fuel := by simpa using hfuel
      rw [templateVariableNames_append
        (fun back hne hback => templateVariableAt?_eq_none (hpiece back hne hback)) (by omega),
        ih (by omega), directives_text]

end Searching

/-! ### Rendering -/

lemma Template.render_append {env : Environment} {items : List (List Char × List Char)}
    (front back : Template) :
    Template.render env items (front ++ back) =
      Template.render env items front ++ Template.render env items back := by
  induction front with
  | nil => rfl
  | cons block rest ih => rw [List.cons_append, render, render, ih, List.append_assoc]

/-- Two sources give a directive the same value. -/
def Directive.Agrees (env env' : Environment) (d : Directive) : Prop :=
  ∀ name ∈ d.asked?, env.lookup (String.ofList name) = env'.lookup (String.ofList name)

/-- **A template is rendered by the variables of its directives.** -/
lemma Template.Builds.render_congr {env env' : Environment} {n : ℕ} {segs : List Segment}
    {t : Template} (h : Template.Builds n segs t)
    (hagree : ∀ d ∈ directives segs, d.Agrees env env') (items : List (List Char × List Char)) :
    Template.render env items t = Template.render env' items t := by
  induction h generalizing items with
  | nil => rfl
  | text _ ih =>
      rw [Template.render_append, Template.render_append, ih (by simpa using hagree)]
      rfl
  | @choice _ _ _ _ _ name _ _ ih ihBody =>
      simp only [directives_append, directives_directive, List.forall_mem_append,
        List.forall_mem_cons] at hagree
      obtain ⟨hbefore, hname, hbody, -⟩ := hagree
      have hset : isSet env name = isSet env' name := by rw [isSet, isSet, hname name rfl]
      rw [Template.render_append, Template.render_append, ih hbefore]
      simp only [Template.render, Block.render, hset, ihBody hbody]
  | @alternative _ _ _ _ _ _ _ name _ _ _ ih ihBody ihOther =>
      simp only [directives_append, directives_directive, List.forall_mem_append,
        List.forall_mem_cons] at hagree
      obtain ⟨hbefore, hname, hbody, -, hother, -⟩ := hagree
      have hset : isSet env name = isSet env' name := by rw [isSet, isSet, hname name rfl]
      rw [Template.render_append, Template.render_append, ih hbefore]
      simp only [Template.render, Block.render, hset, ihBody hbody, ihOther hother]
  | @loop _ _ _ _ _ item list _ _ ih ihBody =>
      simp only [directives_append, directives_directive, List.forall_mem_append,
        List.forall_mem_cons] at hagree
      obtain ⟨hbefore, hlist, hbody, -⟩ := hagree
      rw [Template.render_append, Template.render_append, ih hbefore]
      simp only [Template.render, Block.render, hlist list rfl, ihBody hbody]

/-- A text is rendered by the variables of its directives. -/
lemma renderTemplate_congr {text : String} {env env' : Environment}
    (hagree : ∀ d ∈ directives (segments text.toList), d.Agrees env env') :
    renderTemplate env text = renderTemplate env' text := by
  rw [renderTemplate, renderTemplate]
  cases hnest : Template.ofSegments (segments text.toList) with
  | error e => rfl
  | ok t =>
      have hbuilds := Template.ofSegments_eq_ok_iff.mp hnest
      exact congrArg (fun cs => Except.ok (String.ofList cs)) (hbuilds.render_congr hagree [])

/-- **What is found in a text covers its rendering**, where all conditions and loops have names
in capitals. What is found are the variables of its conditions and loops, and two sources with
the same values for these give the same text, or the same fault. -/
theorem template_variables_cover_rendering {text : String} {segs : List Segment}
    (hcut : Cut text.toList segs)
    (hcapital : ∀ d ∈ directives segs, ∀ name ∈ d.asked?,
      IsWord isCapitalStart isReferenceRest name) :
    (∀ name, name ∈ templateVariables text ↔
      ∃ d ∈ directives segs, d.asked? = some name.toList) ∧
    ∀ env env' : Environment,
      (∀ name ∈ templateVariables text, env.lookup name = env'.lookup name) →
      renderTemplate env text = renderTemplate env' text := by
  have hfound : ∀ name, name ∈ templateVariables text ↔
      ∃ d ∈ directives segs, d.asked? = some name.toList := by
    intro name
    rw [templateVariables, mem_distinctSorted_iff, List.mem_map]
    simp only [hcut.mem_templateVariableNames_iff le_rfl]
    constructor
    · rintro ⟨cs, ⟨hasked, -⟩, rfl⟩
      simpa using hasked
    · rintro ⟨d, hd, hasked⟩
      exact ⟨name.toList, ⟨⟨d, hd, hasked⟩, hcapital d hd _ hasked⟩, String.ofList_toList⟩
  refine ⟨hfound, fun env env' hagree => renderTemplate_congr fun d hd name hname => ?_⟩
  rw [← cut_iff.mp hcut] at hd
  exact hagree _ ((hfound _).mpr ⟨d, hd, by simpa using hname⟩)

/-- A condition with a loop in it, where other variables differ. -/
theorem template_variables_cover_rendering_of_loop :
    let text := braced "if A_1" ++ braced "for i in _B" ++ braced "i" ++ braced "endfor" ++
      braced "else" ++ "%C%" ++ braced "endif"
    let segs := segments text.toList
    Cut text.toList segs ∧
      (∀ d ∈ directives segs, ∀ name ∈ d.asked?,
        IsWord isCapitalStart isReferenceRest name) ∧
      templateVariables text = ["A_1", "_B"] ∧
      renderTemplate (withValues [("A_1", "yes"), ("_B", "x,y"), ("C", "1")]) text =
        renderTemplate (withValues [("A_1", "yes"), ("_B", "x,y"), ("I", "2")]) text := by
  intro text segs
  have hcut : Cut text.toList segs := cut_iff.mpr rfl
  have hcapital : ∀ d ∈ directives segs, ∀ name ∈ d.asked?,
      IsWord isCapitalStart isReferenceRest name := by
    have hdirectives : directives segs =
        [.ifSet "A_1".toList, .forEach ['i'] "_B".toList, .endFor, .elseMark, .endIf] := by
      decide +kernel
    rw [hdirectives]
    decide
  have hnames : templateVariables text = ["A_1", "_B"] := by decide +kernel
  refine ⟨hcut, hcapital, hnames, (template_variables_cover_rendering hcut hcapital).2 _ _ ?_⟩
  rw [hnames]
  decide +kernel

end Scaffold

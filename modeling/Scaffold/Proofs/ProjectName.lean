import Mathlib.Tactic
import Scaffold.Project
import Scaffold.Proofs.Plan
import Scaffold.Proofs.Precedence
import Scaffold.Proofs.References

/-!
The name of a project that is given none.

The name is that of the root folder, replaced where no project has a name yet. The walk replaces
it once more, where the project has this name.

* `Piece.NamesProject`: a token for the name of the project, in any spelling. The first
  replacement leaves these tokens alone, and the second one puts the name in their places
  (`NamedAfter.replace_own`, `NamedAfter.replace_named`). All else is replaced alike;
* `NamedAfter.substitute_eq_iff`: so both replacements agree exactly where no such token is in the
  folder's name, or one of them makes up all of it;
* `derived_name_is_root_name`: the same for a run, which makes a folder of the second name and
  has a project of the first one. `derived_name_is_not_root_name` is a run in which they differ.
-/

namespace Scaffold

open Calendar Text Variable

/-- A token for the name of the project. -/
def Piece.NamesProject : Piece → Prop
  | .plain _ => False
  | .token t => bareName (String.ofList t.name) = "PROJECT_NAME"

instance (p : Piece) : Decidable p.NamesProject :=
  match p with
  | .plain _ => inferInstanceAs (Decidable False)
  | .token _ => inferInstanceAs (Decidable (_ = _))

/-- A name without fault has no character with a meaning of its own. -/
lemma Name.not_isIllegal_of_check {name : String} (h : Name.check name = .ok name) {c : Char}
    (hc : c ∈ name.toList) : Name.isIllegal c = false := by
  have hfault := (Name.check_eq_ok_iff.mp h).1
  cases hfind : name.toList.find? Name.isIllegal with
  | none => simpa using List.find?_eq_none.mp hfind c hc
  | some d =>
      simp only [Name.fault?, hfind] at hfault
      split_ifs at hfault

/-- What is put around a text is nothing if that gives the text back. -/
lemma append_append_eq_iff {front cs back : List Char} :
    front ++ (cs ++ back) = cs ↔ front = [] ∧ back = [] := by
  refine ⟨fun h => ?_, by rintro ⟨rfl, rfl⟩; simp⟩
  have hlength := congrArg List.length h
  simp only [List.length_append] at hlength
  exact ⟨List.length_eq_zero_iff.mp (by omega), List.length_eq_zero_iff.mp (by omega)⟩

/-! ### Two replacements -/

lemma toList_substitute (env : Environment) (text : String) :
    (substitute env text).toList = (pieces text.toList).flatMap (Piece.replace env id) := by
  rw [substitute, substituteWith, String.toList_ofList, substituteChars]

/-- A scope in which no project has a name, and one in which it has the name that a text is
replaced by in the first. All other variables have the same values. -/
structure NamedAfter (own named : Environment) (text : String) : Prop where
  today : own.today = named.today
  same : ∀ name, bareName name ≠ "PROJECT_NAME" → own.lookup name = named.lookup name
  unnamed : ∀ name, bareName name = "PROJECT_NAME" → own.lookup name = none
  name : ∀ name, bareName name = "PROJECT_NAME" → named.lookup name = some (substitute own text)
  check : Name.check (substitute own text) = .ok (substitute own text)

namespace NamedAfter

variable {own named : Environment} {text : String} {p : Piece}

lemma replace_eq (h : NamedAfter own named text) (hp : ¬ p.NamesProject) :
    p.replace own id = p.replace named id := by
  cases p with
  | plain c => rfl
  | token t =>
      simp only [Piece.replace, Environment.valueOf?, h.today, h.same _ hp]

/-- The first replacement leaves the token alone. -/
lemma replace_own (h : NamedAfter own named text) (hp : p.NamesProject) :
    p.replace own id = p.text := by
  cases p with
  | plain c => exact hp.elim
  | token t => simp only [Piece.replace, Environment.valueOf?, h.unnamed _ hp]; rfl

/-- The second one puts the name in its place, without transforms: the colon in front of them
would be a part of the name. -/
lemma replace_named (h : NamedAfter own named text) (hmem : p ∈ pieces text.toList)
    (hp : p.NamesProject) : p.replace named id = (substitute own text).toList := by
  cases p with
  | plain c => exact hp.elim
  | token t =>
      obtain ⟨name, chain⟩ := t
      cases chain with
      | none => simp [Piece.replace, Environment.valueOf?, h.name _ hp]
      | some chain =>
          have hcolon : ':' ∈ (substitute own text).toList := by
            rw [toList_substitute, List.mem_flatMap]
            refine ⟨_, hmem, ?_⟩
            rw [h.replace_own hp]
            simp [Piece.text, Token.text]
          exact absurd (Name.not_isIllegal_of_check h.check hcolon) (by decide)

/-- No name of a project is empty, and no token is. So both replacements give nothing for the
same pieces. -/
lemma replace_eq_nil_iff (h : NamedAfter own named text)
    (hmem : p ∈ pieces text.toList) : p.replace named id = [] ↔ p.replace own id = [] := by
  by_cases hp : p.NamesProject
  · have hname : (substitute own text).toList ≠ "".toList :=
      Path.toList_ne (Path.isName_of_check h.check).2.1
    have htext : p.text ≠ [] := by cases p <;> simp [Piece.text, Token.text]
    rw [h.replace_named hmem hp, h.replace_own hp]
    exact iff_of_false hname htext
  · rw [h.replace_eq hp]

/-- Both replacements agree where a token for the name of the project is all that is there. -/
lemma substitute_eq_iff_of_mem (h : NamedAfter own named text)
    (hmem : p ∈ pieces text.toList) (hp : p.NamesProject) :
    substitute named text = substitute own text ↔ (substitute own text).toList = p.text := by
  obtain ⟨front, back, hcut⟩ := List.append_of_mem hmem
  have hfront : front.flatMap (Piece.replace named id) = [] ↔
      front.flatMap (Piece.replace own id) = [] := by
    simp only [List.flatMap_eq_nil_iff]
    exact forall₂_congr fun q hq => h.replace_eq_nil_iff (by simp [hcut, hq])
  have hback : back.flatMap (Piece.replace named id) = [] ↔
      back.flatMap (Piece.replace own id) = [] := by
    simp only [List.flatMap_eq_nil_iff]
    exact forall₂_congr fun q hq => h.replace_eq_nil_iff (by simp [hcut, hq])
  have hown : (substitute own text).toList = front.flatMap (Piece.replace own id) ++
      (p.text ++ back.flatMap (Piece.replace own id)) := by
    rw [toList_substitute, hcut, List.flatMap_append, List.flatMap_cons, h.replace_own hp]
  have hnamed : (substitute named text).toList = front.flatMap (Piece.replace named id) ++
      ((substitute own text).toList ++ back.flatMap (Piece.replace named id)) := by
    rw [toList_substitute named, hcut, List.flatMap_append, List.flatMap_cons,
      h.replace_named hmem hp]
  calc substitute named text = substitute own text
      ↔ front.flatMap (Piece.replace named id) = [] ∧
          back.flatMap (Piece.replace named id) = [] := by
        rw [← String.toList_inj, hnamed, append_append_eq_iff]
    _ ↔ front.flatMap (Piece.replace own id) = [] ∧
          back.flatMap (Piece.replace own id) = [] := and_congr hfront hback
    _ ↔ (substitute own text).toList = p.text := by
        rw [hown, append_append_eq_iff]

/-- **Both replacements agree** exactly where each token for the name of the project is all
that the first one gives: where there is none, or one and nothing else. -/
lemma substitute_eq_iff (h : NamedAfter own named text) :
    substitute named text = substitute own text ↔
      ∀ p ∈ pieces text.toList, p.NamesProject → (substitute own text).toList = p.text := by
  refine ⟨fun heq p hmem hp => (h.substitute_eq_iff_of_mem hmem hp).mp heq, fun hall => ?_⟩
  by_cases hsome : ∃ p ∈ pieces text.toList, p.NamesProject
  · obtain ⟨p, hmem, hp⟩ := hsome
    exact (h.substitute_eq_iff_of_mem hmem hp).mpr (hall p hmem hp)
  · push Not at hsome
    apply String.toList_injective
    rw [toList_substitute, toList_substitute]
    exact List.flatMap_congr fun p hp => (h.replace_eq (hsome p hp)).symm

end NamedAfter

/-! ### The project of a run -/

section Root

variable {s : CreateSettings} {schema : Schema} {raw name : String} {children : List Node}
  {attributes : Dictionary String String} {scope : Scope}

/-- A run that creates a folder first enters it, if its name is accepted. -/
lemma create_eq_enterFolder_bind (output : String)
    (hroot : schema.root = .folder raw children attributes)
    (hname : Name.check (substitute (scope.environment s.today) raw) = .ok name) :
    ∃ rest, create s schema output scope =
      (Creation.enterFolder s name ⟨Path.join output name, name, false⟩).run {} >>= rest := by
  simp only [create, walk, Walk.walkList, Walk.walkNode, Walk.visitFolder, hroot, hname,
    Nat.not_lt_zero, if_false, StateT.run_bind, bind_assoc]
  exact ⟨_, rfl⟩

/-- So it first looks at the place of this name, and makes a folder there if nothing is. -/
lemma create_asks_for_root (output : String)
    (hroot : schema.root = .folder raw children attributes)
    (hname : Name.check (substitute (scope.environment s.today) raw) = .ok name) :
    ∃ next, create s schema output scope = .ask (.entry (Path.join output name)) next ∧
      (s.options.dryRun = false →
        ∃ more, next (.ok none) = .ask (.makeFolder (Path.join output name)) more) := by
  obtain ⟨rest, hrest⟩ := create_eq_enterFolder_bind output hroot hname
  refine ⟨_, hrest, fun hreal => ?_⟩
  simp only [hreal]
  exact ⟨_, rfl⟩

end Root

section Derived

variable {today : Date} {bindings : Bindings}

/-- The keys of the built-in variables are canonical. -/
lemma canonicalKey_builtins {project : Option String} {e : String × String}
    (he : e ∈ builtins today project) : canonicalKey e.1 = e.1 := by
  have hkeys : ∀ key ∈ ["%DATE%", "%YEAR%", "%MONTH%", "%DAY%", "%PROJECT_NAME%"],
      canonicalKey key = key := by decide +kernel
  refine hkeys e.1 ?_
  simp only [builtins, List.mem_append, List.mem_cons, List.not_mem_nil, or_false,
    Option.mem_toList, Option.map_eq_some_iff] at he
  rcases he with (rfl | rfl | rfl | rfl) | ⟨_, -, rfl⟩ <;> simp

/-- What a text of a project with a name, or without one, is replaced in. -/
def environmentOf (today : Date) (bindings : Bindings) (project : Option String) : Environment :=
  (Scope.withBuiltins today project bindings.entries).environment today

lemma environmentOf_today (project : Option String) :
    (environmentOf today bindings project).today = today := rfl

/-- The name of the project is that which is built in, unless another one is given. -/
lemma environmentOf_project (hgiven : ∀ e ∈ bindings.entries, bareName e.1 ≠ "PROJECT_NAME")
    (project : Option String) {name : String} (hname : bareName name = "PROJECT_NAME") :
    (environmentOf today bindings project).lookup name = project := by
  have hkey : canonicalKey name = "%PROJECT_NAME%" := by rw [canonicalKey, hname]; rfl
  have hnone : lastSpelled name bindings.entries = none := by
    rw [lastSpelled, Option.map_eq_none_iff, List.find?_eq_none]
    intro e he
    simpa [canonicalKey_inj, hname] using hgiven e (List.mem_reverse.mp he)
  have hbuiltin : lastSpelled name (builtins today project) = project := by
    have hplain : (builtins today project).reverse.find? (fun e => canonicalKey e.1 =
        canonicalKey name) = (builtins today project).reverse.find? fun e => e.1 =
        "%PROJECT_NAME%" :=
      List.find?_congr fun e he => by
        rw [canonicalKey_builtins (List.mem_reverse.mp he), hkey]
    rw [lastSpelled, hplain]
    cases project <;> simp [builtins]
  simp only [environmentOf, Scope.environment, Scope.get?_withBuiltins, hnone, Option.none_or,
    hbuiltin]

/-- No other variable depends on it. -/
lemma environmentOf_of_ne (project : Option String) {name : String}
    (hname : bareName name ≠ "PROJECT_NAME") :
    (environmentOf today bindings none).lookup name =
      (environmentOf today bindings project).lookup name := by
  have hkey : canonicalKey "%PROJECT_NAME%" ≠ canonicalKey name := fun h =>
    hname ((canonicalKey_inj.mp h).symm.trans (by decide +kernel))
  have hlast : lastSpelled name
      (project.map fun value => ("%PROJECT_NAME%", value)).toList = none := by
    cases project <;> simp [lastSpelled, hkey]
  simp only [environmentOf, Scope.environment, Scope.get?_withBuiltins, builtins,
    lastSpelled_append, hlast]
  rfl

/-- The name of the root folder names the project where the folder may have it. -/
lemma namedAfter_root (hgiven : ∀ e ∈ bindings.entries, bareName e.1 ≠ "PROJECT_NAME")
    {raw project : String} (hproject : substitute (environmentOf today bindings none) raw = project)
    (hcheck : Name.check project = .ok project) :
    NamedAfter (environmentOf today bindings none) (environmentOf today bindings project) raw where
  today := by rw [environmentOf_today, environmentOf_today]
  same _ hname := environmentOf_of_ne _ hname
  unnamed _ hname := environmentOf_project hgiven none hname
  name _ hname := by rw [hproject]; exact environmentOf_project hgiven _ hname
  check := by rw [hproject]; exact hcheck

end Derived

namespace Project

/-- **The project has the name of the root folder**, if it is given none. Where the root is a
folder whose name the walk accepts, the project has the name that replacing variables gives as
long as no project has one. A run looks for the folder under the name that the walk replaces
once more, and makes it there if nothing is. Both names are one, whatever variables and
transforms are in the folder's name, unless a token for the name of the project is in it and
something else is put out in front of the token or behind it. -/
theorem derived_name_is_root_name (s : Settings) {schema : Schema} {raw name : String}
    {children : List Node} {attributes : Dictionary String String}
    (hroot : schema.root = .folder raw children attributes) (bindings : Bindings)
    (hgiven : ∀ e ∈ bindings.entries, bareName e.1 ≠ "PROJECT_NAME")
    (hname : Name.check (substitute ((scope s.today schema bindings none).environment s.today)
      raw) = .ok name) :
    ∃ project, (scope s.today schema bindings none).get? "PROJECT_NAME" = some project ∧
      (name = project ↔
        ∀ p ∈ pieces raw.toList, p.NamesProject → project.toList = p.text) ∧
      ∀ output options, output ≠ "" →
        ∃ next, create s schema output bindings none options =
            .ask (.entry (Path.join output name)) next ∧
          (options.dryRun = false →
            ∃ more, next (.ok none) = .ask (.makeFolder (Path.join output name)) more) := by
  have hscope (project : Option String) (h : derivedName? s.today schema bindings = project) :
      scope s.today schema bindings none = Scope.withBuiltins s.today project bindings.entries := by
    rw [scope, h, Option.none_or]
  set project := substitute (environmentOf s.today bindings none) raw with hproject
  have hderived : derivedName? s.today schema bindings = (Name.check project).toOption := by
    simp only [derivedName?, hroot]
    rfl
  -- the walk would refuse the name if the project had none
  have hcheck : Name.check project = .ok project := by
    cases hfound : Name.check project with
    | ok found => rw [(Name.check_eq_ok_iff.mp hfound).2]
    | error fault =>
        rw [hscope none (by rw [hderived, hfound]; rfl)] at hname
        exact absurd (hfound.symm.trans hname) (by simp)
  rw [hcheck] at hderived
  have hrun := hscope _ hderived
  refine ⟨project, ?_, ?_, fun output options houtput => ?_⟩
  · rw [hrun]
    exact environmentOf_project hgiven (some project) (by decide +kernel)
  · rw [hrun] at hname
    rw [(Name.check_eq_ok_iff.mp hname).2]
    exact (namedAfter_root hgiven hproject.symm hcheck).substitute_eq_iff
  · obtain ⟨next, hfirst, hmake⟩ := create_asks_for_root
      (s := ⟨s.toWalkSettings, s.equipment, options⟩) output hroot hname
    refine ⟨fun reply => .ok <$> next reply, ?_, fun hreal => ?_⟩
    · rw [create, if_neg houtput, hfirst]
      rfl
    · obtain ⟨more, hmore⟩ := hmake hreal
      exact ⟨fun reply => .ok <$> more reply, congrArg (Except.ok <$> ·) hmore⟩

/-- A folder named after a variable, in another spelling. -/
theorem derived_name_is_root_name_of_variable :
    let bindings : Bindings := Dictionary.ofList [("Name", "My Demo")]
    let schema : Schema := { root := .folder "%NAME:kebab%-app" [] ∅ }
    let s : Settings := { limits := {}, today := ⟨2024, 1, 1, by decide⟩ }
    (∀ e ∈ bindings.entries, bareName e.1 ≠ "PROJECT_NAME") ∧
      (∀ p ∈ pieces "%NAME:kebab%-app".toList, ¬ p.NamesProject) ∧
      (scope s.today schema bindings none).get? "PROJECT_NAME" = some "my-demo-app" ∧
      ∃ next, create s schema "/out" bindings none {} =
          .ask (.entry (Path.join "/out" "my-demo-app")) next ∧
        ∃ more, next (.ok none) = .ask (.makeFolder (Path.join "/out" "my-demo-app")) more := by
  intro bindings schema s
  have hgiven : ∀ e ∈ bindings.entries, bareName e.1 ≠ "PROJECT_NAME" := by decide +kernel
  have hfree : ∀ p ∈ pieces "%NAME:kebab%-app".toList, ¬ p.NamesProject := by
    decide +kernel
  have hname : Name.check (substitute ((scope s.today schema bindings none).environment s.today)
      "%NAME:kebab%-app") = .ok "my-demo-app" := by decide +kernel
  obtain ⟨project, hproject, hsame, hrun⟩ := derived_name_is_root_name s rfl bindings hgiven hname
  obtain rfl := hsame.mpr fun p hp hproject => absurd hproject (hfree p hp)
  obtain ⟨next, hfirst, hmake⟩ := hrun "/out" {} (by decide)
  exact ⟨hgiven, hfree, hproject, next, hfirst, hmake rfl⟩

/-- **The project has another name than its folder**, where the folder's name asks for the name
of the project: it is put in once, but not twice. -/
theorem derived_name_is_not_root_name :
    let raw := "x-%PROJECT_NAME%"
    let schema : Schema := { root := .folder raw [] ∅ }
    let scope := scope ⟨2024, 1, 1, by decide⟩ schema ∅ none
    Name.check (substitute (scope.environment ⟨2024, 1, 1, by decide⟩) raw) =
        .ok "x-x-%PROJECT_NAME%" ∧
      scope.get? "PROJECT_NAME" = some "x-%PROJECT_NAME%" := by
  decide +kernel

end Project

end Scaffold

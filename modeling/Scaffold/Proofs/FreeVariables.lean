import Mathlib.Tactic
import Scaffold.Proofs.Dictionary
import Scaffold.Proofs.Sites

/-!
Variables that are not set.

* `Node.ownReferences`: the variables that the texts of a node refer to, those in it aside;
* `Site.IsFree`: a variable is referred to at a site, and neither given, built in nor set by a
  repetition that encloses the site;
* `Context.Matches` is the invariant of a check on its way down: the names that are set are
  those of the enclosing repetitions. `uses_listFindings`: so what is found to be unset,
  and where, is what is free at the sites within the greatest depth, in their order;
* `get?_undefinedVariables`: of these, the first path of each name is kept;
* `undefined_warnings_are_free_variables`: hence a check warns of the free variables, each once,
  ascending and with the first path.
-/

namespace Scaffold

open Text Variable

/-! ### Free variables -/

/-- The variables that the texts of a node refer to, what is in it aside. -/
def Node.ownReferences : Node → List String
  | .folder name _ _ => referenced name
  | .file f => f.references
  | .branch condition _ => referenced s!"%{bareName condition}%"
  | .otherwise _ => []
  | .loop count _ _ => referenced count

/-- A variable is neither given nor built in. -/
def IsUnset (given : Scope) (name : String) : Prop :=
  given.get? name = none ∧ name ∉ builtinNames

instance (given : Scope) : DecidablePred (IsUnset given) :=
  fun _ => inferInstanceAs (Decidable (_ ∧ _))

/-- A variable is referred to at a site, and nothing sets it there. The count of a repetition
is not in its body. -/
def Site.IsFree (given : Scope) (name : String) (site : Site) : Prop :=
  name ∈ site.node.ownReferences ∧ IsUnset given name ∧ ∀ node ∈ site.above, ¬ node.Binds name

instance (given : Scope) (name : String) : DecidablePred (Site.IsFree given name) :=
  fun _ => inferInstanceAs (Decidable (_ ∧ _ ∧ _))

namespace Schema

/-- The sites of a schema down to some depth, in order. -/
def sitesWithin (depth : ℕ) (schema : Schema) : List Site :=
  (schema.root.sites []).filter fun site => site.depth ≤ depth

/-- A variable is free at a site within the greatest depth, or in a command. -/
def HasFree (limits : Limits) (given : Scope) (schema : Schema) (name : String) : Prop :=
  (∃ site ∈ schema.sitesWithin limits.maxDepth, site.IsFree given name) ∨
    ∃ command ∈ schema.commands, name ∈ referenced command ∧ IsUnset given name

/-- The path of the first site at which a variable is free; commands come after all sites. -/
def firstUse (limits : Limits) (given : Scope) (schema : Schema) (name : String) : String :=
  match (schema.sitesWithin limits.maxDepth).find? fun site => site.IsFree given name with
  | some site => site.path
  | none => "[hooks]"

end Schema

/-! ### What is found to be unset -/

/-- The variables that are free at a site, in order, with its path. -/
def Site.uses (given : Scope) (site : Site) : List (String × String) :=
  (site.node.ownReferences.filter fun name => site.IsFree given name).map (·, site.path)

/-- A variable that is found to be unset, with its path. -/
def Finding.use? : Finding → Option (String × String)
  | .undefined name path => some (name, path)
  | _ => none

namespace Check

/-- The variables that are found to be unset, in order, with their paths. -/
def uses (found : List Finding) : List (String × String) := found.filterMap Finding.use?

variable {c : Context} {given : Scope} {above : List Node}

@[simp]
lemma uses_nil : uses [] = [] := rfl

@[simp]
lemma uses_append (found more : List Finding) : uses (found ++ more) = uses found ++ uses more :=
  List.filterMap_append

@[simp]
lemma uses_error (kind : IssueKind) (message path : String) :
    uses [error kind message path] = [] := rfl

@[simp]
lemma uses_warning (kind : IssueKind) (message path : String) :
    uses [warning kind message path] = [] := rfl

@[simp]
lemma uses_depthFinding (path : String) : uses [depthFinding c path] = [] := rfl

@[simp]
lemma uses_undefinedAmong (path : String) (names : List String) :
    uses (undefinedAmong c path names) =
      (names.filter fun name => !c.isDefined name).map (·, path) := by
  rw [uses, undefinedAmong, List.filterMap_map]
  exact congrFun (List.filterMap_eq_map (f := (·, path))) _

/-- The variables of several texts are those of each text. -/
lemma uses_flatMap_undefinedIn (path : String) (texts : List String) :
    uses (texts.flatMap (undefinedIn c path)) =
      ((texts.flatMap referenced).filter fun name => !c.isDefined name).map (·, path) := by
  induction texts with
  | nil => rfl
  | cons text rest ih =>
      rw [List.flatMap_cons, uses_append, ih, List.flatMap_cons, List.filter_append,
        List.map_append, undefinedIn, uses_undefinedAmong]

/-- An invalid or repeated name is no variable. -/
lemma uses_nameFindings (raw path : String) (seen : List String) :
    uses (nameFindings c raw path seen).1 = uses (undefinedIn c path raw) := by
  rw [nameFindings]
  split
  · rfl
  · split
    · simp
    · split_ifs <;> simp

lemma uses_templateFindings (path content : String) :
    uses (templateFindings c path content) =
      ((templateVariables content).filter fun name => !c.isDefined name).map (·, path) := by
  rw [templateFindings, uses_append, uses_undefinedAmong]
  split <;> simp

lemma uses_sourceFindings (f : FileNode) (path : String) : uses (sourceFindings c f path) = [] := by
  rw [sourceFindings]
  split
  · split <;> simp
  · dsimp only
    split_ifs <;> simp
  · rfl

/-- **What is found to be unset in a node** is what its texts refer to, in their order. -/
lemma uses_ownFindings (node : Node) (path : String) (seen : List String) (afterIf : Bool) :
    uses (ownFindings c node path seen afterIf).1 =
      (node.ownReferences.filter fun name => !c.isDefined name).map (·, path) := by
  cases node with
  | folder name children attributes =>
      rw [ownFindings, uses_nameFindings, undefinedIn, uses_undefinedAmong]
      rfl
  | file f =>
      have htexts : ([f.content, f.url, f.generateConfig].filterMap id).flatMap referenced =
          [f.content, f.url, f.generateConfig].flatMap fun t => (t.map referenced).getD [] := by
        cases f.content <;> cases f.url <;> cases f.generateConfig <;> rfl
      have htemplate : uses (if f.isTemplate then
            (f.content.map (templateFindings c path)).getD [] else []) =
          ((if f.isTemplate then (f.content.map templateVariables).getD [] else []).filter
            fun name => !c.isDefined name).map (·, path) := by
        split_ifs
        · cases f.content with
          | none => rfl
          | some content => exact uses_templateFindings path content
        · rfl
      have hsources : ∀ sources, uses (if 1 < sources then [warning .conflictingSources
          "File has several content sources; url wins over generate, which wins over content"
          path] else []) = [] := by
        intro sources
        split_ifs <;> rfl
      simp only [ownFindings, fileFindings, uses_append, uses_nameFindings, undefinedIn,
        uses_undefinedAmong, uses_flatMap_undefinedIn, htexts, htemplate, hsources,
        uses_sourceFindings, List.append_nil, Node.ownReferences, FileNode.references,
        List.filter_append, List.map_append, List.append_assoc]
  | branch condition children =>
      rw [ownFindings, undefinedIn, uses_undefinedAmong]
      rfl
  | otherwise children =>
      rw [ownFindings]
      split_ifs <;> rfl
  | loop count item children =>
      rw [ownFindings, loopFindings, uses_append, uses_append, undefinedIn, uses_undefinedAmong]
      split <;> split <;> simp [Node.ownReferences]

/-! ### The way down -/

/-- The context of a check below some nodes: the names that are set are those that these nodes
set. -/
structure Context.Matches (c : Context) (given : Scope) (above : List Node) : Prop where
  given_eq : c.given = given
  mem_bound : ∀ name, name ∈ c.bound ↔ ∃ node ∈ above, node.Binds name

/-- The body of a repetition has its names in addition, and that of another node has not. -/
lemma Context.Matches.below (h : c.Matches given above) (node : Node) :
    (c.below node).Matches given (above ++ [node]) := by
  refine ⟨by rw [Context.below_given, h.given_eq], fun name => ?_⟩
  simp only [List.mem_append, List.mem_singleton, or_and_right, exists_or, exists_eq_left,
    ← h.mem_bound]
  cases node with
  | loop count item children =>
      rw [Context.below, Context.inLoop, List.mem_cons, List.mem_cons, Node.Binds, ← or_assoc]
      exact or_comm
  | folder | file | branch | otherwise => exact (or_iff_left id).symm

lemma Context.Matches.isDefined_iff (h : c.Matches given above) (name : String) :
    c.isDefined name = false ↔ IsUnset given name ∧ ∀ node ∈ above, ¬ node.Binds name := by
  have hbound : name ∉ c.bound ↔ ∀ node ∈ above, ¬ node.Binds name := by
    rw [h.mem_bound]
    push Not
    rfl
  rw [← hbound, Context.isDefined, h.given_eq, IsUnset]
  simp [and_assoc]

/-- What is found to be unset in a node is what is free at its site. -/
lemma Context.Matches.uses_ownFindings (h : c.Matches given above) (node : Node)
    (seen : List String) (afterIf : Bool) :
    uses (ownFindings c node (childPath (above.foldl pathBelow "") (label node)) seen afterIf).1 =
      Site.uses given ⟨above, node⟩ := by
  rw [Check.uses_ownFindings, Site.uses]
  refine congrArg₂ List.map rfl (List.filter_congr fun name hname => ?_)
  have hdefined := h.isDefined_iff name
  simp only [Site.IsFree, hname, true_and]
  by_cases hfree : IsUnset given name ∧ ∀ node ∈ above, ¬ node.Binds name
  · rw [hdefined.mpr hfree, decide_eq_true hfree]
    rfl
  · rw [decide_eq_false hfree, Bool.eq_true_of_not_eq_false (fun h => hfree (hdefined.mp h))]
    rfl

/-- **What is found to be unset in siblings** is what is free at the sites within the greatest
depth, site by site. -/
theorem uses_listFindings (nodes : List Node) {c : Context} {above : List Node}
    (h : c.Matches given above) (habove : above.length ≤ c.limits.maxDepth)
    (seen : List String) (afterIf : Bool) :
    uses (listFindings c nodes (above.foldl pathBelow "") above.length seen afterIf) =
      ((Node.listSites above nodes).filter fun site => site.depth ≤ c.limits.maxDepth).flatMap
        (Site.uses given) := by
  induction nodes using Node.siblings_induction generalizing c above seen afterIf with
  | nil => simp [listFindings, Node.listSites]
  | cons node rest ihChildren ihRest =>
      have hhere : Site.depth ⟨above, node⟩ ≤ c.limits.maxDepth := habove
      rw [Node.listSites_cons, List.filter_cons_of_pos (by simpa using hhere),
        List.flatMap_cons, List.filter_append, List.flatMap_append, listFindings_cons]
      dsimp only
      rw [uses_append, uses_append, h.uses_ownFindings, ihRest h habove, List.append_assoc,
        childFindings_eq]
      have hlength : (above ++ [node]).length = above.length + 1 := by simp
      split_ifs with hdeep
      · -- no site in the node is within the greatest depth
        have hnone : (Node.listSites (above ++ [node]) node.children).filter
            (fun site => site.depth ≤ c.limits.maxDepth) = [] := by
          refine List.filter_eq_nil_iff.mpr fun site hsite => ?_
          have := Node.le_depth_of_mem_listSites hsite
          rw [decide_eq_true_eq]
          omega
        rw [hnone, uses_depthFinding, List.flatMap_nil]
      · have hinside := ihChildren (h.below node)
          (by rw [hlength, Context.below_limits]; omega) [] false
        rw [hlength, List.foldl_append, Context.below_limits] at hinside
        rw [← hinside]
        rfl

/-- What is found to be unset in a schema: what is free at its sites, and then in commands. -/
lemma uses_findings (limits : Limits) (today : Calendar.Date) (given : Scope) (schema : Schema) :
    uses (findings { limits, today, given } schema) =
      (schema.sitesWithin limits.maxDepth).flatMap (Site.uses given) ++
        ((schema.commands.flatMap referenced).filter fun name => IsUnset given name).map
          (·, "[hooks]") := by
  have hmatches : Context.Matches { limits, today, given } given [] := ⟨rfl, by simp⟩
  have hsites := uses_listFindings [schema.root] hmatches (Nat.zero_le _) [] false
  rw [Node.listSites, Node.listSites, List.append_nil] at hsites
  rw [findings, uses_append, uses_flatMap_undefinedIn]
  refine congrArg₂ (· ++ ·) hsites (congrArg _ (List.filter_congr fun name _ => ?_))
  have hdefined := hmatches.isDefined_iff name
  simp only [List.not_mem_nil, false_implies, implies_true, and_true] at hdefined
  by_cases hunset : IsUnset given name
  · rw [hdefined.mpr hunset, decide_eq_true hunset]
    rfl
  · rw [decide_eq_false hunset, Bool.eq_true_of_not_eq_false (fun h => hunset (hdefined.mp h))]
    rfl

end Check

/-! ### Each name once -/

namespace Dictionary

variable {β : Type}

/-- The first pair with a key is in the first of two lists that has one. -/
lemma find?_append (k : String) (l m : List (String × β)) :
    find? k (l ++ m) = (find? k l).or (find? k m) := by
  induction l with
  | nil => rfl
  | cons e rest ih =>
      rw [List.cons_append, find?, find?]
      split_ifs
      · rfl
      · exact ih

/-- Of pairs with one value, each key has this value. -/
lemma find?_map_pair (k : String) (keys : List String) (v : β) :
    find? k (keys.map (·, v)) = if k ∈ keys then some v else none := by
  induction keys with
  | nil => rfl
  | cons key rest ih =>
      rw [List.map_cons, find?, ih]
      by_cases h : key = k
      · simp [h]
      · simp [h, Ne.symm h]

end Dictionary

/-- The first path among some sites is that of the first site at which a variable is free. -/
lemma find?_uses (given : Scope) (name : String) (sites : List Site) :
    Dictionary.find? name (sites.flatMap (Site.uses given)) =
      (sites.find? fun site => site.IsFree given name).map Site.path := by
  induction sites with
  | nil => rfl
  | cons site rest ih =>
      rw [List.flatMap_cons, Dictionary.find?_append, ih, Site.uses, Dictionary.find?_map_pair,
        List.find?_cons]
      have hmem : name ∈ site.node.ownReferences.filter (fun name => site.IsFree given name) ↔
          site.IsFree given name := by
        rw [List.mem_filter, decide_eq_true_eq]
        exact and_iff_right_of_imp And.left
      by_cases hfree : site.IsFree given name
      · rw [if_pos (hmem.mpr hfree), decide_eq_true hfree]
        rfl
      · rw [if_neg (mt hmem.mp hfree), decide_eq_false hfree]
        rfl

namespace Check

/-- What is gathered from findings, from some dictionary on. -/
lemma gather_undefined (found : List Finding) (d : Dictionary String String) (hd : d.Ascending) :
    let gathered := found.foldl (fun d f =>
      match f with
      | .undefined name path => if d.contains name then d else d.insert name path
      | _ => d) d
    gathered.Ascending ∧
      ∀ name, gathered.get? name = (d.get? name).or (Dictionary.find? name (uses found)) := by
  induction found generalizing d with
  | nil => exact ⟨hd, fun name => Option.or_none.symm⟩
  | cons f rest ih =>
      rw [List.foldl_cons]
      match f with
      | .error _ | .warning _ => exact ih d hd
      | .undefined name path =>
          have hcons : uses (.undefined name path :: rest) = (name, path) :: uses rest := rfl
          dsimp only
          split_ifs with hold
          · obtain ⟨hasc, hget⟩ := ih d hd
            refine ⟨hasc, fun other => (hget other).trans ?_⟩
            obtain ⟨old, hold⟩ := Option.isSome_iff_exists.mp hold
            rw [hcons, Dictionary.find?]
            split_ifs with h
            · rw [← h, hold]
              rfl
            · rfl
          · obtain ⟨hasc, hget⟩ := ih (d.insert name path) (hd.insert name path)
            refine ⟨hasc, fun other => (hget other).trans ?_⟩
            rw [hcons, Dictionary.find?]
            split_ifs with h
            · subst h
              rw [Dictionary.get?_insert_self, Option.not_isSome_iff_eq_none.mp hold]
              rfl
            · rw [Dictionary.get?_insert_of_ne _ _ (Ne.symm h)]

/-- **Each name is kept once**, with its first path. -/
lemma get?_undefinedVariables (found : List Finding) (name : String) :
    (undefinedVariables found).get? name = Dictionary.find? name (uses found) :=
  (gather_undefined found ∅ Dictionary.ascending_empty).2 name

lemma ascending_undefinedVariables (found : List Finding) :
    (undefinedVariables found).Ascending :=
  (gather_undefined found ∅ Dictionary.ascending_empty).1

/-- A variable is kept if it is free somewhere, with the path of its first use. -/
lemma get?_undefined_findings (limits : Limits) (today : Calendar.Date) (given : Scope)
    (schema : Schema) (name path : String) :
    (undefinedVariables (findings { limits, today, given } schema)).get? name = some path ↔
      schema.HasFree limits given name ∧ schema.firstUse limits given name = path := by
  rw [get?_undefinedVariables, uses_findings, Dictionary.find?_append, find?_uses,
    Dictionary.find?_map_pair, Schema.HasFree, Schema.firstUse]
  have hcommands : name ∈ (schema.commands.flatMap referenced).filter
      (fun name => IsUnset given name) ↔
      ∃ command ∈ schema.commands, name ∈ referenced command ∧ IsUnset given name := by
    rw [List.mem_filter, List.mem_flatMap, decide_eq_true_eq]
    exact ⟨fun ⟨⟨command, hcommand, hname⟩, hunset⟩ => ⟨command, hcommand, hname, hunset⟩,
      fun ⟨command, hcommand, hname, hunset⟩ => ⟨⟨command, hcommand, hname⟩, hunset⟩⟩
  cases hfind : (schema.sitesWithin limits.maxDepth).find? (fun site => site.IsFree given name) with
  | some site =>
      have hfree : site.IsFree given name := by simpa using List.find?_some hfind
      have hsite := List.mem_of_find?_eq_some hfind
      simp only [Option.map_some, Option.some_or, Option.some.injEq]
      exact (and_iff_right (.inl ⟨site, hsite, hfree⟩)).symm
  | none =>
      have hnone : ¬ ∃ site ∈ schema.sitesWithin limits.maxDepth, site.IsFree given name := by
        rintro ⟨site, hsite, hfree⟩
        simpa [hfree] using List.find?_eq_none.mp hfind site hsite
      rw [Option.map_none, Option.none_or, or_iff_right hnone, ← hcommands]
      split_ifs with hmem
      · simp [hmem]
      · simp [hmem]

/-- No other warning is about a variable that is not set. -/
lemma warningsOf_findings_kind (c : Context) (schema : Schema) :
    ∀ i ∈ warningsOf (findings c schema), i.kind ≠ .undefinedVariable := by
  have hfound : ∀ f ∈ findings c schema, ∀ i, f = .warning i → i.kind ≠ .undefinedVariable := by
    rw [findings, List.forall_mem_append]
    constructor
    · refine listFindings_forall (fun c node path seen afterIf f hf i hi => ?_)
        (fun c path i hi => by simp [depthFinding, error] at hi) _ c "" 0 [] false
      have hown := ownFindings_isOwn c node path seen afterIf f hf
      rw [hi] at hown
      exact hown.2
    · intro f hf i hi
      obtain ⟨command, -, hf⟩ := List.mem_flatMap.mp hf
      have hown := undefinedAmong_isOwn (c := c) "[hooks]" _ f hf
      rw [hi] at hown
      exact hown.2
  intro i hi
  obtain ⟨f, hf, hfi⟩ := List.mem_filterMap.mp hi
  cases f with
  | warning issue =>
      obtain rfl := Option.some.inj hfi
      exact hfound _ hf _ rfl
  | error | undefined => simp at hfi

end Check

/-- **A check warns of the free variables.** Each variable that is free at a site within the
greatest depth or in a command is reported once, the names ascending, with the path of the first
site at which it is free, or as one of the commands if it is free in them only. No other
variable is reported. -/
theorem undefined_warnings_are_free_variables (limits : Limits) (today : Calendar.Date)
    (given : Scope) (schema : Schema) :
    ∃ names : List String, names.Pairwise (· < ·) ∧
      (∀ name, name ∈ names ↔ schema.HasFree limits given name) ∧
      ((check limits today given schema).warnings.filter fun i => i.kind = .undefinedVariable) =
        names.map fun name =>
          let path := schema.firstUse limits given name
          ⟨.undefinedVariable, s!"Variable %{name}% is used but never defined",
            if path = "" then none else some path⟩ := by
  set d := Check.undefinedVariables (Check.findings { limits, today, given } schema) with hd
  have hasc : d.Ascending := Check.ascending_undefinedVariables _
  have hentries : ∀ name path, (name, path) ∈ d.entries ↔
      schema.HasFree limits given name ∧ schema.firstUse limits given name = path :=
    fun name path => hasc.mem_entries_iff.trans (Check.get?_undefined_findings _ _ _ _ _ _)
  refine ⟨d.keys, hasc, fun name => ?_, ?_⟩
  · rw [Dictionary.keys, List.mem_map]
    constructor
    · rintro ⟨⟨_, path⟩, hentry, rfl⟩
      exact ((hentries _ _).mp hentry).1
    · exact fun hfree => ⟨_, (hentries name _).mpr ⟨hfree, rfl⟩, rfl⟩
  · have hother : ((Check.warningsOf (Check.findings { limits, today, given } schema)).filter
        fun i => i.kind = .undefinedVariable) = [] := by
      refine List.filter_eq_nil_iff.mpr fun i hi => ?_
      simpa using Check.warningsOf_findings_kind _ schema i hi
    have hall : ∀ issues : List Issue, (∀ i ∈ issues, i.kind = .undefinedVariable) →
        (issues.filter fun i => i.kind = .undefinedVariable) = issues :=
      fun issues h => List.filter_eq_self.mpr fun i hi => by simpa using h i hi
    rw [check, Check.report, List.filter_append, hother, List.nil_append, hall, Dictionary.keys,
      List.map_map]
    · refine List.map_congr_left fun entry hentry => ?_
      obtain ⟨-, hpath⟩ := (hentries entry.1 entry.2).mp hentry
      simp only [Check.issue, Function.comp_apply, hpath]
    · intro i hi
      obtain ⟨entry, -, rfl⟩ := List.mem_map.mp hi
      rfl

/-- The variable of a repetition is set in its body, and free in its own count. -/
example :
    let schema : Schema := { root := .loop "%I%" "i" [.file { name := "%I%-%I_1%" }] }
    (check {} ⟨2024, 1, 1, by decide⟩ default schema).warnings =
      [⟨.undefinedVariable, "Variable %I% is used but never defined",
        some "[repeat %I% as i]"⟩] := by
  decide +kernel

end Scaffold

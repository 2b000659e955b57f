import Mathlib.Tactic
import Scaffold.Proofs.Linting
import Scaffold.Proofs.Sites
import Scaffold.Proofs.Unhindered

/-!
Names that come to the same folder twice.

* `Plan.names` are the names that a plan puts in the folder where it is performed, and
  `Plan.IsApart` says that nothing in it comes to the place of something else. In a folder where
  nothing is, it is apart if and only if its visits come to different keys (`nodup_visits_iff`);
* `Node.names` are the names that a node puts in its folder. What a condition puts there is in
  another list than what stands beside the condition;
* `nodup_names_of_clear`: a check compares the names of one list;
* `Node.IsApart`: no list has a condition that puts a name in the folder which something else of
  the list puts there too. `isApart_ofList_iff`: where a check has found no error, that is all
  that can go wrong, by induction on siblings;
* `check_misses_collisions_across_conditions`: so a check without errors rules out all collisions
  but those across conditions.
-/

namespace Scaffold

open Scaffold.Path Variable

/-! ### Plans -/

namespace Plan

/-- The names that a plan puts in the folder where it is performed. -/
def names : Plan → List String
  | done => []
  | report _ next | refused _ next => next.names
  | file name _ _ next | folder name _ next => name :: next.names
  | group _ inside next => inside.names ++ next.names

/-- Nothing in a plan comes to the place of something else. -/
def IsApart : Plan → Prop
  | done => True
  | report _ next | refused _ next => next.IsApart
  | file name _ _ next => next.IsApart ∧ ↑name ∉ next.names
  | folder name inside next => inside.IsApart ∧ next.IsApart ∧ ↑name ∉ next.names
  | group _ inside next => inside.IsApart ∧ next.IsApart ∧ inside.names.Disjoint next.names

variable {fs : Memory} {p q : Plan} {path relative : String} {name : String}

@[simp]
lemma names_append (p q : Plan) : (p.append q).names = p.names ++ q.names := by
  induction p with
  | done => rfl
  | report notice next ih | refused kind next ih => exact ih
  | file name f env next ih | folder name inside next _ ih =>
      rw [append, names, names, ih, List.cons_append]
  | group label inside next _ ih => rw [append, names, names, ih, List.append_assoc]

/-- Two plans are apart if each is, and they put different names in the folder. -/
lemma isApart_append (p q : Plan) :
    (p.append q).IsApart ↔ p.IsApart ∧ q.IsApart ∧ p.names.Disjoint q.names := by
  induction p with
  | done => simp [append, IsApart, names]
  | report notice next ih | refused kind next ih => exact ih
  | file name f env next ih =>
      simp only [append, IsApart, names, ih, names_append, List.mem_append, not_or,
        List.disjoint_cons_left]
      tauto
  | folder name inside next _ ih =>
      simp only [append, IsApart, names, ih, names_append, List.mem_append, not_or,
        List.disjoint_cons_left]
      tauto
  | group label inside next _ ih =>
      simp only [append, IsApart, names, ih, names_append, List.disjoint_append_right,
        List.disjoint_append_left]
      tauto

/-- All that is visited in a folder is below it. -/
lemma key_of_mem_visits_folder {name : AcceptedName} {inside : Plan} {v : Visit}
    (hv : v ∈ (folder name inside done).visits fs path relative) :
    ∃ below, v.key = components path ++ .name name :: below := by
  have hhere := components_join (isName_of_check name.2) path
  by_cases hfile : fs.HasFile (components (join path name))
  · rw [visits_folder_of_hasFile hfile, visits_done, List.mem_singleton] at hv
    obtain rfl := hv
    exact ⟨[], hhere⟩
  · rw [visits_folder_of_not_hasFile hfile, visits_done, List.append_nil] at hv
    rcases List.mem_cons.mp hv with rfl | hv
    · exact ⟨[], hhere⟩
    · obtain ⟨below, -, hkey⟩ := key_of_mem_visits hv
      exact ⟨below, by rw [hkey, hhere]; simp⟩

/-- A visit is of one of the names that a plan puts in the folder, or below it. -/
lemma exists_name_of_mem_visits {v : Visit} (hv : v ∈ p.visits fs path relative) :
    ∃ name ∈ p.names, ∃ below, v.key = components path ++ .name name :: below := by
  induction p generalizing path relative with
  | done => simp at hv
  | report notice next ih | refused kind next ih => exact ih hv
  | file name f env next ih =>
      rcases List.mem_cons.mp hv with rfl | hv
      · exact ⟨name, List.mem_cons_self, [], components_join (isName_of_check name.2) path⟩
      · obtain ⟨other, hother, hkey⟩ := ih hv
        exact ⟨other, List.mem_cons_of_mem _ hother, hkey⟩
  | folder name inside next ihInside ih =>
      rw [visits_folder_append, List.mem_append] at hv
      rcases hv with hv | hv
      · exact ⟨name, List.mem_cons_self, key_of_mem_visits_folder hv⟩
      · obtain ⟨other, hother, hkey⟩ := ih hv
        exact ⟨other, List.mem_cons_of_mem _ hother, hkey⟩
  | group label inside next ihInside ih =>
      rcases List.mem_append.mp hv with hv | hv
      · obtain ⟨other, hother, hkey⟩ := ihInside hv
        exact ⟨other, List.mem_append_left _ hother, hkey⟩
      · obtain ⟨other, hother, hkey⟩ := ih hv
        exact ⟨other, List.mem_append_right _ hother, hkey⟩

/-- Each name that a plan puts in the folder is visited there, and no other is. -/
lemma mem_names_iff :
    name ∈ p.names ↔
      components path ++ [.name name] ∈ (p.visits fs path relative).map Visit.key := by
  constructor
  · intro hname
    induction p with
    | done => simp [names] at hname
    | report notice next ih | refused kind next ih => exact ih hname
    | file other f env next ih =>
        rcases List.mem_cons.mp hname with rfl | hname
        · exact List.mem_map.mpr
            ⟨_, List.mem_cons_self, components_join (isName_of_check other.2) path⟩
        · exact List.mem_cons_of_mem _ (ih hname)
    | folder other inside next _ ih =>
        rcases List.mem_cons.mp hname with rfl | hname
        · exact List.mem_map.mpr
            ⟨_, List.mem_cons_self, components_join (isName_of_check other.2) path⟩
        · rw [visits_folder_append, List.map_append, List.mem_append]
          exact .inr (ih hname)
    | group label inside next ihInside ih =>
        rw [visits, List.map_append, List.mem_append]
        exact (List.mem_append.mp hname).imp ihInside ih
  · intro hkey
    obtain ⟨v, hv, hvisit⟩ := List.mem_map.mp hkey
    obtain ⟨other, hother, below, hbelow⟩ := exists_name_of_mem_visits hv
    rw [hvisit, List.append_cancel_left_eq, List.cons.injEq, Component.name.injEq] at hbelow
    exact hbelow.1 ▸ hother

/-- Visits come to the same place only where the first names on the way are the same. -/
lemma disjoint_keys_iff :
    List.Disjoint ((p.visits fs path relative).map Visit.key)
        ((q.visits fs path relative).map Visit.key) ↔
      p.names.Disjoint q.names := by
  constructor
  · exact fun h name hp hq => h (mem_names_iff.mp hp) (mem_names_iff.mp hq)
  · intro h key hp hq
    obtain ⟨v, hv, rfl⟩ := List.mem_map.mp hp
    obtain ⟨w, hw, hsame⟩ := List.mem_map.mp hq
    obtain ⟨name, hname, below, hkey⟩ := exists_name_of_mem_visits hv
    obtain ⟨name', hname', below', hkey'⟩ := exists_name_of_mem_visits hw
    rw [hkey', hkey, List.append_cancel_left_eq, List.cons.injEq, Component.name.injEq] at hsame
    exact h hname (hsame.1 ▸ hname')

lemma nodup_keys_append :
    ((p.visits fs path relative ++ q.visits fs path relative).map Visit.key).Nodup ↔
      ((p.visits fs path relative).map Visit.key).Nodup ∧
      ((q.visits fs path relative).map Visit.key).Nodup ∧ p.names.Disjoint q.names := by
  rw [List.map_append, List.nodup_append', disjoint_keys_iff]

/-- **In a folder where nothing is,** a plan is apart if and only if its visits come to different
keys. -/
theorem nodup_visits_iff (hnew : ∀ below, below ≠ [] → fs.slot? (components path ++ below) = none) :
    ((p.visits fs path relative).map Visit.key).Nodup ↔ p.IsApart := by
  induction p generalizing path relative with
  | done => simp [IsApart]
  | report notice next ih | refused kind next ih => exact ih hnew
  | file name f env next ih =>
      rw [visits_file_append, nodup_keys_append, ih hnew]
      simp [visits, names, IsApart]
  | folder name inside next ihInside ih =>
      have hhere := components_join (isName_of_check name.2) path
      have hfree : ∀ below, fs.slot? (components (join path name) ++ below) = none := by
        intro below
        rw [hhere, List.append_assoc]
        exact hnew _ (by simp)
      have hnofile : ¬ fs.HasFile (components (join path name)) := fun hfile =>
        hfile.ne_none (by simpa using hfree [])
      have hinside : ((folder name inside done).visits fs path relative |>.map Visit.key).Nodup ↔
          inside.IsApart := by
        rw [visits_folder_of_not_hasFile hnofile, visits_done, List.append_nil, List.map_cons,
          List.nodup_cons, ihInside fun below _ => hfree below]
        exact and_iff_right place_not_mem_visits
      rw [visits_folder_append, nodup_keys_append, hinside, ih hnew]
      simp [names, IsApart]
  | group label inside next ihInside ih =>
      rw [visits, nodup_keys_append, ihInside hnew, ih hnew, IsApart]

end Plan

/-! ### Schemas -/

mutual

/-- The names that a node puts in its folder; a group puts there what is in it. -/
def Node.names : Node → List String
  | .folder name _ _ => [name]
  | .file f => [f.name]
  | .branch _ children | .otherwise children | .loop _ _ children => Node.listNames children

/-- The names that some nodes put in their folder. -/
def Node.listNames : List Node → List String
  | [] => []
  | node :: rest => node.names ++ Node.listNames rest

end

namespace Node

/-- The name of a folder or a file; a group has none. -/
def name? : Node → Option String
  | folder name _ _ => some name
  | file f => some f.name
  | branch _ _ | otherwise _ | loop .. => none

/-- A folder or a file whose name does not depend on variables, or a condition that holds. -/
def IsTaken (scope : Scope) : Node → Prop
  | folder name _ _ => '%' ∉ name.toList
  | file f => '%' ∉ f.name.toList
  | branch condition _ => Walk.holds scope condition
  | otherwise _ | loop .. => False

/-- What the conditions of a list put in the folder has other names than what else is put
there. -/
def AreApart (nodes : List Node) : Prop :=
  nodes.Pairwise fun a b => Check.isBranch a ∨ Check.isBranch b → ∀ name ∈ a.names, name ∉ b.names

/-- So it is for all lists of a tree. -/
def IsApart (root : Node) : Prop :=
  ∀ site ∈ root.sites [], AreApart site.node.children

instance (scope : Scope) : DecidablePred (IsTaken scope)
  | folder .. | file _ => inferInstanceAs (Decidable (_ ∉ _))
  | branch .. => inferInstanceAs (Decidable (_ = true))
  | otherwise _ | loop .. => inferInstanceAs (Decidable False)

instance (nodes : List Node) : Decidable (AreApart nodes) :=
  inferInstanceAs (Decidable (List.Pairwise _ _))

instance (root : Node) : Decidable root.IsApart :=
  inferInstanceAs (Decidable (∀ site ∈ root.sites [], AreApart site.node.children))

lemma mem_listNames {name : String} {nodes : List Node} :
    name ∈ listNames nodes ↔ ∃ node ∈ nodes, name ∈ node.names := by
  induction nodes with
  | nil => simp [listNames]
  | cons node rest ih => simp [listNames, ih]

/-- A folder or a file puts just its own name in the folder. -/
lemma names_eq_of_not_isBranch {scope : Scope} {node : Node} (htaken : node.IsTaken scope)
    (h : Check.isBranch node = false) : node.names = node.name?.toList := by
  cases node with
  | folder | file => rfl
  | branch condition children => simp [Check.isBranch] at h
  | otherwise | loop => exact htaken.elim

/-- Where the names of nodes are different, a node and one after it can put the same name in the
folder only if one of the two is a condition. -/
lemma disjoint_names_iff {scope : Scope} {node : Node} {rest : List Node}
    (htaken : ∀ other ∈ node :: rest, other.IsTaken scope)
    (hnames : ((node :: rest).filterMap name?).Nodup) :
    node.names.Disjoint (listNames rest) ↔
      ∀ other ∈ rest, Check.isBranch node ∨ Check.isBranch other →
        ∀ name ∈ node.names, name ∉ other.names := by
  constructor
  · exact fun h other hother _ name hname hsame =>
      h hname (mem_listNames.mpr ⟨other, hother, hsame⟩)
  · intro h name hname hrest
    obtain ⟨other, hother, hsame⟩ := mem_listNames.mp hrest
    by_cases hbranch : Check.isBranch node ∨ Check.isBranch other
    · exact h other hother hbranch name hname hsame
    · -- each of the two puts its own name there
      simp only [not_or, Bool.not_eq_true] at hbranch
      rw [names_eq_of_not_isBranch (htaken node List.mem_cons_self) hbranch.1] at hname
      rw [names_eq_of_not_isBranch (htaken other (List.mem_cons_of_mem _ hother)) hbranch.2]
        at hsame
      rw [Option.mem_toList] at hname hsame
      rw [List.filterMap_cons_some hname, List.nodup_cons] at hnames
      exact hnames.1 (List.mem_filterMap.mpr ⟨other, hother, hsame⟩)

end Node

/-! ### Checking -/

namespace Check

variable {c : Context} {scope : Scope} {node : Node} {nodes rest : List Node}
  {raw path parent : String} {depth : ℕ} {seen : List String} {afterIf : Bool}

lemma errorsOf_append {found more : List Finding} :
    errorsOf (found ++ more) = [] ↔ errorsOf found = [] ∧ errorsOf more = [] := by
  rw [errorsOf, List.filterMap_append, List.append_eq_nil_iff]
  rfl

/-- A name in which no error is found is accepted, and was not seen before. -/
lemma nameFindings_of_clear (hraw : '%' ∉ raw.toList)
    (h : errorsOf (nameFindings c raw path seen).1 = []) :
    Name.check raw = .ok raw ∧ raw ∉ seen ∧ (nameFindings c raw path seen).2 = raw :: seen := by
  unfold nameFindings at h ⊢
  rw [resolved?_of_not_mem hraw] at h ⊢
  cases hcheck : Name.check raw with
  | error fault =>
      simp only [hcheck, errorsOf_append] at h
      exact absurd h.2 (by simp [errorsOf, error])
  | ok name =>
      obtain rfl := (Name.check_eq_ok_iff.mp hcheck).2
      have hplain : name.toList.contains '%' = false := by simpa using hraw
      simp only [hcheck, hplain, Bool.and_false, Bool.false_eq_true, ↓reduceIte] at h ⊢
      split_ifs at h ⊢ with hseen
      · exact absurd (errorsOf_append.mp h).2 (by simp [errorsOf, error])
      · exact ⟨trivial, by simpa using hseen, rfl⟩

/-- The same of a node whose name, if it has one, does not depend on variables. -/
lemma ownFindings_of_clear (htaken : node.IsTaken scope)
    (h : errorsOf (ownFindings c node path seen afterIf).1 = []) :
    (∀ name, node.name? = some name → Name.check name = .ok name ∧ name ∉ seen) ∧
      (ownFindings c node path seen afterIf).2 = node.name?.toList ++ seen := by
  cases node with
  | folder name children attributes =>
      obtain ⟨hcheck, hseen, hnext⟩ := nameFindings_of_clear htaken h
      exact ⟨by simpa [Node.name?] using ⟨hcheck, hseen⟩, hnext⟩
  | file f =>
      obtain ⟨hcheck, hseen, hnext⟩ := nameFindings_of_clear htaken (errorsOf_append.mp h).1
      exact ⟨by simpa [Node.name?] using ⟨hcheck, hseen⟩, hnext⟩
  | branch condition children => exact ⟨by simp [Node.name?], rfl⟩
  | otherwise | loop => exact htaken.elim

/-- Where no error is found in a list, none is found in its first node, below it, or in the
others. -/
lemma listFindings_of_clear
    (h : errorsOf (listFindings c (node :: rest) parent depth seen afterIf) = []) :
    errorsOf (ownFindings c node (childPath parent (label node)) seen afterIf).1 = [] ∧
      (depth + 1 ≤ c.limits.maxDepth ∧ errorsOf (listFindings (c.below node) node.children
        (pathBelow parent node) (depth + 1) [] false) = []) ∧
      errorsOf (listFindings c rest parent depth
        (ownFindings c node (childPath parent (label node)) seen afterIf).2 (isBranch node)) =
          [] := by
  rw [listFindings_cons] at h
  obtain ⟨hfirst, hrest⟩ := errorsOf_append.mp h
  obtain ⟨hown, hchild⟩ := errorsOf_append.mp hfirst
  refine ⟨hown, ?_, hrest⟩
  rw [childFindings_eq] at hchild
  split_ifs at hchild with hdeep
  · simp [errorsOf, depthFinding, error] at hchild
  · exact ⟨Nat.le_of_not_lt hdeep, hchild⟩

/-- **A check compares the names of one list:** where it finds no error they are different. -/
theorem nodup_names_of_clear (htaken : ∀ node ∈ nodes, node.IsTaken scope)
    (h : errorsOf (listFindings c nodes parent depth seen afterIf) = []) :
    (nodes.filterMap Node.name?).Nodup ∧ ∀ name ∈ nodes.filterMap Node.name?, name ∉ seen := by
  induction nodes generalizing seen afterIf with
  | nil => simp
  | cons node rest ih =>
      obtain ⟨hhere, hothers⟩ := List.forall_mem_cons.mp htaken
      obtain ⟨hown, -, hrest⟩ := listFindings_of_clear h
      obtain ⟨hname, hseen⟩ := ownFindings_of_clear hhere hown
      rw [hseen] at hrest
      obtain ⟨hnodup, hnew⟩ := ih hothers hrest
      cases hnode : node.name? with
      | none =>
          rw [List.filterMap_cons_none hnode]
          exact ⟨hnodup, by simpa [hnode] using hnew⟩
      | some name =>
          rw [hnode, Option.toList_some, List.singleton_append] at hnew
          rw [List.filterMap_cons_some hnode, List.nodup_cons, List.forall_mem_cons]
          refine ⟨⟨fun hmem => hnew name hmem List.mem_cons_self, hnodup⟩,
            (hname name hnode).2, fun other hother hsame => ?_⟩
          exact hnew other hother (List.mem_cons_of_mem _ hsame)

end Check

/-! ### Plans of schemas -/

section Taken

variable {s : WalkSettings} {c : Check.Context} {scope : Scope}

lemma AcceptedName.of_eq_ok {name : String} (h : Name.check name = .ok name) :
    AcceptedName.of name = .ok ⟨name, h⟩ := by
  have hcheck := AcceptedName.check_eq name
  rw [h] at hcheck
  cases hof : AcceptedName.of name with
  | error fault => simp [hof, Except.map] at hcheck
  | ok accepted =>
      rw [hof] at hcheck
      exact congrArg Except.ok (Subtype.ext (Except.ok.inj hcheck).symm)

/-- A node that is taken puts its names in the folder, and is apart where what is in it is. -/
lemma isApart_ofNode_iff {node : Node} (htaken : node.IsTaken scope)
    (hname : ∀ name, node.name? = some name → Name.check name = .ok name) {depth : ℕ}
    (hdepth : ¬ s.limits.maxDepth < depth) {P : Prop}
    (hinside : ∀ relative,
      (Plan.ofList s node.children relative scope (depth + 1) none).names =
          Node.listNames node.children ∧
        ((Plan.ofList s node.children relative scope (depth + 1) none).IsApart ↔ P))
    (relative : String) (lastIf : Option Bool) :
    (Plan.ofNode s node relative scope depth lastIf).names = node.names ∧
      ((Plan.ofNode s node relative scope depth lastIf).IsApart ↔ P) := by
  cases node with
  | folder name children attributes =>
      have hraw : '%' ∉ name.toList := htaken
      simp only [Plan.ofNode, hdepth, ↓reduceIte, substitute_of_not_mem hraw,
        AcceptedName.of_eq_ok (hname name rfl)]
      simp only [Node.children] at hinside
      refine ⟨rfl, ?_⟩
      rw [Plan.IsApart, (hinside _).2]
      simp [Plan.IsApart, Plan.names]
  | file f =>
      have hraw : '%' ∉ f.name.toList := htaken
      simp only [Plan.ofNode, hdepth, ↓reduceIte, substitute_of_not_mem hraw,
        AcceptedName.of_eq_ok (hname f.name rfl)]
      refine ⟨rfl, ?_⟩
      rw [← (hinside relative).2]
      simp [Plan.IsApart, Plan.names, Node.children, Plan.ofList]
  | branch condition children =>
      have hholds : Walk.holds scope condition := htaken
      simp only [Plan.ofNode, hdepth, ↓reduceIte, hholds]
      refine ⟨?_, ?_⟩
      · rw [Plan.names, Plan.names, List.append_nil]
        exact (hinside relative).1
      · rw [Plan.IsApart, ← (hinside relative).2]
        simp [Plan.IsApart, Plan.names, Node.children]
  | otherwise | loop => exact htaken.elim

/-- **Where a check has found no error,** a plan that takes all of some nodes puts their names in
the folder, and is apart if and only if all lists of the nodes are. -/
theorem isApart_ofList_iff (nodes : List Node) (hlimits : c.limits = s.limits) {above : List Node}
    (htaken : ∀ site ∈ Node.listSites above nodes, site.node.IsTaken scope) {parent : String}
    {depth : ℕ} (hdepth : depth ≤ s.limits.maxDepth) {seen : List String} {afterIf : Bool}
    (hclear : Check.errorsOf (Check.listFindings c nodes parent depth seen afterIf) = [])
    (relative : String) (lastIf : Option Bool) :
    (Plan.ofList s nodes relative scope depth lastIf).names = Node.listNames nodes ∧
      ((Plan.ofList s nodes relative scope depth lastIf).IsApart ↔
        Node.AreApart nodes ∧
          ∀ site ∈ Node.listSites above nodes, Node.AreApart site.node.children) := by
  induction nodes using Node.siblings_induction
    generalizing c above parent depth seen afterIf relative lastIf with
  | nil => simp [Plan.ofList, Plan.names, Plan.IsApart, Node.listNames, Node.AreApart,
      Node.listSites]
  | cons node rest ihChildren ihRest =>
      have hnodes : ∀ other ∈ node :: rest, other.IsTaken scope := fun other hother =>
        htaken _ (Node.mk_mem_listSites hother)
      have hdistinct := (Check.nodup_names_of_clear hnodes hclear).1
      rw [Node.listSites_cons, List.forall_mem_cons, List.forall_mem_append] at htaken ⊢
      obtain ⟨hhere, hbelow, hothers⟩ := htaken
      obtain ⟨hown, ⟨hdeeper, hchildren⟩, hrest⟩ := Check.listFindings_of_clear hclear
      have hname := (Check.ownFindings_of_clear hhere hown).1
      -- no list is too deep, so the plan is nowhere cut off
      rw [hlimits] at hdeeper
      obtain ⟨hnodeNames, hnodeApart⟩ := isApart_ofNode_iff hhere (fun name h => (hname name h).1)
        (Nat.not_lt.mpr hdepth) (fun relative => ihChildren ((c.below_limits node).trans hlimits)
          hbelow hdeeper hchildren relative none) relative lastIf
      obtain ⟨hrestNames, hrestApart⟩ := ihRest hlimits hothers hdepth hrest relative
        (Plan.nextIf s node scope depth)
      -- what the check says of this list leaves only its conditions to be compared
      rw [Plan.ofList, Plan.names_append, Plan.isApart_append, hnodeNames, hrestNames, hnodeApart,
        hrestApart, Node.disjoint_names_iff hnodes hdistinct]
      refine ⟨by rw [Node.listNames], ?_⟩
      simp only [Node.AreApart, List.pairwise_cons]
      tauto

/-- So it is with the plan of a schema. -/
lemma isApart_ofRoot_iff (hlimits : c.limits = s.limits) {schema : Schema}
    (hclear : Check.errorsOf (Check.findings c schema) = [])
    (htaken : ∀ site ∈ schema.root.sites [], site.node.IsTaken scope) :
    (Plan.ofRoot s schema.root scope).IsApart ↔ schema.root.IsApart := by
  have hsites : Node.listSites [] [schema.root] = schema.root.sites [] := by
    rw [Node.listSites, Node.listSites, List.append_nil]
  have happart := (isApart_ofList_iff [schema.root] hlimits (hsites ▸ htaken) (Nat.zero_le _)
    (Check.errorsOf_append.mp hclear).1 "" none).2
  rw [hsites] at happart
  exact happart.trans (and_iff_right (List.pairwise_singleton _ _))

end Taken

/-- **A check misses the collisions across conditions, and no others.** Let a tree consist of
folders and files whose names do not depend on variables, and of conditions that hold, and let a
check of it report no error. In an output folder in which nothing is, two visits of a run come to
the same key if and only if a condition in the tree puts a name in its folder that something else
of the condition's list puts there too. Where there is no such condition, a run skips no file, and
does not report that something is in the way of a folder or a file. -/
theorem check_misses_collisions_across_conditions {σ : Type} {host : Host (StateM σ)}
    {view : σ → Memory} {outside : Outside} (hhost : host.Within view (Memory.steady outside))
    {limits : Limits} {today : Calendar.Date} {given : Scope} {schema : Schema}
    (hclear : (check limits today given schema).errors = []) {s : CreateSettings}
    (hlimits : s.limits = limits) (hdry : s.options.dryRun = false) {scope : Scope}
    (htaken : ∀ site ∈ schema.root.sites [], site.node.IsTaken scope) {output : String}
    {before : σ} (hbefore : (view before).Reachable) (houtput : (view before).isFolder output)
    (hempty : ∀ below, below ≠ [] → (view before).slot? (components output ++ below) = none) :
    (((s.visits schema output scope (view before)).map Visit.key).Nodup ↔ schema.root.IsApart) ∧
      (schema.root.IsApart →
        ∃ c after, (create s schema output scope).on host before = (c, after) ∧
          c.summary.skipped = 0 ∧ ∀ entry ∈ c.logs, ¬ entry.IsObstacle) := by
  have hapart : ((s.visits schema output scope (view before)).map Visit.key).Nodup ↔
      schema.root.IsApart :=
    (Plan.nodup_visits_iff hempty).trans
      (isApart_ofRoot_iff (c := { limits, today, given }) hlimits.symm hclear htaken)
  refine ⟨hapart, fun h => ?_⟩
  have hnew : ∀ v ∈ s.visits schema output scope (view before),
      (view before).slot? v.key = none := by
    intro v hv
    obtain ⟨below, hbelow, hkey⟩ := Plan.key_of_mem_visits hv
    rw [hkey]
    exact hempty below hbelow
  have hrun := Creation.create_unhindered hhost hdry schema output scope hbefore houtput
    (hapart.mpr h) hnew
  refine ⟨_, _, rfl, hrun.skipped, fun entry hentry => ?_⟩
  exact (hrun.logs entry hentry).resolve_left (by simp)

/-- A file stands beside a condition that puts a file of the same name in the folder. A check
finds nothing, and a run skips the second file. -/
theorem file_across_condition_skipped :
    let s : CreateSettings :=
      { limits := {}, today := ⟨2024, 1, 1, by decide⟩, equipment := {}, options := {} }
    let file : Node := .file { name := "a" }
    let schema : Schema := { root := .folder "r" [file, .branch "X" [file]] ∅ }
    let scope := Scope.ofPairs [("X", "1")]
    let before := (Memory.empty.makeFolder "/out").2
    (check s.limits s.today scope schema).errors = [] ∧
      (∀ site ∈ schema.root.sites [], site.node.IsTaken scope) ∧
      ¬ ((s.visits schema "/out" scope before).map Visit.key).Nodup ∧
      ((create s schema "/out" scope).on (Memory.host {}) before).1.summary.skipped = 1 := by
  decide +kernel

/-- A condition inside of another one, and a folder and a file beside them: the names in each
folder are different, also across the conditions. -/
theorem check_misses_collisions_across_conditions_of_names :
    let s : CreateSettings :=
      { limits := {}, today := ⟨2024, 1, 1, by decide⟩, equipment := {}, options := {} }
    let file : String → Node := fun name => .file { name, content := some "text" }
    let schema : Schema :=
      { root := .folder "r" [file "a", .folder "b" [file "a"] ∅,
          .branch "X" [file "c", .branch "X" [file "d"]]] ∅ }
    let scope := Scope.ofPairs [("X", "1")]
    let before := (Memory.empty.makeFolder "out").2
    (check s.limits s.today scope schema).errors = [] ∧
      (∀ site ∈ schema.root.sites [], site.node.IsTaken scope) ∧
      schema.root.IsApart ∧ ((s.visits schema "out" scope before).map Visit.key).Nodup ∧
      ∃ c after, (create s schema "out" scope).on (Memory.host {}) before = (c, after) ∧
        c.summary.skipped = 0 ∧ ∀ entry ∈ c.logs, ¬ entry.IsObstacle := by
  intro s file schema scope before
  have hclear : (check s.limits s.today scope schema).errors = [] := by decide +kernel
  have htaken : ∀ site ∈ schema.root.sites [], site.node.IsTaken scope := by decide +kernel
  have hapart : schema.root.IsApart := by decide +kernel
  have hbefore : Memory.Reachable (id before) := .call {} (.makeFolder "out") .empty
  have houtput : Memory.isFolder (id before) "out" := by decide
  have hempty : ∀ below, below ≠ [] →
      (id before).slot? (components "out" ++ below) = none := by
    intro below hbelow
    have hset : id before = Memory.empty.set (components "out") .folder := rfl
    rw [hset, Memory.slot?_set_of_ne _ _ (by simpa using hbelow)]
    rfl
  obtain ⟨hnodup, hrun⟩ := check_misses_collisions_across_conditions (Memory.host_steady {})
    hclear (s := s) rfl rfl htaken hbefore houtput hempty
  exact ⟨hclear, htaken, hapart, hnodup.mpr hapart, hrun hapart⟩

end Scaffold

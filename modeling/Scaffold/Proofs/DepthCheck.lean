import Mathlib.Tactic
import Scaffold.Proofs.Cut
import Scaffold.Proofs.Linting
import Scaffold.Proofs.Sites

/-!
Nesting that is too deep, in a check and in a walk.

* `Node.Reaches`: some node of a tree lies at some depth, or deeper;
* `reportsDepth_listFindings`: a check looks at the lists in nodes, empty ones and those of
  files with them, so it reports the greatest depth where a node reaches it;
* `Node.opened` is a tree of the same shape all of which a walk takes, and `heard` is what a
  walk reports that opens all folders. `Plan.isCut_ofList_opened`: such a walk is stopped where
  a node goes beyond the greatest depth;
* `Node.cut_eq_self`: a tree that does not go beyond the greatest depth is not cut, so no run
  complains of it;
* `depth_check_counts_empty_lists`: a check and a walk differ exactly on the trees whose deepest
  nodes lie at the greatest depth.
-/

namespace Scaffold

open Variable

/-- Some node of a tree lies at a depth, or deeper. -/
def Node.Reaches (depth : ℕ) (root : Node) : Prop :=
  ∃ site ∈ root.sites [], depth ≤ site.depth

instance (depth : ℕ) (root : Node) : Decidable (root.Reaches depth) :=
  inferInstanceAs (Decidable (∃ site ∈ root.sites [], depth ≤ site.depth))

/-! ### Checking -/

namespace Check

/-- A list that nests too deep is among some findings. -/
def ReportsDepth (found : List Finding) : Prop :=
  ∃ i ∈ errorsOf found, i.kind = .depthExceeded

lemma reportsDepth_append {found more : List Finding} :
    ReportsDepth (found ++ more) ↔ ReportsDepth found ∨ ReportsDepth more := by
  simp only [ReportsDepth, errorsOf, List.filterMap_append, List.mem_append, or_and_right,
    exists_or]

/-- What is found in single nodes is no nesting. -/
lemma not_reportsDepth_of_isOwn {found : List Finding} (h : ∀ f ∈ found, f.IsOwn) :
    ¬ ReportsDepth found := by
  rintro ⟨i, hi, hkind⟩
  obtain ⟨f, hf, hfi⟩ := List.mem_filterMap.mp hi
  have hown := h f hf
  cases f with
  | error issue =>
      obtain rfl := Option.some.inj hfi
      exact hown.1 hkind
  | warning | undefined => simp at hfi

lemma reportsDepth_depthFinding (c : Context) (path : String) :
    ReportsDepth [depthFinding c path] :=
  ⟨_, List.mem_cons_self, rfl⟩

/-- **A check reports the greatest depth** where a node reaches it: the list in that node would
be deeper, also if nothing is in it. -/
theorem reportsDepth_listFindings (nodes : List Node) {c : Context} {above : List Node}
    (habove : above.length ≤ c.limits.maxDepth) (parent : String) (seen : List String)
    (afterIf : Bool) :
    ReportsDepth (listFindings c nodes parent above.length seen afterIf) ↔
      ∃ site ∈ Node.listSites above nodes, c.limits.maxDepth ≤ site.depth := by
  induction nodes using Node.siblings_induction generalizing c above parent seen afterIf with
  | nil => simp [listFindings, Node.listSites, ReportsDepth, errorsOf]
  | cons node rest ihChildren ihRest =>
      have hown := not_reportsDepth_of_isOwn
        (ownFindings_isOwn c node (childPath parent (label node)) seen afterIf)
      rw [listFindings_cons, reportsDepth_append, reportsDepth_append, ihRest habove,
        Node.listSites_cons]
      simp only [hown, false_or, List.mem_cons, List.mem_append, or_and_right, exists_or,
        exists_eq_left]
      rw [← or_assoc]
      refine or_congr_left ?_
      have hdepth : Site.depth ⟨above, node⟩ = above.length := rfl
      rw [childFindings_eq, hdepth]
      split_ifs with hdeep
      · exact iff_of_true (reportsDepth_depthFinding c _) (.inl (by omega))
      · have hlength : (above ++ [node]).length = above.length + 1 := by simp
        have hwithin : (above ++ [node]).length ≤ (c.below node).limits.maxDepth := by
          rw [hlength, Context.below_limits]
          omega
        have hinside := ihChildren hwithin (pathBelow parent node) [] false
        rw [hlength, Context.below_limits] at hinside
        rw [hinside, or_iff_right (by omega)]

/-- Commands have no depth. -/
lemma reportsDepth_findings (c : Context) (schema : Schema) :
    ReportsDepth (findings c schema) ↔ schema.root.Reaches c.limits.maxDepth := by
  have hcommands : ¬ ReportsDepth (schema.commands.flatMap (undefinedIn c "[hooks]")) := by
    refine not_reportsDepth_of_isOwn fun f hf => ?_
    obtain ⟨command, -, hf⟩ := List.mem_flatMap.mp hf
    exact undefinedAmong_isOwn _ _ f hf
  have hwithin : ([] : List Node).length ≤ c.limits.maxDepth := Nat.zero_le _
  have hroot := reportsDepth_listFindings [schema.root] hwithin "" [] false
  rw [findings, reportsDepth_append, or_iff_left hcommands]
  rw [Node.listSites, Node.listSites, List.append_nil] at hroot
  exact hroot

end Check

/-! ### Walking -/

/-- A visitor that opens all folders, and does nothing but listen. -/
def listener : Visitor (StateM (List LogEntry)) Unit Unit where
  isDry := true
  report entry := modify (· ++ [entry])
  enterFolder _ _ := return some ((), true)
  leaveFolder _ _ := return none
  file _ _ _ _ := return none
  group _ _ _ := return none
  invalidName _ _ := return none

/-- What a walk reports that opens all folders. -/
def heard (s : WalkSettings) (root : Node) (scope : Scope) : List LogEntry :=
  ((walk s listener root "" scope).run []).2

mutual

/-- A tree of the same shape all of which a walk takes: names are plain, conditions hold if
`X` is true, an alternative is a condition of its own, and a body is repeated once. -/
def Node.opened : Node → Node
  | .folder _ children attributes => .folder "a" (Node.openedAll children) attributes
  | .file f => .file { f with name := "a" }
  | .branch _ children | .otherwise children => .branch "X" (Node.openedAll children)
  | .loop _ _ children => .loop "1" "i" (Node.openedAll children)

/-- The same for siblings. -/
def Node.openedAll : List Node → List Node
  | [] => []
  | node :: rest => node.opened :: Node.openedAll rest

end

namespace Plan

/-- The notices of a plan, in order. -/
def notices : Plan → List Notice
  | done => []
  | report notice next => notice :: next.notices
  | refused _ next | file _ _ _ next => next.notices
  | folder _ inside next | group _ inside next => inside.notices ++ next.notices

/-- Some node of a plan lies beyond the greatest depth. -/
def IsCut (p : Plan) : Prop := ∃ notice ∈ p.notices, notice.isTooDeep

lemma notices_append (p q : Plan) : (p.append q).notices = p.notices ++ q.notices := by
  induction p with
  | done => rfl
  | report notice next ih => simp [append, notices, ih]
  | refused kind next ih => simp [append, notices, ih]
  | file name f env next ih => simp [append, notices, ih]
  | folder name inside next _ ih => simp [append, notices, ih]
  | group label inside next _ ih => simp [append, notices, ih]

lemma isCut_append {p q : Plan} : (p.append q).IsCut ↔ p.IsCut ∨ q.IsCut := by
  simp only [IsCut, notices_append, List.mem_append, or_and_right, exists_or]

lemma not_isCut_done : ¬ done.IsCut := by simp [IsCut, notices]

lemma isCut_report {notice : Notice} {next : Plan} (h : notice.isTooDeep = false) :
    (report notice next).IsCut ↔ next.IsCut := by simp [IsCut, notices, h]

lemma isCut_folder {name : AcceptedName} {inside : Plan} :
    (folder name inside done).IsCut ↔ inside.IsCut := by simp [IsCut, notices]

lemma isCut_group {label : String} {inside : Plan} :
    (group label inside done).IsCut ↔ inside.IsCut := by simp [IsCut, notices]

/-- A listener hears each notice of a plan, and makes nothing of it. -/
lemma perform_listener (p : Plan) (place : Cursor) (log : List LogEntry) :
    (p.perform listener place).run log = ([], log ++ p.notices.map (Notice.entry true)) := by
  induction p generalizing place log with
  | done => exact congrArg (Prod.mk []) (List.append_nil log).symm
  | report notice next ih =>
      calc (perform listener (report notice next) place).run log
          = (next.perform listener place).run (log ++ [notice.entry true]) := rfl
        _ = _ := by rw [ih, notices, List.map_cons, List.append_assoc, List.singleton_append]
  | refused kind next ih | file name f env next ih =>
      exact ih place log
  | folder name inside next ihInside ih | group label inside next ihInside ih =>
      have hboth : ∀ inner : Cursor,
          (next.perform listener place).run ((inside.perform listener inner).run log).2 =
            ([], log ++ (inside.notices ++ next.notices).map (Notice.entry true)) := by
        intro inner
        rw [ihInside, ih, List.map_append, List.append_assoc]
      exact hboth _

end Plan

lemma exists_isTooDeep_heard (s : WalkSettings) (root : Node) (scope : Scope) :
    (∃ entry ∈ heard s root scope, entry.IsTooDeep) ↔ (Plan.ofRoot s root scope).IsCut := by
  rw [heard, walk_eq_perform, Plan.perform_listener, List.nil_append]
  simp only [List.mem_map, exists_exists_and_eq_and, Notice.entry_isTooDeep, Plan.IsCut]

/-! ### Taking all of a tree -/

section Opened

variable {s : WalkSettings} {scope : Scope}

lemma exists_accepted_plain (env : Environment) :
    ∃ name, AcceptedName.of (substitute env "a") = .ok name := by
  have hplain : substitute env "a" = "a" := substitute_of_not_mem (by decide)
  have hcheck : Name.check "a" = .ok "a" := by decide
  rw [AcceptedName.check_eq] at hcheck
  rw [hplain]
  cases hof : AcceptedName.of "a" with
  | error fault => simp [hof, Except.map] at hcheck
  | ok name => exact ⟨name, rfl⟩

/-- A body that is repeated once. -/
lemma readLoop_once (hrepeat : 1 ≤ s.limits.maxRepeat) (env : Environment) :
    Plan.readLoop s "1" "i" env = .ok (1, "i") := by
  have hname : checkLoopVariable (String.ofList (Text.trim "i".toList)) = .ok "i" := by decide
  have hplain : substitute env "1" = "1" := substitute_of_not_mem (by decide)
  have hread : RepeatCount.read "1" s.limits.maxRepeat = .times 1 := by
    have hnumber : Text.signed? (Text.trim "1".toList) = some 1 := by decide
    have hsmall : ¬ s.limits.maxRepeat < 1 := by omega
    rw [RepeatCount.read, hnumber]
    simp [maxSigned, hsmall]
  simp only [Plan.readLoop, hname, hplain, hread]

/-- The variables of a round change no condition. -/
lemma holds_roundScope (h : Walk.holds scope "X") (round : ℕ) :
    Walk.holds (Walk.roundScope scope "i" round) "X" := by
  have hget : (Walk.roundScope scope "i" round).get? "X" = scope.get? "X" := by
    rw [Walk.roundScope, Scope.get?_bind_of_ne _ _ (by decide),
      Scope.get?_bind_of_ne _ _ (by decide), Scope.get?_push]
  rw [Walk.holds, hget]
  exact h

/-- An opened node within the greatest depth is cut where what is in it is. -/
lemma isCut_ofNode_opened (hrepeat : 1 ≤ s.limits.maxRepeat) (hscope : Walk.holds scope "X")
    {node : Node} {depth : ℕ} (hdepth : ¬ s.limits.maxDepth < depth) {P : Prop}
    (hinside : ∀ relative scope, Walk.holds scope "X" →
      ((Plan.ofList s (Node.openedAll node.children) relative scope (depth + 1) none).IsCut ↔ P))
    (relative : String) (lastIf : Option Bool) :
    (Plan.ofNode s node.opened relative scope depth lastIf).IsCut ↔ P := by
  obtain ⟨name, hname⟩ := exists_accepted_plain (scope.environment s.today)
  cases node with
  | folder raw children attributes =>
      simp only [Node.opened, Plan.ofNode, hdepth, ↓reduceIte, hname, Plan.isCut_folder]
      exact hinside _ scope hscope
  | file f =>
      simp only [Node.opened, Plan.ofNode, hdepth, ↓reduceIte, hname]
      exact hinside relative scope hscope
  | branch condition children | otherwise children =>
      simp only [Node.opened, Plan.ofNode, hdepth, ↓reduceIte, hscope, Plan.isCut_group]
      exact hinside _ scope hscope
  | loop count item children =>
      simp only [Node.opened, Plan.ofNode, hdepth, ↓reduceIte, readLoop_once hrepeat]
      rw [Plan.isCut_report rfl, Plan.isCut_group, List.range_one, List.map_singleton,
        Plan.concat, Plan.concat, Plan.isCut_append, or_iff_left Plan.not_isCut_done]
      exact hinside relative _ (holds_roundScope hscope 0)

/-- **A walk that takes all of a tree** is stopped where a node goes beyond the greatest
depth. -/
theorem isCut_ofList_opened (hrepeat : 1 ≤ s.limits.maxRepeat) (nodes : List Node)
    (above : List Node) (hscope : Walk.holds scope "X") (relative : String)
    (lastIf : Option Bool) :
    (Plan.ofList s (Node.openedAll nodes) relative scope above.length lastIf).IsCut ↔
      ∃ site ∈ Node.listSites above nodes, s.limits.maxDepth < site.depth := by
  induction nodes using Node.siblings_induction generalizing above scope relative lastIf with
  | nil => exact iff_of_false Plan.not_isCut_done (by simp [Node.listSites])
  | cons node rest ihChildren ihRest =>
      rw [Node.openedAll, Plan.ofList, Plan.isCut_append, ihRest above hscope,
        Node.listSites_cons]
      simp only [List.mem_cons, List.mem_append, or_and_right, exists_or, exists_eq_left]
      rw [← or_assoc]
      refine or_congr_left ?_
      have hhere : Site.depth ⟨above, node⟩ = above.length := rfl
      rw [hhere]
      by_cases hdeep : s.limits.maxDepth < above.length
      · refine iff_of_true ?_ (.inl hdeep)
        rw [Plan.ofNode.eq_def, if_pos hdeep]
        exact ⟨_, List.mem_cons_self, rfl⟩
      · have hlength : (above ++ [node]).length = above.length + 1 := by simp
        rw [or_iff_right hdeep]
        refine isCut_ofNode_opened hrepeat hscope hdeep (fun relative scope hscope => ?_) _ _
        rw [← hlength]
        exact ihChildren (above ++ [node]) hscope relative none

end Opened

/-! ### Runs -/

/-- What is not more than some levels below a node is all that is below it. -/
lemma Node.cut_eq_self {levels : ℕ} {above : List Node} {node : Node}
    (h : ∀ site ∈ node.sites above, site.depth ≤ above.length + levels) :
    node.cut levels = node := by
  have hself : ∀ node : Node, node.withChildren node.children = node := by rintro ⟨⟩ <;> rfl
  induction levels generalizing above node with
  | zero =>
      have hnone : node.children = [] := by
        refine List.eq_nil_iff_forall_not_mem.mpr fun child hchild => ?_
        have hdepth := h ⟨above ++ [node], child⟩
          (mem_sites_of_mem_children hchild (sites_eq _ child ▸ List.mem_cons_self))
        rw [Site.depth, List.length_append, List.length_singleton] at hdepth
        omega
      rw [cut, ← hnone, hself]
  | succ levels ih =>
      have hcut : node.children.map (cut levels) = node.children := by
        refine (List.map_congr_left fun child hchild => ?_).trans (List.map_id _)
        have hbound : ∀ site ∈ child.sites (above ++ [node]),
            site.depth ≤ (above ++ [node]).length + levels := by
          intro site hsite
          have hdepth := h site (mem_sites_of_mem_children hchild hsite)
          rw [List.length_append, List.length_singleton]
          omega
        exact ih hbound
      rw [cut, hcut, hself]

/-- A plan whose reports of depth are left out does not complain of depth. -/
lemma Plan.mute_isTooDeep_complainsOf (p : Plan) :
    (p.mute Notice.isTooDeep).ComplainsOf (· ≠ .depth) := by
  induction p with
  | done => trivial
  | report notice next ih =>
      rw [Plan.mute]
      split_ifs with h
      · exact ih
      · refine ⟨?_, ih⟩
        rintro k hk rfl
        cases notice <;> simp_all [Notice.complaint?, Notice.isTooDeep]
  | refused kind next ih => exact ih
  | file name f env next ih => exact ⟨fun _ => by simp, ih⟩
  | folder name inside next ihInside ih | group label inside next ihInside ih =>
      exact ⟨ihInside, ih⟩

/-- The plan of a tree that stays within the greatest depth does not complain of depth. -/
lemma Plan.ofRoot_complainsOf_of_not_reaches {s : WalkSettings} {root : Node}
    (h : ¬ root.Reaches (s.limits.maxDepth + 1)) (scope : Scope) :
    (Plan.ofRoot s root scope).ComplainsOf (· ≠ .depth) := by
  have hbound : ∀ site ∈ root.sites [],
      site.depth ≤ ([] : List Node).length + s.limits.maxDepth := by
    intro site hsite
    by_contra hdeep
    exact h ⟨site, hsite, by simpa using hdeep⟩
  rw [← Node.cut_eq_self hbound, Plan.ofRoot_cut]
  exact Plan.mute_isTooDeep_complainsOf _

/-- A run that tells of the greatest depth has come to a node beyond it. -/
lemma reaches_of_isTold {σ : Type} (host : Host (StateM σ)) {s : CreateSettings}
    {t : Preview.Settings} (hlimits : t.limits = s.limits) {schema : Schema} {output : String}
    {scope : Scope} {st : σ}
    (h : IsTold ((create s schema output scope).on host st).1
      ((preview t schema output scope).on host st).1 "Maximum schema depth exceeded") :
    schema.root.Reaches (s.limits.maxDepth + 1) := by
  by_contra hshallow
  have hcreate := create_complains host
    (Plan.ofRoot_complainsOf_of_not_reaches hshallow scope) output st
  rw [← hlimits] at hshallow
  have hpreview := preview_complains host
    (Plan.ofRoot_complainsOf_of_not_reaches hshallow scope) output st
  rcases h with ⟨entry, hentry, hmade⟩ | ⟨warning, hwarning, hmade⟩
  · exact (hcreate entry hentry).complaints .depth hmade rfl
  · exact hpreview warning hwarning .depth hmade rfl

/-- **A check counts the lists in nodes, also those in which nothing is.** It reports the
greatest depth if and only if some node lies there or deeper. A walk is stopped only by a node
that lies deeper: one that takes all of a tree if and only if there is such a node, and any run
that tells of the greatest depth has come to one. So the two differ on a tree if and only if its
deepest nodes lie at the greatest depth, where a check reports what no run complains of. -/
theorem depth_check_counts_empty_lists (limits : Limits) (today : Calendar.Date) (given : Scope)
    (schema : Schema) :
    let reported := ∃ i ∈ (check limits today given schema).errors, i.kind = .depthExceeded
    (reported ↔ schema.root.Reaches limits.maxDepth) ∧
    (∀ scope, 1 ≤ limits.maxRepeat → Walk.holds scope "X" →
      ((∃ entry ∈ heard ⟨limits, today⟩ schema.root.opened scope, entry.IsTooDeep) ↔
        schema.root.Reaches (limits.maxDepth + 1))) ∧
    (∀ {σ : Type} (host : Host (StateM σ)) (s : CreateSettings) (t : Preview.Settings)
      (output : String) (scope : Scope) (st : σ), s.limits = limits → t.limits = limits →
      IsTold ((create s schema output scope).on host st).1
        ((preview t schema output scope).on host st).1 "Maximum schema depth exceeded" →
      schema.root.Reaches (limits.maxDepth + 1)) ∧
    (¬ (reported ↔ schema.root.Reaches (limits.maxDepth + 1)) ↔
      (∃ site ∈ schema.root.sites [], site.depth = limits.maxDepth) ∧
        ∀ site ∈ schema.root.sites [], site.depth ≤ limits.maxDepth) := by
  intro reported
  have hreported : reported ↔ schema.root.Reaches limits.maxDepth :=
    Check.reportsDepth_findings { limits, today, given } schema
  refine ⟨hreported, fun scope hrepeat hscope => ?_, fun host s t output scope st hs ht h => ?_, ?_⟩
  · have hopened := isCut_ofList_opened (s := ⟨limits, today⟩) hrepeat [schema.root] [] hscope ""
      none
    rw [Node.listSites, Node.listSites, List.append_nil] at hopened
    rw [exists_isTooDeep_heard]
    exact hopened
  · subst hs
    exact reaches_of_isTold host ht h
  · rw [hreported]
    constructor
    · intro hdiffer
      have hshallow : ¬ schema.root.Reaches (limits.maxDepth + 1) := fun hdeeper =>
        hdiffer (iff_of_true (hdeeper.imp fun _ h => ⟨h.1, by omega⟩) hdeeper)
      have hbound : ∀ site ∈ schema.root.sites [], site.depth ≤ limits.maxDepth :=
        fun site hsite => Nat.le_of_not_lt fun hdeep => hshallow ⟨site, hsite, hdeep⟩
      obtain ⟨site, hsite, hdepth⟩ := not_not.mp fun hno => hdiffer (iff_of_false hno hshallow)
      exact ⟨⟨site, hsite, le_antisymm (hbound site hsite) hdepth⟩, hbound⟩
    · rintro ⟨⟨site, hsite, hdepth⟩, hbound⟩ hsame
      obtain ⟨deep, hdeep, hlt⟩ := hsame.mp ⟨site, hsite, hdepth.ge⟩
      have := hbound deep hdeep
      omega

/-- A file at the greatest depth is reported, though nothing lies deeper. -/
theorem file_at_greatest_depth_reported :
    let limits : Limits := { maxDepth := 1 }
    let schema : Schema := { root := .folder "a" [.file { name := "b" }] ∅ }
    (check limits ⟨2024, 1, 1, by decide⟩ default schema).errors =
        [⟨.depthExceeded, "Schema nests deeper than 1 levels", some "a"⟩] ∧
      ¬ schema.root.Reaches (limits.maxDepth + 1) := by
  decide +kernel

/-- A repetition and an alternative whose bodies are at the greatest depth: a check reports
them, a walk that takes all of them is not stopped, and no run tells of the depth. -/
theorem depth_check_counts_empty_lists_of_groups :
    let limits : Limits := { maxDepth := 2 }
    let today : Calendar.Date := ⟨2024, 1, 1, by decide⟩
    let schema : Schema :=
      { root := .folder "a" [.loop "3" "k" [.file { name := "b" }], .otherwise []] ∅ }
    let scope := Scope.ofPairs [("X", "1")]
    let s : CreateSettings := { limits, today, equipment := {}, options := {} }
    let t : Preview.Settings := ⟨s.toWalkSettings, false⟩
    1 ≤ limits.maxRepeat ∧ Walk.holds scope "X" ∧ s.limits = limits ∧ t.limits = limits ∧
    (∃ i ∈ (check limits today default schema).errors, i.kind = .depthExceeded) ∧
    (¬ ∃ entry ∈ heard ⟨limits, today⟩ schema.root.opened scope, entry.IsTooDeep) ∧
    ¬ IsTold ((create s schema "out" scope).on (Memory.host {}) .empty).1
      ((preview t schema "out" scope).on (Memory.host {}) .empty).1
      "Maximum schema depth exceeded" := by
  intro limits today schema scope s t
  have hrepeat : 1 ≤ limits.maxRepeat := by decide
  have hscope : Walk.holds scope "X" := by decide
  have hdeep : schema.root.Reaches limits.maxDepth := by decide
  have hshallow : ¬ schema.root.Reaches (limits.maxDepth + 1) := by decide
  obtain ⟨hreported, hheard, htold, -⟩ := depth_check_counts_empty_lists limits today default schema
  exact ⟨hrepeat, hscope, rfl, rfl, hreported.mpr hdeep,
    fun h => hshallow ((hheard scope hrepeat hscope).mp h),
    fun h => hshallow (htold (Memory.host {}) s t "out" scope .empty rfl rfl h)⟩

end Scaffold

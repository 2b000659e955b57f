import Mathlib.Tactic
import Scaffold.Proofs.Agreement
import Scaffold.Proofs.Completion
import Scaffold.Proofs.SameText

/-!
A preview of what has been created.

* `Plan.found_of_mem_sights`: where something is in the place of each visit, a run that only
  looks finds something wherever it comes;
* `PreviewNode.IsSettled`: a node shows no differences. `visitFile_settles`: so it is with a
  file that holds its content, as a text that was written, read again and compared with itself;
* `perform_settles`: hence so it is with all nodes of a plan whose files hold their contents,
  by induction on the plan;
* `preview_after_create`: after creating there is nothing left to create, and where files were
  overwritten, none differs from what would be written.
-/

namespace Scaffold

open Scaffold.Path Variable

namespace Plan

/-- What is at a place is found there, unless a folder above is only planned. -/
lemma exists_seen {fs : Memory} (place : Cursor) (hplanned : place.isPlanned = false)
    (h : fs.slot? (components place.path) ≠ none) :
    ∃ entry, seen fs place = some entry ∧
      (entry.isFolder → ¬ fs.HasFile (components place.path)) := by
  rw [seen, if_neg (by simp [hplanned])]
  rcases fs.slot?_trichotomy (components place.path) with hs | hs | hs
  · exact absurd hs h
  · obtain ⟨size, hentry⟩ := Memory.entry_of_hasFile hs
    exact ⟨_, hentry, by simp [Entry.isFolder]⟩
  · exact ⟨_, Memory.entry_of_folder hs, fun _ hfile => hfile.ne_folder hs⟩

/-- **Something is found wherever a run comes** that only looks, if something is in the place
of each visit: then no folder is only planned. -/
theorem found_of_mem_sights {fs : Memory} {p : Plan} {place : Cursor}
    (hplanned : place.isPlanned = false)
    (h : ∀ v ∈ p.visits fs place.path place.relative, fs.slot? v.key ≠ none) :
    ∀ v ∈ p.sights fs place, v.found ≠ none := by
  induction p generalizing place with
  | done => simp [sights]
  | report notice next ih => exact ih hplanned h
  | refused kind next ih => exact ih hplanned h
  | file name f env next ih =>
      obtain ⟨hhere, hrest⟩ := List.forall_mem_cons.mp h
      obtain ⟨entry, hentry, -⟩ := exists_seen (place.descend name) hplanned hhere
      exact List.forall_mem_cons.mpr ⟨by simp [hentry], ih hplanned hrest⟩
  | folder name inside next ihInside ih =>
      have hhere := h _ (mem_visits_folder fs place name inside next)
      obtain ⟨entry, hentry, hopen⟩ := exists_seen (place.descend name) hplanned hhere
      rw [visits_folder_append] at h
      have hnext := ih hplanned fun v hv => h v (List.mem_append_right _ hv)
      simp only [sights, hentry, Option.all_some, Option.isNone_some]
      refine List.forall_mem_cons.mpr ⟨by simp, List.forall_mem_append.mpr ⟨?_, hnext⟩⟩
      split_ifs with hfolder
      · rw [visits_folder_done (hopen hfolder)] at h
        refine ihInside (by simp [Cursor.descend, hplanned]) fun v hv => h v ?_
        exact List.mem_append_left _ (List.mem_append_right _ hv)
      · simp
  | group label inside next ihInside ih =>
      refine List.forall_mem_append.mpr ⟨?_, ?_⟩
      · exact ihInside hplanned fun v hv => h v (List.mem_append_left _ hv)
      · exact ih hplanned fun v hv => h v (List.mem_append_right _ hv)

end Plan

/-- What is found is not created. -/
lemma Sight.tally_create_eq_zero {overwrite : Bool} {sights : List Sight}
    (h : ∀ v ∈ sights, v.found ≠ none) : tally (action overwrite) sights .create = 0 := by
  refine List.countP_eq_zero.mpr fun v hv => ?_
  obtain ⟨entry, hentry⟩ := Option.ne_none_iff_exists'.mp (h v hv)
  cases hfile : v.file with
  | none => cases hfolder : entry.isFolder <;> simp [action, hfile, hentry, hfolder]
  | some file =>
      cases hfolder : entry.isFolder <;> cases overwrite <;>
        simp [action, hfile, hentry, hfolder]

/-! ### Differences -/

namespace PreviewNode

/-- A node shows no differences, if it shows how anything differs at all. -/
def IsSettled (node : PreviewNode) : Prop :=
  ∀ hunks, node.hunks = some hunks → hunks = []

/-- All nodes of some trees show no differences. -/
def AllSettled (trees : List PreviewNode) : Prop :=
  ∀ node ∈ nodesIn trees, node.IsSettled

lemma allSettled_nil : AllSettled [] := fun _ hnode => absurd hnode List.not_mem_nil

lemma AllSettled.append {trees trees' : List PreviewNode} (h : AllSettled trees)
    (h' : AllSettled trees') : AllSettled (trees ++ trees') := by
  rw [AllSettled, nodesIn_append]
  exact List.forall_mem_append.mpr ⟨h, h'⟩

/-- A node without differences, above trees without differences. -/
lemma AllSettled.node {trees : List PreviewNode} {node : PreviewNode} (h : AllSettled trees)
    (hnode : node.IsSettled) (hchildren : node.children = trees) : AllSettled [node] := by
  cases node
  subst hchildren
  rw [AllSettled, nodesIn, nodesIn, List.append_nil, nodes]
  exact List.forall_mem_cons.mpr ⟨hnode, h⟩

lemma isSettled_of_none {node : PreviewNode} (h : node.hunks = none) : node.IsSettled := by
  simp [IsSettled, h]

end PreviewNode

namespace Preview

open PreviewNode

/-- The root of a tree shows no differences if the trees below it do not. -/
lemma allSettled_rootOf {trees : List PreviewNode} (h : AllSettled trees) :
    AllSettled [rootOf trees] := by
  unfold rootOf
  split
  · exact h
  · exact h.node (isSettled_of_none rfl) rfl

/-! ### Files -/

section Files

variable {s : Settings} {place : Cursor} {fs : Memory} {f : FileNode} {env : Environment}
  {node : PreviewNode} {text : Option String} {t : PreviewSummary}

/-- What a file is described by: no differences yet, and a text that is in the schema. -/
structure Described (f : FileNode) (env : Environment) (node : PreviewNode)
    (text : Option String) : Prop where
  hunks : node.hunks = none
  children : node.children = []
  text : ∀ new, text = some new →
    ∃ content, f.source = .inline content ∧ new = (renderContent env f.isTemplate
      (content.getD "")).1

/-- Nothing but the text in the schema is told of a file that is described. -/
lemma silent_describe_text (hhunks : node.hunks = none) (hchildren : node.children = []) :
    Silent (describe s f place env node) fun r => Described f env r.1 r.2 := by
  unfold describe
  split
  · dsimp only
    split
    · exact (silent_warn _).bind fun _ _ => keeps_pure ⟨hhunks, hchildren, by simp⟩
    · exact keeps_pure ⟨hhunks, hchildren, by simp⟩
  · exact keeps_pure ⟨hhunks, hchildren, by simp⟩
  · rename_i content hsource
    have htext : ∀ new, some (renderContent env f.isTemplate (content.getD "")).1 = some new →
        ∃ content, f.source = .inline content ∧
          new = (renderContent env f.isTemplate (content.getD "")).1 :=
      fun new hnew => ⟨content, hsource, (Option.some.inj hnew).symm⟩
    dsimp only
    split
    · exact (silent_warn _).bind fun _ _ => keeps_pure ⟨hhunks, hchildren, htext⟩
    · exact keeps_pure ⟨hhunks, hchildren, htext⟩

/-- **A file does not differ** from the text that it holds. -/
theorem compare_settles (size : ℕ) (hnode : Described f env node text)
    (hwritten : Visit.IsWritten fs ⟨place.path, place.shown, some (f, env)⟩) :
    Ensures Memory.answering (compare s size place text node) t fs fun node' _ fs' =>
      fs' = fs ∧ node'.IsSettled ∧ node'.children = [] := by
  have hsame : node.IsSettled ∧ node.children = [] :=
    ⟨isSettled_of_none hnode.hunks, hnode.children⟩
  unfold compare
  split_ifs
  · exact ensures_pure.mpr ⟨rfl, hsame⟩
  rw [ensures_bind, Memory.ensures_call_iff (by simp [Call.path?])]
  simp only [Memory.answer, Memory.read]
  cases hbytes : fs.bytes? place.path with
  | none =>
      refine ((silent_warn _).bind fun _ _ => keeps_pure (Q := (· = node)) rfl) t fs |>.mono ?_
      rintro node' t' fs' ⟨rfl, -, hfs⟩
      exact ⟨hfs, hsame⟩
  | some bytes =>
      dsimp only
      split_ifs
      · exact ensures_pure.mpr ⟨rfl, hsame⟩
      refine ensures_pure.mpr ⟨rfl, fun hunks hhunks => ?_, hnode.children⟩
      obtain ⟨new, hnew, rfl⟩ := Option.map_eq_some_iff.mp hhunks
      obtain ⟨content, hsource, rfl⟩ := hnode.text new hnew
      obtain ⟨spelling, hslot⟩ : ∃ spelling,
          fs.slot? (components place.path) = some (.file spelling bytes) := by
        unfold Memory.bytes? at hbytes
        split at hbytes
        · rename_i spelling bytes' hslot
          exact ⟨spelling, by rw [hslot, Option.some.inj hbytes]⟩
        · simp at hbytes
      rw [hwritten f env content spelling bytes rfl hsource hslot, Text.ofBytes_toUTF8,
        Diff.hunks_self]

/-- A file is judged without differences, if what is compared shows none. -/
lemma judge_settles {name : String} {action : PreviewAction}
    {finish : PreviewNode × Option String → PreviewM PreviewNode}
    (hfinish : ∀ r t, Described f env r.1 r.2 → Ensures Memory.answering (finish r) t fs
      fun node _ fs' => fs' = fs ∧ node.IsSettled ∧ node.children = []) :
    Ensures Memory.answering
      (do
        count action
        let r ← describe s f place env { kind := .file, name, path := place.shown, action }
        finish r) t fs fun node _ fs' => fs' = fs ∧ AllSettled [node] := by
  rw [ensures_bind]
  refine (count_ensures action).mono ?_
  rintro _ t₁ fs₁ ⟨-, -, hfs₁⟩
  subst hfs₁
  rw [ensures_bind]
  refine (silent_describe_text rfl rfl t₁ fs₁).mono ?_
  rintro r t₂ fs₂ ⟨hr, -, hfs₂⟩
  subst hfs₂
  refine (hfinish r t₂ hr).mono ?_
  rintro node t₃ fs₃ ⟨hfs₃, hsettled, hchildren⟩
  exact ⟨hfs₃, allSettled_nil.node hsettled hchildren⟩

/-- **The visit of a file** shows no differences, if the file holds its content. -/
theorem visitFile_settles {name : String}
    (hplanned : place.isPlanned → fs.slot? (components place.path) = none)
    (hwritten : Visit.IsWritten fs ⟨place.path, place.shown, some (f, env)⟩) :
    Ensures Memory.answering (visitFile s name f place env) t fs fun node _ fs' =>
      fs' = fs ∧ AllSettled node.toList := by
  rw [visitFile, ensures_bind]
  refine (look_ensures hplanned t).mono ?_
  rintro existing t₁ fs₁ ⟨hfound, ht, hfs⟩
  subst hfound ht hfs
  split_ifs with hfolder
  · refine ((silent_warn _).bind fun _ _ => keeps_pure (Q := (· = none)) rfl) t₁ fs₁ |>.mono ?_
    rintro node t' fs' ⟨rfl, -, hfs⟩
    exact ⟨hfs, allSettled_nil⟩
  · rw [ensures_bind]
    refine (judge_settles fun r t₂ hr => ?_).mono fun node t' fs' h => ensures_pure.mpr h
    dsimp only
    split
    · exact compare_settles _ hr hwritten
    · exact ensures_pure.mpr ⟨rfl, isSettled_of_none hr.hunks, hr.children⟩

end Files

/-! ### Plans -/

section Plans

variable {s : Settings} {fs : Memory}

/-- The trees that a program comes to show no differences, and the files are left alone. -/
def Settles {α : Type} (fs : Memory) (trees : α → List PreviewNode) (x : PreviewM α) : Prop :=
  ∀ t, Ensures Memory.answering x t fs fun a _ fs' => fs' = fs ∧ AllSettled (trees a)

/-- One visit and then the rest of a plan. -/
lemma Settles.andThen {x : PreviewM (Option PreviewNode)} {rest : PreviewM (List PreviewNode)}
    (hx : Settles fs Option.toList x) (hrest : Settles fs id rest) :
    Settles fs id (do let node ← x; let trees ← rest; pure (node.toList ++ trees)) := by
  intro t
  refine ensures_items.mpr ((hx t).mono ?_)
  rintro node t' _ ⟨rfl, hnode⟩
  refine (hrest t').mono ?_
  rintro trees t'' _ ⟨rfl, htrees⟩
  exact ⟨rfl, hnode.append htrees⟩

/-- **The visit of a folder** shows no differences, if there are none in it. -/
theorem openFolder_settles (hfs : fs.Tidy) {place : Cursor} (h : Planned fs place)
    {name : AcceptedName} {inside : Plan} {walkChildren : Cursor → PreviewM (List PreviewNode)}
    (hwritten : ∀ v ∈ (Plan.folder name inside .done).visits fs place.path place.relative,
      v.IsWritten fs)
    (hinside : ∀ inner, Planned fs inner →
      (∀ v ∈ inside.visits fs inner.path inner.relative, v.IsWritten fs) →
      Settles fs id (walkChildren inner)) :
    Settles fs Option.toList (Plan.openFolder (visitor s) name place walkChildren) := by
  intro t
  have hhere := h.descend hfs name
  rw [Plan.openFolder, ensures_bind]
  refine (enterFolder_ensures (s := s) hhere t).mono ?_
  rintro opened t₁ fs₁ ⟨rfl, -, hopened⟩
  rcases hopened with ⟨rfl, -⟩ | ⟨action, isPlanned, rfl, hnofile, hplan, -⟩
  · exact ensures_pure.mpr ⟨rfl, allSettled_nil⟩
  · rw [Plan.visits_folder_done hnofile] at hwritten
    have hinner : Planned fs₁ { place.descend name with
        isPlanned := (place.descend name).isPlanned || isPlanned } := by
      intro hor
      rcases (Bool.or_eq_true _ _).mp hor with hp | hp
      · exact hhere hp
      · exact ⟨Cursor.components_descend_ne_nil place name, hplan hp⟩
    dsimp only
    rw [ensures_bind]
    refine (hinside _ hinner (fun v hv => hwritten v (List.mem_append_right _ hv)) t₁).mono ?_
    rintro trees t₂ _ ⟨rfl, htrees⟩
    dsimp only [visitor, leaveFolder]
    rw [ensures_bind]
    refine (count_ensures action).mono ?_
    rintro _ t₃ _ ⟨-, -, rfl⟩
    exact ensures_pure.mpr ⟨rfl, htrees.node (isSettled_of_none rfl) rfl⟩

/-- **A plan that is performed** shows no differences, if all its files hold their contents. -/
theorem perform_settles (hfs : fs.Tidy) (p : Plan) {place : Cursor} (h : Planned fs place)
    (hwritten : ∀ v ∈ p.visits fs place.path place.relative, v.IsWritten fs) :
    Settles fs id (p.perform (visitor s) place) := by
  induction p generalizing place with
  | done => exact fun t => ensures_pure.mpr ⟨rfl, allSettled_nil⟩
  | report notice next ih =>
      intro t
      rw [Plan.perform, ensures_bind]
      refine (silent_report _ t fs).mono ?_
      rintro _ t' _ ⟨-, -, rfl⟩
      exact ih h hwritten t'
  | refused kind next ih =>
      refine Settles.andThen (fun t => ensures_pure.mpr ⟨rfl, ?_⟩) (ih h hwritten)
      exact allSettled_nil.node (isSettled_of_none rfl) rfl
  | file name f env next ih =>
      obtain ⟨hhere, hrest⟩ := List.forall_mem_cons.mp hwritten
      have hplan := fun hp => (h.descend hfs name hp).2
      exact Settles.andThen (fun t => visitFile_settles hplan hhere) (ih h hrest)
  | folder name inside next ihInside ih =>
      rw [Plan.visits_folder_append] at hwritten
      obtain ⟨hhere, hrest⟩ := List.forall_mem_append.mp hwritten
      exact Settles.andThen (openFolder_settles hfs h hhere fun inner hinner => ihInside hinner)
        (ih h hrest)
  | group label inside next ihInside ih =>
      obtain ⟨hinside, hrest⟩ := List.forall_mem_append.mp hwritten
      intro t
      rw [Plan.perform, ensures_bind]
      refine (ihInside h hinside t).mono ?_
      rintro children t' _ ⟨rfl, hchildren⟩
      refine Settles.andThen (fun t'' => ?_) (ih h hrest) t'
      dsimp only [visitor, Preview.group]
      split_ifs
      · exact ensures_pure.mpr ⟨rfl, allSettled_nil⟩
      · exact ensures_pure.mpr ⟨rfl, hchildren.node (isSettled_of_none rfl) rfl⟩

/-- A preview of files that hold their contents shows no differences. -/
theorem preview_ensures_settled (hfs : fs.Tidy) (s : Settings) (schema : Schema)
    (output : String) (scope : Scope)
    (hwritten : ∀ v ∈ s.visits schema output scope fs, v.IsWritten fs) :
    (preview s schema output scope).Ensures Memory.answering (fun p _ =>
      ∀ node ∈ p.root.nodes, node.IsSettled) fs := by
  have hstart : Planned fs { path := output } := fun hplan => absurd hplan (by simp)
  rw [preview, walk_eq_perform, ensures_run]
  refine (perform_settles hfs _ hstart hwritten _).mono ?_
  rintro trees t fs' ⟨-, hsettled⟩
  have hroot := allSettled_rootOf hsettled
  rw [AllSettled, nodesIn, nodesIn, List.append_nil] at hroot
  exact hroot

end Plans

end Preview

/-! ### After creating -/

/-- **After creating, nothing is left to do.** Let a run create in a folder that is there. A
preview of what it has left has nothing to create, if the contents of all files that are
visited are in the schema. If files were overwritten and no place is visited twice, nothing
that is there differs from what would be written. -/
theorem preview_after_create {s : CreateSettings} (hdry : s.options.dryRun = false)
    (hhooks : s.options.runHooks = false) (outside : Outside) (schema : Schema)
    (output : String) (scope : Scope) {before : Memory} (hbefore : before.Reachable)
    (houtput : before.isFolder output) :
    ∃ c after, (create s schema output scope).on (Memory.host outside) before = (c, after) ∧
      ∀ overwrite, ∃ p,
        (preview ⟨s.toWalkSettings, overwrite⟩ schema output scope).on (Memory.host outside)
          after = (p, after) ∧
        ((∀ v ∈ s.visits schema output scope after, v.IsInline) → p.summary.creates = 0) ∧
        (s.options.overwrite → ((s.visits schema output scope after).map Visit.key).Nodup →
          ∀ node ∈ p.root.nodes, ∀ hunks, node.hunks = some hunks → hunks = []) := by
  have hdone := Creation.create_completes hdry hhooks outside schema scope hbefore.tidy
    (of_decide_eq_true houtput)
  rcases hcreate : (create s schema output scope).on (Memory.host outside) before with ⟨c, after⟩
  rw [hcreate] at hdone
  refine ⟨c, after, rfl, fun overwrite => ?_⟩
  have hhost : (Memory.host outside).Within id Memory.answering := Memory.host_within outside
  have htells := hhost.on (s := after) (Preview.preview_ensures_tells hdone.tidy
    ⟨s.toWalkSettings, overwrite⟩ schema output scope)
  have hcounts := hhost.on (s := after) (Preview.ensures_counts ⟨s.toWalkSettings, overwrite⟩
    schema output scope)
  have hsettled := fun hwritten => hhost.on (s := after) (Preview.preview_ensures_settled
    hdone.tidy ⟨s.toWalkSettings, overwrite⟩ schema output scope hwritten)
  rcases hpreview : (preview ⟨s.toWalkSettings, overwrite⟩ schema output scope).on
    (Memory.host outside) after with ⟨p, seen⟩
  rw [hpreview] at htells hcounts hsettled
  obtain rfl : seen = after := htells.1
  refine ⟨p, rfl, fun hinline => ?_, fun hoverwrite hdistinct => ?_⟩
  · have hfound : ∀ v ∈ s.sights schema output scope seen, v.found ≠ none :=
      Plan.found_of_mem_sights rfl fun v hv => hdone.there _ (.refl _) v hv (hinline v hv)
    calc p.summary.creates
        = Sight.tally (Sight.action overwrite)
            (s.sights schema output scope seen) .create := congrFun hcounts .create
      _ = 0 := Sight.tally_create_eq_zero hfound
  · exact hsettled fun v hv => hdone.written hoverwrite _ (.refl _) hdistinct v hv

/-- A file is overwritten and another one is made beside it; a preview finds both as they
should be. -/
theorem preview_after_create_of_files :
    let s : CreateSettings :=
      { limits := {}, today := ⟨2024, 1, 1, by decide⟩, equipment := {}
        options := { overwrite := true } }
    let file : String → FileNode := fun name => { name, content := some "new" }
    let schema : Schema := { root := .folder "a" [.file (file "b"), .file (file "c")] ∅ }
    let before := (Memory.write (Memory.empty.makeFolder "out/a").2 "out/a/b" "old".toUTF8).2
    s.options.dryRun = false ∧ s.options.runHooks = false ∧ before.Reachable ∧
    before.isFolder "out" ∧
    ∃ c after, (create s schema "out" default).on (Memory.host {}) before = (c, after) ∧
      ∀ overwrite, ∃ p,
        (preview ⟨s.toWalkSettings, overwrite⟩ schema "out" default).on (Memory.host {}) after =
          (p, after) ∧
        p.summary.creates = 0 ∧
        ∀ node ∈ p.root.nodes, ∀ hunks, node.hunks = some hunks → hunks = [] := by
  intro s file schema before
  have hbefore : before.Reachable :=
    .call {} (.write "out/a/b" "old".toUTF8) (.call {} (.makeFolder "out/a") .empty)
  have houtput : before.isFolder "out" := by decide +kernel
  obtain ⟨c, after, hcreate, hpreview⟩ :=
    preview_after_create (s := s) rfl rfl {} schema "out" default hbefore houtput
  have hfolder : after.slot? (components "out/a") = some .folder := by
    have hslot : ((create s schema "out" default).on (Memory.host {}) before).2.slot?
        (components "out/a") = some .folder := by decide +kernel
    rwa [hcreate] at hslot
  have ha : ∀ env, substitute env "a" = "a" := fun _ => substitute_of_not_mem (by decide)
  have hb : ∀ env, substitute env "b" = "b" := fun _ => substitute_of_not_mem (by decide)
  have hc : ∀ env, substitute env "c" = "c" := fun _ => substitute_of_not_mem (by decide)
  have hvisits : s.visits schema "out" default after =
      [⟨"out/a", "a", none⟩, ⟨"out/a/b", "a/b", some (file "b", Scope.environment default s.today)⟩,
        ⟨"out/a/c", "a/c", some (file "c", Scope.environment default s.today)⟩] := by
    have hnofile : ¬ after.HasFile (components (join "out" "a")) := fun hfile =>
      hfile.ne_folder hfolder
    simp only [WalkSettings.visits, Plan.ofRoot, Plan.ofList, Plan.ofNode, schema, file, ha, hb, hc]
    exact Plan.visits_folder_of_not_hasFile hnofile
  refine ⟨rfl, rfl, hbefore, houtput, c, after, hcreate, fun overwrite => ?_⟩
  obtain ⟨p, hrun, hcreates, hsettled⟩ := hpreview overwrite
  rw [hvisits] at hcreates hsettled
  refine ⟨p, hrun, hcreates fun v hv f env hfile => ?_, hsettled rfl (by decide)⟩
  simp only [List.mem_cons, List.not_mem_nil, or_false] at hv
  rcases hv with rfl | rfl | rfl
  · exact absurd hfile (by simp)
  · obtain ⟨rfl, rfl⟩ := Prod.mk.inj (Option.some.inj hfile)
    exact ⟨_, rfl⟩
  · obtain ⟨rfl, rfl⟩ := Prod.mk.inj (Option.some.inj hfile)
    exact ⟨_, rfl⟩

end Scaffold

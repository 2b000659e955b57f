import Mathlib.Tactic
import Scaffold.Proofs.Forecast
import Scaffold.Proofs.Perform

/-!
What a preview tells of the visits of a plan.

* `PreviewNode.changes` lists the nodes of a tree that are created or overwritten, in
  pre-order;
* `Preview.Tells`: some nodes tell of some visits. They have a node for each visit that
  changes something, in order, and the counts of a summary go up by the others;
* `visitFile_tells` and `openFolder_tells`: each visit is told of, also below a folder
  that is only planned, where nothing is looked at;
* `perform_tells`: hence all visits of a plan are told of, by induction on the plan;
* `preview_ensures_tells`: a preview tells of all visits of its schema, as they are
  foreseen on the file system that it sees, and leaves that file system as it is.
-/

namespace Scaffold

open Scaffold.Path Variable

namespace PreviewNode

mutual

/-- The nodes of a tree, in pre-order. -/
def nodes (node : PreviewNode) : List PreviewNode :=
  match node with
  | ⟨kind, name, path, action, old, new, hunks, url, isBinary, children⟩ =>
    ⟨kind, name, path, action, old, new, hunks, url, isBinary, children⟩ :: nodesIn children

/-- The nodes of some trees, in pre-order. -/
def nodesIn : List PreviewNode → List PreviewNode
  | [] => []
  | node :: rest => node.nodes ++ nodesIn rest

end

/-- Whether a node is created or overwritten. -/
def isChange (node : PreviewNode) : Bool :=
  node.action = .create || node.action = .overwrite

/-- The nodes of some trees that are created or overwritten, in pre-order. -/
def changesIn (trees : List PreviewNode) : List PreviewNode :=
  (nodesIn trees).filter isChange

/-- The nodes of a tree that are created or overwritten, in pre-order. -/
def changes (node : PreviewNode) : List PreviewNode :=
  node.nodes.filter isChange

lemma nodesIn_append (a b : List PreviewNode) : nodesIn (a ++ b) = nodesIn a ++ nodesIn b := by
  induction a with
  | nil => rfl
  | cons node rest ih => simp [nodesIn, ih]

lemma changesIn_append (a b : List PreviewNode) :
    changesIn (a ++ b) = changesIn a ++ changesIn b := by
  rw [changesIn, nodesIn_append, List.filter_append]
  rfl

lemma changes_eq (node : PreviewNode) :
    node.changes = [node].filter isChange ++ changesIn node.children := by
  cases node
  rw [changes, nodes, changesIn, ← List.filter_append]
  rfl

lemma changesIn_singleton (node : PreviewNode) : changesIn [node] = node.changes := by
  rw [changesIn, nodesIn, nodesIn, List.append_nil]
  rfl

end PreviewNode

/-- The root of a tree changes what the trees below it change. -/
lemma Preview.changes_rootOf (trees : List PreviewNode) :
    (rootOf trees).changes = PreviewNode.changesIn trees := by
  unfold rootOf
  split
  · rw [PreviewNode.changesIn_singleton]
  · rw [PreviewNode.changes_eq]
    rfl

namespace Preview

/-! ### Trees and visits -/

/-- A node tells the text of a file in full, if it is short enough. -/
def TellsText (s : Settings) (f : FileNode) (env : Environment) (node : PreviewNode) : Prop :=
  ∀ content, f.source = .inline content →
    (renderContent env f.isTemplate (content.getD "")).1.length ≤ s.limits.maxDiffContent →
    node.newContent = some (renderContent env f.isTemplate (content.getD "")).1

/-- A node tells of a visit. -/
structure Shows (s : Settings) (fs : Memory) (node : PreviewNode) (v : Visit) : Prop where
  kind : node.kind = v.kind
  path : node.path = v.shown
  action : v.action s.overwrite fs = some node.action
  text : ∀ f env, v.file = some (f, env) → TellsText s f env node

/-- Some trees tell of some visits, and the counts go up by those that change nothing. -/
structure Tells (s : Settings) (fs : Memory) (visits : List Visit) (t : PreviewSummary)
    (trees : List PreviewNode) (t' : PreviewSummary) : Prop where
  changes : List.Forall₂ (Shows s fs) (PreviewNode.changesIn trees)
    (visits.filter (·.isChange s.overwrite fs))
  skips : t'.skips = t.skips + visits.countP (·.action s.overwrite fs = some .skip)
  found : t'.unchangedFolders =
    t.unchangedFolders + visits.countP (·.action s.overwrite fs = some .unchanged)

/-- Nothing was counted in between. -/
structure Uncounted (t t' : PreviewSummary) : Prop where
  skips : t'.skips = t.skips
  found : t'.unchangedFolders = t.unchangedFolders

section Tells

variable {s : Settings} {fs : Memory} {t t' t'' : PreviewSummary}

lemma Uncounted.refl (t : PreviewSummary) : Uncounted t t := ⟨rfl, rfl⟩

lemma Uncounted.trans (h : Uncounted t t') (h' : Uncounted t' t'') : Uncounted t t'' :=
  ⟨h'.skips.trans h.skips, h'.found.trans h.found⟩

lemma Tells.nil (h : Uncounted t t') : Tells s fs [] t [] t' :=
  ⟨.nil, by simp [h.skips], by simp [h.found]⟩

lemma Uncounted.tells {visits : List Visit} {trees : List PreviewNode} (h : Uncounted t t')
    (h' : Tells s fs visits t' trees t'') : Tells s fs visits t trees t'' :=
  ⟨h'.changes, by rw [h'.skips, h.skips], by rw [h'.found, h.found]⟩

lemma Tells.append {visits visits' : List Visit} {trees trees' : List PreviewNode}
    (h : Tells s fs visits t trees t') (h' : Tells s fs visits' t' trees' t'') :
    Tells s fs (visits ++ visits') t (trees ++ trees') t'' where
  changes := by
    rw [PreviewNode.changesIn_append, List.filter_append]
    exact List.rel_append h.changes h'.changes
  skips := by
    rw [h'.skips, h.skips, List.countP_append]
    omega
  found := by
    rw [h'.found, h.found, List.countP_append]
    omega

/-- Nothing is told of a visit of which nothing becomes. -/
lemma Tells.none {v : Visit} (hv : v.action s.overwrite fs = none) (h : Uncounted t t') :
    Tells s fs [v] t [] t' where
  changes := by simp [PreviewNode.changesIn, PreviewNode.nodesIn, Visit.isChange, hv]
  skips := by simp [hv, h.skips]
  found := by simp [hv, h.found]

/-- A group changes what is in it. -/
lemma Tells.group {visits : List Visit} {trees : List PreviewNode} {node : PreviewNode}
    (h : Tells s fs visits t trees t') (hnode : node.isChange = false)
    (hchildren : node.children = trees) : Tells s fs visits t [node] t' where
  changes := by
    rw [PreviewNode.changesIn_singleton, PreviewNode.changes_eq, hchildren]
    simpa [hnode] using h.changes
  skips := h.skips
  found := h.found

/-- A node tells of its visit when it is counted, and its children tell of theirs. -/
lemma Tells.node {v : Visit} {visits : List Visit} {trees : List PreviewNode}
    {node : PreviewNode} (h : Tells s fs visits t trees t') (hshows : Shows s fs node v)
    (hchildren : node.children = trees)
    (hskips : t''.skips = t'.skips + if node.action = .skip then 1 else 0)
    (hfound : t''.unchangedFolders =
      t'.unchangedFolders + if node.action = .unchanged then 1 else 0) :
    Tells s fs (v :: visits) t [node] t'' where
  changes := by
    have hchange : v.isChange s.overwrite fs = node.isChange := by
      rw [Visit.isChange, PreviewNode.isChange, hshows.action]
      simp
    rw [PreviewNode.changesIn_singleton, PreviewNode.changes_eq, hchildren, List.filter_cons,
      List.filter_cons, hchange]
    split_ifs
    · exact .cons hshows h.changes
    · exact h.changes
  skips := by
    rw [hskips, h.skips, List.countP_cons, hshows.action]
    simp only [Option.some.injEq, decide_eq_true_eq]
    omega
  found := by
    rw [hfound, h.found, List.countP_cons, hshows.action]
    simp only [Option.some.injEq, decide_eq_true_eq]
    omega

end Tells

/-! ### Files -/

instance : Std.Refl Uncounted := ⟨Uncounted.refl⟩

instance : IsTrans PreviewSummary Uncounted := ⟨fun _ _ _ => Uncounted.trans⟩

/-- A program leaves files alone and counts nothing; its result has some property. -/
abbrev Silent {α : Type} (x : PreviewM α) (Q : α → Prop) : Prop :=
  Keeps Memory.answering Uncounted x Q

lemma silent_warn (message : String) : Silent (warn message) fun _ => True :=
  keeps_modify fun _ => ⟨rfl, rfl⟩

lemma silent_report (entry : LogEntry) : Silent (report entry) fun _ => True := by
  unfold report
  split
  · exact silent_warn _
  · exact silent_warn _
  · exact keeps_pure trivial
  · exact keeps_pure trivial

/-- What is filled in of a node leaves alone where it stands and what is told of it. -/
structure FillsIn (node node' : PreviewNode) : Prop where
  kind : node'.kind = node.kind
  path : node'.path = node.path
  action : node'.action = node.action
  children : node'.children = node.children

lemma FillsIn.trans {a b c : PreviewNode} (h : FillsIn a b) (h' : FillsIn b c) : FillsIn a c :=
  ⟨h'.kind.trans h.kind, h'.path.trans h.path, h'.action.trans h.action,
    h'.children.trans h.children⟩

section Files

variable {s : Settings} {place : Cursor} {fs : Memory} {f : FileNode} {env : Environment}
  {node : PreviewNode} {t : PreviewSummary}

/-- A text that is short enough is filled in as it is. -/
lemma silent_describe :
    Silent (describe s f place env node) fun r => FillsIn node r.1 ∧ TellsText s f env r.1 := by
  unfold describe
  split
  · rename_i raw hsource
    dsimp only
    split
    · refine (silent_warn _).bind fun _ _ => keeps_pure ⟨⟨rfl, rfl, rfl, rfl⟩, ?_⟩
      simp [TellsText, hsource]
    · exact keeps_pure ⟨⟨rfl, rfl, rfl, rfl⟩, by simp [TellsText, hsource]⟩
  · rename_i kind config hsource
    exact keeps_pure ⟨⟨rfl, rfl, rfl, rfl⟩, by simp [TellsText, hsource]⟩
  · rename_i content hsource
    have hshort : ∀ content', f.source = .inline content' →
        (renderContent env f.isTemplate (content'.getD "")).1.length ≤ s.limits.maxDiffContent →
        some (Content.truncate (renderContent env f.isTemplate (content.getD "")).1
          s.limits.maxDiffContent) =
          some (renderContent env f.isTemplate (content'.getD "")).1 := by
      intro content' hcontent hlength
      obtain rfl : content = content' := by
        rw [hsource] at hcontent
        exact Source.inline.inj hcontent
      rw [Content.truncate, if_pos (by rwa [String.length_toList])]
    dsimp only
    split
    · exact (silent_warn _).bind fun _ _ => keeps_pure ⟨⟨rfl, rfl, rfl, rfl⟩, hshort⟩
    · exact keeps_pure ⟨⟨rfl, rfl, rfl, rfl⟩, hshort⟩

lemma silent_compare (size : Nat) (text : Option String) :
    Silent (compare s size place text node) fun node' =>
      FillsIn node node' ∧ node'.newContent = node.newContent := by
  intro t fs
  unfold compare
  split_ifs
  · exact ensures_pure.mpr ⟨⟨⟨rfl, rfl, rfl, rfl⟩, rfl⟩, .refl t, rfl⟩
  rw [ensures_bind, Memory.ensures_call_iff (by simp [Call.path?])]
  simp only [Memory.answer]
  split
  · refine ((silent_warn _).bind fun _ _ => keeps_pure ?_) t fs
    exact ⟨⟨rfl, rfl, rfl, rfl⟩, rfl⟩
  · split
    · exact ensures_pure.mpr ⟨⟨⟨rfl, rfl, rfl, rfl⟩, rfl⟩, .refl t, rfl⟩
    · exact ensures_pure.mpr ⟨⟨⟨rfl, rfl, rfl, rfl⟩, rfl⟩, .refl t, rfl⟩

/-- What is at a place that is not only planned is found; below a folder that is only
planned there is nothing. -/
lemma look_ensures (hplanned : place.isPlanned → fs.slot? (components place.path) = none)
    (t : PreviewSummary) :
    Ensures Memory.answering (look place) t fs fun found t' fs' =>
      found = fs.entry place.path ∧ t' = t ∧ fs' = fs := by
  unfold look
  split_ifs with hplan
  · exact ensures_pure.mpr ⟨(Memory.entry_of_none (hplanned hplan)).symm, rfl, rfl⟩
  · rw [ensures_bind, Memory.ensures_call_iff (by simp [Call.path?])]
    exact ensures_pure.mpr ⟨rfl, rfl, rfl⟩

/-- A node goes into one count. -/
lemma count_ensures (action : PreviewAction) :
    Ensures Memory.answering (count action) t fs fun _ t' fs' =>
      t'.skips = t.skips + (if action = .skip then 1 else 0) ∧
      t'.unchangedFolders = t.unchangedFolders + (if action = .unchanged then 1 else 0) ∧
      fs' = fs := by
  rw [count, ensures_modify]
  cases action <;> exact ⟨rfl, rfl, rfl⟩

/-- A file is told of when it has been counted, described, and perhaps compared. -/
lemma judge_tells {name : String} {action : PreviewAction}
    (haction : Visit.action s.overwrite fs ⟨place.path, place.shown, some (f, env)⟩ = some action)
    {finish : PreviewNode × Option String → PreviewM PreviewNode}
    (hfinish : ∀ r, Silent (finish r) fun node =>
      FillsIn r.1 node ∧ node.newContent = r.1.newContent) :
    Ensures Memory.answering
      (do
        count action
        let r ← describe s f place env { kind := .file, name, path := place.shown, action }
        finish r) t fs fun node t' fs' =>
      fs' = fs ∧ Tells s fs [⟨place.path, place.shown, some (f, env)⟩] t [node] t' := by
  rw [ensures_bind]
  refine (count_ensures action).mono ?_
  rintro _ t₁ fs₁ ⟨hskips, hfound, hfs₁⟩
  subst hfs₁
  have hrest : Silent
      (do
        let r ← describe s f place env { kind := .file, name, path := place.shown, action }
        finish r)
      fun node => FillsIn { kind := .file, name, path := place.shown, action } node ∧
        TellsText s f env node :=
    silent_describe.bind fun r hr => (hfinish r).mono fun node hnode =>
      ⟨hr.1.trans hnode.1, fun content hsource hshort =>
        hnode.2.trans (hr.2 content hsource hshort)⟩
  refine (hrest t₁ fs₁).mono ?_
  rintro node t₂ fs₂ ⟨⟨hfill, htext⟩, huncounted, hfs₂⟩
  refine ⟨hfs₂, ?_⟩
  have hshows : Shows s fs₁ node ⟨place.path, place.shown, some (f, env)⟩ := by
    refine ⟨hfill.kind, hfill.path, by rw [haction, hfill.action], fun f' env' hfile => ?_⟩
    obtain ⟨rfl, rfl⟩ := Prod.mk.inj (Option.some.inj hfile)
    exact htext
  refine (Tells.nil (.refl t)).node hshows hfill.children ?_ ?_
  · rw [huncounted.skips, hskips, hfill.action]
  · rw [huncounted.found, hfound, hfill.action]

/-- **The visit of a file** is told of. -/
theorem visitFile_tells {name : String}
    (hplanned : place.isPlanned → fs.slot? (components place.path) = none) :
    Ensures Memory.answering (visitFile s name f place env) t fs fun node t' fs' =>
      fs' = fs ∧ Tells s fs [⟨place.path, place.shown, some (f, env)⟩] t node.toList t' := by
  rw [visitFile, ensures_bind]
  refine (look_ensures hplanned t).mono ?_
  rintro existing t₁ fs₁ ⟨hfound, ht, hfs⟩
  subst hfound ht hfs
  have hkeep : ∀ r : PreviewNode × Option String, Silent (pure r.1 : PreviewM PreviewNode)
      fun node => FillsIn r.1 node ∧ node.newContent = r.1.newContent := fun r =>
    keeps_pure ⟨⟨rfl, rfl, rfl, rfl⟩, rfl⟩
  rcases fs₁.slot?_trichotomy (components place.path) with hs | hs | hs
  · simp only [Memory.entry_of_none hs, Option.any_none, Bool.false_eq_true, ↓reduceIte]
    rw [ensures_bind]
    exact (judge_tells (Visit.action_of_none hs) hkeep).mono fun node t' fs' h =>
      ensures_pure.mpr h
  · obtain ⟨size, hentry⟩ := Memory.entry_of_hasFile hs
    have haction : Visit.action s.overwrite fs₁ ⟨place.path, place.shown, some (f, env)⟩ = _ :=
      Visit.action_file_of_hasFile hs
    simp only [hentry, Option.any_some, Entry.isFolder, reduceCtorEq, decide_false,
      Bool.false_eq_true, ↓reduceIte]
    rw [ensures_bind]
    simp only [judgeFile]
    split_ifs at haction ⊢ with hoverwrite
    · exact (judge_tells haction fun r => silent_compare size r.2).mono fun node t' fs' h =>
        ensures_pure.mpr h
    · exact (judge_tells haction hkeep).mono fun node t' fs' h => ensures_pure.mpr h
  · simp only [Memory.entry_of_folder hs, Option.any_some, Entry.isFolder, decide_true,
      ↓reduceIte]
    refine ((silent_warn _).bind fun _ _ => keeps_pure (Q := (· = none)) rfl) t₁ fs₁ |>.mono ?_
    rintro node t' fs' ⟨rfl, huncounted, hfs⟩
    exact ⟨hfs, .none (Visit.action_file_of_folder hs) huncounted⟩

end Files

/-! ### Folders -/

/-- Below a folder that is only planned there is nothing. -/
def Planned (fs : Memory) (place : Cursor) : Prop :=
  place.isPlanned → components place.path ≠ [] ∧ fs.slot? (components place.path) = none

lemma Planned.descend {fs : Memory} (hfs : fs.Tidy) {place : Cursor} (h : Planned fs place)
    (name : AcceptedName) : Planned fs (place.descend name) := by
  intro hplan
  obtain ⟨hne, hnone⟩ := h hplan
  rw [Cursor.components_descend]
  exact ⟨by simp, hfs.below_eq_none hne (by simp) (by simp [hnone])⟩

section Folders

variable {s : Settings} {fs : Memory}

/-- A folder is opened unless a file is in its place. -/
lemma enterFolder_ensures {name : String} {place : Cursor} (h : Planned fs place)
    (t : PreviewSummary) :
    Ensures Memory.answering (enterFolder name place) t fs fun opened t' fs' =>
      fs' = fs ∧ Uncounted t t' ∧
      ((opened = none ∧ fs.HasFile (components place.path)) ∨
        ∃ action isPlanned, opened = some (⟨name, place.shown, action⟩, isPlanned) ∧
          ¬ fs.HasFile (components place.path) ∧
          (isPlanned → fs.slot? (components place.path) = none) ∧
          Visit.action s.overwrite fs ⟨place.path, place.shown, none⟩ = some action) := by
  rw [enterFolder, ensures_bind]
  refine (look_ensures (fun hplan => (h hplan).2) t).mono ?_
  rintro found t₁ fs₁ ⟨hfound, ht, hfs⟩
  subst hfound ht hfs
  rcases fs₁.slot?_trichotomy (components place.path) with hs | hs | hs
  · simp only [Memory.entry_of_none hs]
    refine ensures_pure.mpr ⟨rfl, .refl _, .inr ⟨_, _, rfl, ?_, fun _ => hs, ?_⟩⟩
    · exact fun hfile => hfile.ne_none hs
    · exact Visit.action_of_none hs
  · obtain ⟨size, hentry⟩ := Memory.entry_of_hasFile hs
    simp only [hentry, Entry.isFolder, reduceCtorEq, decide_false, Bool.false_eq_true, ↓reduceIte]
    refine ((silent_warn _).bind fun _ _ => keeps_pure (Q := (· = none)) rfl) t₁ fs₁ |>.mono ?_
    rintro opened t' fs' ⟨rfl, huncounted, hfs⟩
    exact ⟨hfs, huncounted, .inl ⟨rfl, hs⟩⟩
  · simp only [Memory.entry_of_folder hs, Entry.isFolder, decide_true, ↓reduceIte]
    refine ensures_pure.mpr ⟨rfl, .refl _, .inr ⟨_, _, rfl, ?_, by simp, ?_⟩⟩
    · exact fun hfile => hfile.ne_folder hs
    · exact Visit.action_folder_of_folder hs

/-- A folder is told of when its children have been. -/
lemma leaveFolder_tells {place : Cursor} {name : String} {action : PreviewAction}
    {visits : List Visit} {trees : List PreviewNode} {t t' : PreviewSummary}
    (haction : Visit.action s.overwrite fs ⟨place.path, place.shown, none⟩ = some action)
    (h : Tells s fs visits t trees t') :
    Ensures Memory.answering (leaveFolder ⟨name, place.shown, action⟩ trees) t' fs
      fun node t'' fs' => fs' = fs ∧
        Tells s fs (⟨place.path, place.shown, none⟩ :: visits) t node.toList t'' := by
  rw [leaveFolder, ensures_bind]
  refine (count_ensures action).mono ?_
  rintro _ t'' fs' ⟨hskips, hfound, hfs⟩
  exact ensures_pure.mpr ⟨hfs, h.node ⟨rfl, rfl, haction, by simp⟩ rfl hskips hfound⟩

/-- **The visit of a folder** is told of, with what is in it. -/
theorem openFolder_tells (hfs : fs.Tidy) {place : Cursor} (h : Planned fs place)
    {name : AcceptedName} {inside : Plan} {walkChildren : Cursor → PreviewM (List PreviewNode)}
    (hinside : ∀ inner t, Planned fs inner → inner.path = (place.descend name).path →
      inner.relative = (place.descend name).relative →
      Ensures Memory.answering (walkChildren inner) t fs fun trees t' fs' =>
        fs' = fs ∧ Tells s fs (inside.visits fs inner.path inner.relative) t trees t')
    (t : PreviewSummary) :
    Ensures Memory.answering (Plan.openFolder (visitor s) name place walkChildren) t fs
      fun node t' fs' => fs' = fs ∧
        Tells s fs ((Plan.folder name inside .done).visits fs place.path place.relative) t
          node.toList t' := by
  have hhere := h.descend hfs name
  rw [Plan.openFolder, ensures_bind]
  refine (enterFolder_ensures (s := s) hhere t).mono ?_
  rintro opened t₁ fs₁ ⟨rfl, huncounted, hopened⟩
  rcases hopened with ⟨rfl, hfile⟩ | ⟨action, isPlanned, rfl, hnofile, hplan, haction⟩
  · rw [Plan.visits_folder_of_hasFile hfile]
    exact ensures_pure.mpr ⟨rfl, .none (Visit.action_folder_of_hasFile hfile) huncounted⟩
  · rw [Plan.visits_folder_of_not_hasFile hnofile, Plan.visits_done, List.append_nil]
    have hinner : Planned fs₁ { place.descend name with
        isPlanned := (place.descend name).isPlanned || isPlanned } := by
      intro hor
      rcases (Bool.or_eq_true _ _).mp hor with hp | hp
      · exact hhere hp
      · refine ⟨?_, hplan hp⟩
        rw [Cursor.components_descend]
        simp
    dsimp only
    rw [ensures_bind]
    refine (hinside _ t₁ hinner rfl rfl).mono ?_
    rintro trees t₂ fs₂ ⟨hfs₂, htells⟩
    subst hfs₂
    exact leaveFolder_tells haction (huncounted.tells htells)

/-! ### Plans -/

/-- One visit and then the rest of a plan. -/
lemma andThen_tells {visits visits' : List Visit} {t₀ t : PreviewSummary}
    {x : PreviewM (Option PreviewNode)} {rest : PreviewM (List PreviewNode)}
    (hx : Ensures Memory.answering x t fs fun node t' fs' =>
      fs' = fs ∧ Tells s fs visits t₀ node.toList t')
    (hrest : ∀ t', Ensures Memory.answering rest t' fs fun trees t'' fs' =>
      fs' = fs ∧ Tells s fs visits' t' trees t'') :
    Ensures Memory.answering (do let node ← x; let trees ← rest; pure (node.toList ++ trees)) t fs
      fun trees t' fs' => fs' = fs ∧ Tells s fs (visits ++ visits') t₀ trees t' := by
  refine ensures_items.mpr (hx.mono ?_)
  rintro node t' fs' ⟨hfs', hnode⟩
  subst hfs'
  refine (hrest t').mono ?_
  rintro trees t'' fs'' ⟨hfs'', htrees⟩
  exact ⟨hfs'', hnode.append htrees⟩

/-- A plan is told of with all its visits, and the files are left as they are. -/
theorem perform_tells (hfs : fs.Tidy) (p : Plan) {place : Cursor} (h : Planned fs place)
    (t : PreviewSummary) :
    Ensures Memory.answering (p.perform (visitor s) place) t fs fun trees t' fs' =>
      fs' = fs ∧ Tells s fs (p.visits fs place.path place.relative) t trees t' := by
  induction p generalizing place t with
  | done => exact ensures_pure.mpr ⟨rfl, .nil (.refl t)⟩
  | report notice next ih =>
      rw [Plan.perform, ensures_bind]
      refine (silent_report _ t fs).mono ?_
      rintro _ t' fs' ⟨_, huncounted, hfs'⟩
      subst hfs'
      refine (ih h t').mono ?_
      rintro _ _ _ ⟨hfs'', htells⟩
      exact ⟨hfs'', huncounted.tells htells⟩
  | refused kind next ih =>
      have hnode : Ensures Memory.answering ((visitor s).invalidName kind place) t fs
          fun node t' fs' => fs' = fs ∧ Tells s fs [] t node.toList t' :=
        ensures_pure.mpr ⟨rfl, (Tells.nil (.refl t)).group rfl rfl⟩
      exact andThen_tells hnode fun t' => ih h t'
  | file name f env next ih =>
      have hplan := fun hp => (h.descend hfs name hp).2
      exact andThen_tells (visitFile_tells hplan) fun t' => ih h t'
  | folder name inside next ihInside ih =>
      rw [Plan.visits_folder_append]
      refine andThen_tells (openFolder_tells hfs h (fun inner t' hinner _ _ => ?_) t) fun t' => ih h t'
      exact ihInside hinner t'
  | group label inside next ihInside ih =>
      rw [Plan.perform, ensures_bind]
      refine (ihInside h t).mono ?_
      rintro children t' fs' ⟨hfs', hchildren⟩
      subst hfs'
      have hnode : Ensures Memory.answering ((visitor s).group label place children) t' fs'
          fun node t'' fs'' => fs'' = fs' ∧
            Tells s fs' (inside.visits fs' place.path place.relative) t node.toList t'' := by
        dsimp only [visitor, Preview.group]
        split_ifs with hempty
        · obtain rfl := List.isEmpty_iff.mp hempty
          exact ensures_pure.mpr ⟨rfl, hchildren⟩
        · exact ensures_pure.mpr ⟨rfl, hchildren.group rfl rfl⟩
      exact andThen_tells hnode fun t'' => ih h t''

end Folders

/-- **A preview** tells of all visits of its schema, and leaves the files as they are. -/
theorem preview_ensures_tells (hfs : fs.Tidy) (s : Settings) (schema : Schema) (output : String)
    (scope : Scope) :
    (preview s schema output scope).Ensures Memory.answering (fun p fs' =>
      fs' = fs ∧ Tells s fs (s.visits schema output scope fs) {} [p.root] p.summary) fs := by
  have hstart : Planned fs { path := output } := fun hplan => absurd hplan (by simp)
  rw [preview, walk_eq_perform, ensures_run]
  refine (perform_tells hfs _ hstart _).mono ?_
  rintro trees t fs' ⟨hfs', htells⟩
  refine ⟨hfs', ?_⟩
  refine ⟨?_, htells.skips, htells.found⟩
  rw [PreviewNode.changesIn_singleton, changes_rootOf]
  exact htells.changes

end Preview

end Scaffold

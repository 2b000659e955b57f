import Mathlib.Tactic
import Scaffold.Proofs.Creating
import Scaffold.Proofs.Previewing

/-!
A preview and the run that follows it.

* `Creation.Realizes`: between two states of a run that creates, some visits have become
  what was foreseen of them on the file system before the run. What is changed is
  recorded in order, and nothing else is changed;
* `Creation.Ready`: what visits still have ahead is as it was before the run, since
  visits come to different keys. So each visit finds what was foreseen, although the
  file system has changed in the meantime;
* `perform_fulfils`: a plan realizes its visits, by induction on the plan;
* `preview_matches_create`: a preview tells of the same visits, so it tells what the run
  then does.
-/

namespace Scaffold

open Scaffold.Path Variable

namespace Creation

/-- Some visits have become what was foreseen of them on the file system `before`. -/
structure Realizes (s : CreateSettings) (before : Memory) (visits : List Visit)
    (x y : Creation × Memory) : Prop where
  items : y.1.items.toList = x.1.items.toList ++
    (visits.filter (·.isChange s.options.overwrite before)).map (·.item s.options.overwrite before)
  skipped : y.1.summary.skipped = x.1.summary.skipped +
    visits.countP (·.action s.options.overwrite before = some .skip)
  found : y.1.foldersFound = x.1.foldersFound +
    visits.countP (·.action s.options.overwrite before = some .unchanged)
  tidy : y.2.Tidy
  kept : ∀ k, k ∉ visits.map Visit.key → y.2.slot? k = x.2.slot? k
  written : ∀ v ∈ visits, v.isChange s.options.overwrite before → ∀ f env,
    v.file = some (f, env) →
    ∃ spelling bytes, y.2.slot? v.key = some (.file spelling bytes) ∧ IsContent f env bytes

/-- The visits that are ahead come to different keys, and find there what was there
before. -/
structure Ready (s : CreateSettings) (before : Memory) (visits : List Visit) (place : Cursor)
    (fs : Memory) : Prop where
  tidy : fs.Tidy
  real : place.isPlanned = false
  here : fs.slot? (components place.path) = some .folder
  agrees : ∀ v ∈ visits, fs.slot? v.key = before.slot? v.key
  distinct : (visits.map Visit.key).Nodup
  supplied : ∀ v ∈ visits, ∀ f env, v.file = some (f, env) → Supplies s f env

section Realizes

variable {s : CreateSettings} {before fs gs : Memory} {visits visits' : List Visit}
  {place : Cursor} {c c' : Creation} {x y z : Creation × Memory}

lemma Realizes.nil (h : c.Same c') (hfs : fs.Tidy) :
    Realizes s before [] (c, fs) (c', fs) where
  items := by simp [h.items]
  skipped := by simp [h.skipped]
  found := by simp [h.found]
  tidy := hfs
  kept _ _ := rfl
  written := by simp

lemma Realizes.append (h : Realizes s before visits x y) (h' : Realizes s before visits' y z)
    (hdistinct : ((visits ++ visits').map Visit.key).Nodup) :
    Realizes s before (visits ++ visits') x z where
  items := by
    rw [h'.items, h.items, List.filter_append, List.map_append, List.append_assoc]
  skipped := by
    rw [h'.skipped, h.skipped, List.countP_append]
    omega
  found := by
    rw [h'.found, h.found, List.countP_append]
    omega
  tidy := h'.tidy
  kept k hk := by
    rw [List.map_append, List.mem_append, not_or] at hk
    exact (h'.kept k hk.2).trans (h.kept k hk.1)
  written v hv hchange f env hfile := by
    rcases List.mem_append.mp hv with hv | hv
    · -- what comes later comes to other keys
      obtain ⟨-, -, hlater, -⟩ := Visit.apart_of_nodup hdistinct
      rw [h'.kept _ (hlater v hv)]
      exact h.written v hv hchange f env hfile
    · exact h'.written v hv hchange f env hfile

lemma Same.realizes (hsame : c.Same c') (h : Realizes s before visits (c', fs) z) :
    Realizes s before visits (c, fs) z where
  items := h.items.trans (by rw [hsame.items])
  skipped := h.skipped.trans (by rw [hsame.skipped])
  found := h.found.trans (by rw [hsame.found])
  tidy := h.tidy
  kept := h.kept
  written := h.written

lemma Ready.left (h : Ready s before (visits ++ visits') place fs) :
    Ready s before visits place fs where
  tidy := h.tidy
  real := h.real
  here := h.here
  agrees v hv := h.agrees v (List.mem_append_left _ hv)
  distinct := (Visit.apart_of_nodup h.distinct).1
  supplied v hv := h.supplied v (List.mem_append_left _ hv)

/-- Visits that have been made leave alone what the others still have ahead. -/
lemma Ready.right (h : Ready s before (visits ++ visits') place fs)
    (hdone : Realizes s before visits (c, fs) (c', gs))
    (hplace : components place.path ∉ visits.map Visit.key) :
    Ready s before visits' place gs where
  tidy := hdone.tidy
  real := h.real
  here := (hdone.kept _ hplace).trans h.here
  agrees v hv := by
    obtain ⟨-, -, -, hearlier⟩ := Visit.apart_of_nodup h.distinct
    exact (hdone.kept _ (hearlier v hv)).trans (h.agrees v (List.mem_append_right _ hv))
  distinct := (Visit.apart_of_nodup h.distinct).2.1
  supplied v hv := h.supplied v (List.mem_append_right _ hv)

end Realizes

/-! ### Visits -/

section Visits

variable {s : CreateSettings} {before fs : Memory} {v : Visit} {action : PreviewAction}
  {place : Cursor} {f : FileNode} {env : Environment} {c c' : Creation} {x y : Creation × Memory}

/-- A visit that changes something is recorded. -/
lemma Realizes.changed (haction : v.action s.options.overwrite before = some action)
    (hchange : action = .create ∨ action = .overwrite)
    (hitems : y.1.items = x.1.items.push ⟨v.path, v.kind, action = .overwrite⟩)
    (hskipped : y.1.summary.skipped = x.1.summary.skipped)
    (hfound : y.1.foldersFound = x.1.foldersFound) (htidy : y.2.Tidy)
    (hkept : ∀ k, k ≠ v.key → y.2.slot? k = x.2.slot? k)
    (hwritten : ∀ f env, v.file = some (f, env) →
      ∃ spelling bytes, y.2.slot? v.key = some (.file spelling bytes) ∧ IsContent f env bytes) :
    Realizes s before [v] x y where
  items := by
    have hv : v.isChange s.options.overwrite before := by
      rcases hchange with rfl | rfl <;> simp [Visit.isChange, haction]
    simp [hitems, hv, Visit.item, haction]
  skipped := by rcases hchange with rfl | rfl <;> simp [haction, hskipped]
  found := by rcases hchange with rfl | rfl <;> simp [haction, hfound]
  tidy := htidy
  kept k hk := hkept k (by simpa using hk)
  written v' hv' _ f env hfile := by
    obtain rfl := List.mem_singleton.mp hv'
    exact hwritten f env hfile

/-- A visit that changes nothing is counted, or nothing becomes of it. -/
lemma Realizes.unchanged {action : Option PreviewAction}
    (haction : v.action s.options.overwrite before = action)
    (hchange : action ≠ some .create ∧ action ≠ some .overwrite) (hitems : c'.items = c.items)
    (hskipped : c'.summary.skipped = c.summary.skipped + if action = some .skip then 1 else 0)
    (hfound : c'.foldersFound = c.foldersFound + if action = some .unchanged then 1 else 0)
    (hfs : fs.Tidy) : Realizes s before [v] (c, fs) (c', fs) := by
  have hv : v.isChange s.options.overwrite before = false := by
    simp [Visit.isChange, haction, hchange]
  refine ⟨by simp [hitems, hv], ?_, ?_, hfs, fun k _ => rfl, ?_⟩
  · simp [hskipped, haction, List.countP_cons]
  · simp [hfound, haction, List.countP_cons]
  · simp [hv]

/-- **The visit of a file** becomes what was foreseen of it. -/
theorem FileVisit.realizes (hfs : fs.Tidy)
    (hseen : fs.slot? (components place.path) = before.slot? (components place.path))
    (h : FileVisit False s f env place (c, fs) y) :
    Realizes s before [⟨place.path, place.shown, some (f, env)⟩] (c, fs) y := by
  have hforeseen : Visit.action s.options.overwrite before
      ⟨place.path, place.shown, some (f, env)⟩ =
      Visit.action s.options.overwrite fs ⟨place.path, place.shown, some (f, env)⟩ :=
    Visit.action_congr hseen.symm
  cases h with
  | wrote preExisted bytes hpre hoverwrite hcontent hwrote =>
      have haction : Visit.action s.options.overwrite before
          ⟨place.path, place.shown, some (f, env)⟩ =
          some (if preExisted then .overwrite else .create) := by
        rw [hforeseen]
        cases preExisted with
        | true =>
            rw [Visit.action_file_of_hasFile (hpre.mp rfl), hoverwrite rfl]
            rfl
        | false =>
            refine Visit.action_of_none ?_
            rcases fs.slot?_trichotomy (components place.path) with hs | hs | hs
            · exact hs
            · exact absurd (hpre.mpr hs) (by simp)
            · exact absurd hs hwrote.free
      obtain ⟨spelling, hy, -⟩ := hwrote.slot
      refine .changed haction (by cases preExisted <;> simp) ?_ hwrote.skipped hwrote.found
        hwrote.tidy (fun k hk => ?_) (fun f' env' hfile => ?_)
      · rw [hwrote.items]
        cases preExisted <;> rfl
      · rw [hy]
        exact Memory.slot?_set_of_ne _ _ hk
      · obtain ⟨rfl, rfl⟩ := Prod.mk.inj (Option.some.inj hfile)
        refine ⟨spelling, bytes, ?_, hcontent⟩
        rw [hy]
        exact Memory.slot?_set_self _ _ _
  | kept hfile hkeep hitems hskipped hfound =>
      have haction := hforeseen.trans (Visit.action_file_of_hasFile hfile)
      rw [if_neg (by simp [hkeep])] at haction
      exact .unchanged haction (by simp) hitems hskipped hfound hfs
  | blocked hfolder hsame =>
      have haction := hforeseen.trans (Visit.action_file_of_folder hfolder)
      exact .unchanged haction (by simp) hsame.items hsame.skipped hsame.found hfs
  | failed hmay hsame => exact hmay.elim

/-- **The visit of a folder** becomes what was foreseen of it, and it is entered unless a
file was in its place. -/
theorem FolderVisit.realizes {name : AcceptedName} {opened : Option (Unit × Bool)}
    (hfs : fs.Tidy) (hhere : fs.slot? (components place.path) = some .folder)
    (hseen : fs.slot? (components (place.descend name).path) =
      before.slot? (components (place.descend name).path))
    (h : FolderVisit False (place.descend name) (c, fs) opened y) :
    Realizes s before [⟨(place.descend name).path, (place.descend name).shown, none⟩] (c, fs) y ∧
      ((opened = none ∧ before.HasFile (components (place.descend name).path)) ∨
        (opened = some ((), false) ∧ ¬ before.HasFile (components (place.descend name).path) ∧
          y.2.slot? (components (place.descend name).path) = some .folder)) := by
  have hforeseen : Visit.action s.options.overwrite before
      ⟨(place.descend name).path, (place.descend name).shown, none⟩ =
      Visit.action s.options.overwrite fs
        ⟨(place.descend name).path, (place.descend name).shown, none⟩ :=
    Visit.action_congr hseen.symm
  have hfile : fs.HasFile (components (place.descend name).path) ↔
      before.HasFile (components (place.descend name).path) := by
    simp only [Memory.HasFile, hseen]
  cases h with
  | made hnone hitems hskipped hfound htidy hmade hkept =>
      have haction := hforeseen.trans (Visit.action_of_none hnone)
      rw [Cursor.components_descend] at hmade hkept
      refine ⟨.changed haction (.inl rfl) hitems hskipped hfound htidy (fun k hk => ?_) (by simp),
        .inr ⟨rfl, ?_, ?_⟩⟩
      · rw [Visit.key, Cursor.components_descend] at hk
        exact hfs.slot?_of_made hhere hmade hkept hk
      · rw [← hfile]
        exact fun hn => hn.ne_none hnone
      · rw [Cursor.components_descend]
        exact (hmade _ (by simp) (List.prefix_refl _)).1
  | entered hfolder hitems hskipped hfound =>
      have haction := hforeseen.trans (Visit.action_folder_of_folder hfolder)
      refine ⟨.unchanged haction (by simp) hitems hskipped hfound hfs, .inr ⟨rfl, ?_, hfolder⟩⟩
      rw [← hfile]
      exact fun hn => hn.ne_folder hfolder
  | blocked hblocked hsame =>
      have haction := hforeseen.trans (Visit.action_folder_of_hasFile hblocked)
      exact ⟨.unchanged haction (by simp) hsame.items hsame.skipped hsame.found hfs,
        .inl ⟨rfl, hfile.mp hblocked⟩⟩
  | failed hmay hsame => exact hmay.elim

end Visits

/-! ### Plans -/

/-- Started on a file system, a program realizes some visits, if calls do not fail and what
is fetched or generated is there. -/
def Fulfils {α : Type} (s : CreateSettings) (before : Memory) (visits : List Visit) (fs : Memory)
    (x : CreateM α) : Prop :=
  ∀ c, Ensures (Memory.serving False s.limits.maxDownloadBytes) x c fs fun _ c' fs' =>
    Realizes s before visits (c, fs) (c', fs')

section Plans

variable {α β : Type} {s : CreateSettings} {before fs : Memory} {visits visits' : List Visit}
  {place : Cursor}

/-- One program and then another realize the visits of both. -/
lemma Fulfils.bind {x : CreateM α} {rest : α → CreateM β} (hx : Fulfils s before visits fs x)
    (h : Ready s before (visits ++ visits') place fs)
    (hplace : components place.path ∉ visits.map Visit.key)
    (hrest : ∀ a fs', Ready s before visits' place fs' → Fulfils s before visits' fs' (rest a)) :
    Fulfils s before (visits ++ visits') fs (x >>= rest) := by
  intro c
  rw [ensures_bind]
  refine (hx c).mono fun a c' fs' hdone => ?_
  refine (hrest a fs' (h.right hdone hplace) c').mono fun _ c'' fs'' hmore => ?_
  exact hdone.append hmore h.distinct

/-- What is made of the results changes nothing. -/
lemma Fulfils.map {x : CreateM α} {f : α → β} (hx : Fulfils s before visits fs x) :
    Fulfils s before visits fs (do let a ← x; pure (f a)) :=
  fun c => (hx c).map f

lemma Quiet.bind_fulfils {x : CreateM α} {f : α → CreateM β} {Q : α → Prop}
    (hx : Quiet (Memory.serving False s.limits.maxDownloadBytes) x Q)
    (hf : ∀ a, Fulfils s before visits fs (f a)) : Fulfils s before visits fs (x >>= f) := by
  intro c
  rw [ensures_bind]
  refine (hx c fs).mono ?_
  rintro a c' fs' ⟨-, hsame, rfl⟩
  exact (hf a c').mono fun _ _ _ hdone => hsame.realizes hdone

/-- A folder lies in one that is there. -/
lemma Ready.hasParent (h : Ready s before visits place fs) (name : AcceptedName) :
    fs.hasParent (components (place.descend name).path) :=
  Plan.hasParent_descend h.here name

/-- A file is realized. -/
lemma visitFile_fulfils (hdry : s.options.dryRun = false) {name : AcceptedName} {f : FileNode}
    {env : Environment}
    (h : Ready s before ((Plan.file name f env .done).visits before place.path place.relative)
      place fs) :
    Fulfils s before ((Plan.file name f env .done).visits before place.path place.relative) fs
      (visitFile s name f (place.descend name) env) := by
  intro c
  have hmem : (⟨(place.descend name).path, (place.descend name).shown, some (f, env)⟩ : Visit) ∈
      (Plan.file name f env .done).visits before place.path place.relative := by
    rw [Plan.visits]
    exact List.mem_cons_self
  have hseen := h.agrees _ hmem
  have hsupplied := h.supplied _ hmem f env rfl
  have hreal : (place.descend name).isPlanned = false := h.real
  refine (visitFile_ensures hdry hreal h.tidy (fun _ => h.hasParent name) (fun _ => hsupplied)
    c).mono fun _ c' fs' hvisit => ?_
  have hdone := hvisit.realizes h.tidy hseen
  exact hdone

/-- **A folder is realized** with what is in it. -/
theorem openFolder_fulfils (hdry : s.options.dryRun = false) {name : AcceptedName} {inside : Plan}
    (h : Ready s before ((Plan.folder name inside .done).visits before place.path place.relative)
      place fs) {walkChildren : Cursor → CreateM (List Unit)}
    (hinside : ∀ inner fs,
      Ready s before (inside.visits before inner.path inner.relative) inner fs →
      Fulfils s before (inside.visits before inner.path inner.relative) fs (walkChildren inner)) :
    Fulfils s before ((Plan.folder name inside .done).visits before place.path place.relative) fs
      (Plan.openFolder (visitor s) name place walkChildren) := by
  intro c
  have hmem := Plan.mem_visits_folder before place name inside .done
  have hother : components place.path ∉
      [(⟨(place.descend name).path, (place.descend name).shown, none⟩ : Visit)].map Visit.key :=
    fun hn => Plan.place_not_mem_visits (List.map_subset _ (List.cons_subset.mpr
      ⟨hmem, List.nil_subset _⟩) hn)
  have hseen := h.agrees _ hmem
  have hreal : (place.descend name).isPlanned = false := h.real
  rw [Plan.openFolder, ensures_bind]
  refine (enterFolder_ensures hdry hreal h.tidy (fun _ => h.hasParent name) c).mono
    fun opened c' fs' hvisit => ?_
  obtain ⟨hdone, hopened⟩ := hvisit.realizes h.tidy h.here hseen
  rcases hopened with ⟨rfl, hfile⟩ | ⟨rfl, hnofile, hfolder⟩
  · rw [Plan.visits_folder_of_hasFile hfile]
    exact ensures_pure.mpr hdone
  · rw [Plan.visits_folder_done hnofile] at h ⊢
    have hnext := h.right hdone hother
    have hinner : Ready s before (inside.visits before (place.descend name).path
        (place.descend name).relative) { place.descend name with
          isPlanned := (place.descend name).isPlanned || false } fs' :=
      ⟨hnext.tidy, Bool.or_eq_false_iff.mpr ⟨h.real, rfl⟩, hfolder, hnext.agrees, hnext.distinct,
        hnext.supplied⟩
    dsimp only
    rw [ensures_bind]
    refine (hinside _ fs' hinner c').mono fun items c'' fs'' hmore => ?_
    exact ensures_pure.mpr (hdone.append hmore h.distinct)

lemma not_isFolderFound_entry (isDry : Bool) (notice : Notice) :
    ¬ (notice.entry isDry).IsFolderFound := by
  cases notice with
  | rounds times name => cases isDry <;> simp [Notice.entry, LogEntry.IsFolderFound, toString]
  | tooDeep | invalidName | orphaned | invalidVariable | noRounds | invalidCount
  | tooManyRounds => simp [Notice.entry, LogEntry.IsFolderFound, toString]

/-- **A plan that is performed** realizes its visits. -/
theorem perform_fulfils (hdry : s.options.dryRun = false) (p : Plan) {place : Cursor}
    (h : Ready s before (p.visits before place.path place.relative) place fs) :
    Fulfils s before (p.visits before place.path place.relative) fs (p.perform (visitor s) place) := by
  induction p generalizing place fs with
  | done => exact fun c => ensures_pure.mpr (.nil (.refl c) h.tidy)
  | report notice next ih =>
      exact (quiet_report (not_isFolderFound_entry _ notice)).bind_fulfils fun _ => ih h
  | refused kind next ih =>
      have hrefused : Quiet (Memory.serving False s.limits.maxDownloadBytes)
          ((visitor s).invalidName kind place) fun _ => True := keeps_pure trivial
      exact hrefused.bind_fulfils fun _ => (ih h).map
  | file name f env next ih =>
      rw [Plan.visits_file_append] at h ⊢
      exact (visitFile_fulfils hdry h.left).bind h Plan.place_not_mem_visits
        fun _ fs' hready => (ih hready).map
  | folder name inside next ihInside ih =>
      rw [Plan.visits_folder_append] at h ⊢
      refine (openFolder_fulfils hdry h.left fun inner fs' hinner => ihInside hinner).bind h
        Plan.place_not_mem_visits ?_
      exact fun _ fs' hready => (ih hready).map
  | group label inside next ihInside ih =>
      have hgroup : ∀ children, Quiet (Memory.serving False s.limits.maxDownloadBytes)
          ((visitor s).group label place children) fun _ => True := fun _ => keeps_pure trivial
      refine (ihInside h.left).bind h Plan.place_not_mem_visits fun children fs' hready => ?_
      exact (hgroup children).bind_fulfils fun _ => (ih hready).map

/-- A run that creates in a folder that is there realizes its visits. -/
theorem create_ensures_realizes (hdry : s.options.dryRun = false)
    (hhooks : s.options.runHooks = false) {schema : Schema} {output : String} {scope : Scope}
    (h : Ready s fs (s.visits schema output scope fs) { path := output } fs) :
    (create s schema output scope).Ensures (Memory.serving False s.limits.maxDownloadBytes)
      (fun c gs => Realizes s fs (s.visits schema output scope fs) ({}, fs) (c, gs)) fs := by
  rw [create, walk_eq_perform, ensures_run, ensures_bind]
  refine (perform_fulfils hdry _ h _).mono fun _ c gs hdone => ?_
  rw [if_neg (by simp [hhooks])]
  exact ensures_pure.mpr hdone

end Plans

end Creation

/-! ### A preview and the run -/

/-- What is recorded of a node when it is created. -/
def PreviewNode.item (output : String) (node : PreviewNode) : CreatedItem :=
  ⟨join output node.path, node.kind, node.action = .overwrite⟩

lemma Preview.Shows.item_eq {s : Preview.Settings} {fs : Memory} {output : String}
    {node : PreviewNode} {v : Visit} (h : Shows s fs node v) (hpath : v.path = join output v.shown) :
    node.item output = v.item s.overwrite fs := by
  simp [PreviewNode.item, Visit.item, h.kind, h.path, h.action, hpath]

/-- Nodes that tell of visits are recorded as the visits are. -/
lemma Preview.items_eq {s : Preview.Settings} {fs : Memory} {output : String}
    {nodes : List PreviewNode} {visits : List Visit} (h : List.Forall₂ (Shows s fs) nodes visits)
    (hpath : ∀ v ∈ visits, v.path = join output v.shown) :
    nodes.map (·.item output) = visits.map (·.item s.overwrite fs) := by
  induction h with
  | nil => rfl
  | cons hshows _ ih =>
      rw [List.forall_mem_cons] at hpath
      rw [List.map_cons, List.map_cons, hshows.item_eq hpath.1, ih hpath.2]

lemma Preview.exists_shows {s : Preview.Settings} {fs : Memory} {nodes : List PreviewNode}
    {visits : List Visit} {v : Visit} (h : List.Forall₂ (Shows s fs) nodes visits)
    (hv : v ∈ visits) : ∃ node ∈ nodes, Shows s fs node v := by
  induction h with
  | nil => simp at hv
  | cons hshows _ ih =>
      rcases List.mem_cons.mp hv with rfl | hv
      · exact ⟨_, List.mem_cons_self, hshows⟩
      · obtain ⟨node, hnode, hshows'⟩ := ih hv
        exact ⟨node, List.mem_cons_of_mem _ hnode, hshows'⟩

lemma FileNode.content_of_source {f : FileNode} {content : Option String}
    (h : f.source = .inline content) : f.content = content := by
  unfold source at h
  split at h
  · simp at h
  · simp at h
  · exact Source.inline.inj h

/-- **A preview is what the run does.** Let a run create in a folder that is there, on the
files that the preview has seen, and let what it visits have different paths. If all that
it needs from elsewhere is there, then what it records is what the preview shows as created
or overwritten, in the same order; as many files are skipped and as many folders found as
the preview has counted; and the text that is shown of a file is the text that is written. -/
theorem preview_matches_create {σ : Type} {host : Host (StateM σ)} {view : σ → Memory}
    (hhost : host.Within view Memory.answering) {s : CreateSettings}
    (hdry : s.options.dryRun = false) (hhooks : s.options.runHooks = false) (schema : Schema)
    (output : String) (scope : Scope) {before start : σ} (hbefore : (view before).Reachable)
    (houtput : (view before).isFolder output) (hstart : view start = view before)
    (hdistinct : ((s.visits schema output scope (view before)).map Visit.key).Nodup)
    (hsupplied : ∀ v ∈ s.visits schema output scope (view before), ∀ f env,
      v.file = some (f, env) → Creation.Supplies s f env)
    (hreplies : (create s schema output scope).Follows host view
      (fun _ c reply _ => Memory.Obliges s.limits.maxDownloadBytes c reply) start) :
    ∃ p seen c after,
      (preview ⟨s.toWalkSettings, s.options.overwrite⟩ schema output scope).on host before =
        (p, seen) ∧
      view seen = view before ∧
      (create s schema output scope).on host start = (c, after) ∧
      c.items.toList = p.root.changes.map (·.item output) ∧
      c.summary.skipped = p.summary.skips ∧
      c.foldersFound = p.summary.unchangedFolders ∧
      ∀ v ∈ s.visits schema output scope (view before),
        v.isChange s.options.overwrite (view before) → ∀ f env content,
        v.file = some (f, env) → f.source = .inline content →
        ∀ text, (renderContent env f.isTemplate (content.getD "")).1 = text →
        text.length ≤ s.limits.maxDiffContent →
        ∃ node ∈ p.root.changes, node.path = v.shown ∧ node.newContent = some text ∧
          (view after).bytes? v.path = some text.toUTF8 := by
  have htidy := hbefore.tidy
  have hready : Creation.Ready s (view start) (s.visits schema output scope (view start))
      { path := output } (view start) := by
    rw [hstart]
    exact ⟨htidy, rfl, of_decide_eq_true houtput, fun _ _ => rfl, hdistinct, hsupplied⟩
  have hserving : (create s schema output scope).Follows host view
      (Memory.serving False s.limits.maxDownloadBytes) start :=
    hreplies.of_within hhost fun _ _ _ _ hanswer hobliges =>
      ⟨.inl hanswer, fun _ => ⟨hanswer, hobliges⟩⟩
  have hrealizes := hserving.on (Creation.create_ensures_realizes hdry hhooks hready)
  rw [hstart] at hrealizes
  have htells := hhost.on (Preview.preview_ensures_tells htidy
    ⟨s.toWalkSettings, s.options.overwrite⟩ schema output scope)
  rcases hcreate : (create s schema output scope).on host start with ⟨c, after⟩
  rcases hpreview : (preview ⟨s.toWalkSettings, s.options.overwrite⟩ schema output scope).on host
    before with ⟨p, seen⟩
  rw [hcreate] at hrealizes
  rw [hpreview] at htells
  obtain ⟨hseen, htells⟩ := htells
  have hchanges := htells.changes
  rw [PreviewNode.changesIn_singleton] at hchanges
  refine ⟨p, seen, c, after, rfl, hseen, rfl, ?_, ?_, ?_, ?_⟩
  · rw [Preview.items_eq hchanges fun v hv =>
      WalkSettings.path_of_mem_visits (List.mem_of_mem_filter hv)]
    simpa using hrealizes.items
  · rw [hrealizes.skipped, htells.skips]
  · rw [hrealizes.found, htells.found]
    rfl
  · rintro v hv hchange f env content hfile hsource text rfl hlength
    obtain ⟨spelling, bytes, hslot, hbytes⟩ := hrealizes.written v hv hchange f env hfile
    obtain ⟨node, hnode, hshows⟩ :=
      Preview.exists_shows hchanges (List.mem_filter.mpr ⟨hv, hchange⟩)
    refine ⟨node, hnode, hshows.path, hshows.text f env hfile content hsource hlength, ?_⟩
    have hwritten : (view after).bytes? v.path = some bytes := by
      rw [Memory.bytes?, show (view after).slot? (components v.path) = _ from hslot]
    rw [hwritten, hbytes content hsource, FileNode.content_of_source hsource]

/-- A text and a picture are created in a folder, as the preview has shown them. -/
theorem preview_matches_create_of_files :
    let s : CreateSettings :=
      { limits := {}, today := ⟨2024, 1, 1, by decide⟩, equipment := { canGenerate := true }
        options := {} }
    let b : FileNode := { name := "b", content := some "text" }
    let schema : Schema :=
      { root := .folder "a" [.file b, .file { name := "c", generate := some .image }] ∅ }
    let outside : Outside :=
      { fetch := fun _ => .ok .empty, generate := fun _ => .ok ⟨#[137]⟩ }
    let before := (Memory.empty.makeFolder "out").2
    ∃ p c after,
      (preview ⟨s.toWalkSettings, s.options.overwrite⟩ schema "out" default).on
        (Memory.host outside) before = (p, before) ∧
      (create s schema "out" default).on (Memory.host outside) before = (c, after) ∧
      c.items.toList = p.root.changes.map (·.item "out") ∧
      ∃ node ∈ p.root.changes, node.path = "a/b" ∧ node.newContent = some "text" ∧
        after.bytes? "out/a/b" = some "text".toUTF8 := by
  intro s b schema outside before
  have hbefore : Memory.Reachable (id before) := .call {} (.makeFolder "out") .empty
  have ha : ∀ env, substitute env "a" = "a" := fun _ => substitute_of_not_mem (by decide)
  have hb : ∀ env, substitute env "b" = "b" := fun _ => substitute_of_not_mem (by decide)
  have hc : ∀ env, substitute env "c" = "c" := fun _ => substitute_of_not_mem (by decide)
  have hvisits : s.visits schema "out" default before =
      [⟨"out/a", "a", none⟩, ⟨"out/a/b", "a/b", some (b, Scope.environment default s.today)⟩,
        ⟨"out/a/c", "a/c", some ({ name := "c", generate := some .image },
          Scope.environment default s.today)⟩] := by
    simp only [WalkSettings.visits, Plan.ofRoot, Plan.ofList, Plan.ofNode, schema, ha, b, hb, hc]
    rfl
  have hreplies : (Memory.host outside).Within id fun _ c reply _ =>
      Memory.Obliges s.limits.maxDownloadBytes c reply := by
    intro c fs
    cases c with
    | fetch url => exact ⟨.empty, rfl, Nat.zero_le _⟩
    | generate request => exact ⟨_, rfl⟩
    | _ => trivial
  have hdistinct : ((s.visits schema "out" default (id before)).map Visit.key).Nodup := by
    rw [id, hvisits]
    decide
  have hsupplied : ∀ v ∈ s.visits schema "out" default (id before), ∀ f env,
      v.file = some (f, env) → Creation.Supplies s f env := by
    intro v hv f env hfile
    rw [id, hvisits, List.mem_cons, List.mem_cons, List.mem_singleton] at hv
    rcases hv with rfl | rfl | rfl
    · exact absurd hfile (by simp)
    · obtain ⟨rfl, rfl⟩ := Prod.mk.inj (Option.some.inj hfile)
      trivial
    · obtain ⟨rfl, rfl⟩ := Prod.mk.inj (Option.some.inj hfile)
      rfl
  have houtput : Memory.isFolder (id before) "out" := by decide
  have hfollows : (create s schema "out" default).Follows (Memory.host outside) id
      (fun _ c reply _ => Memory.Obliges s.limits.maxDownloadBytes c reply) before :=
    hreplies.follows
  obtain ⟨p, seen, c, after, hpreview, hseen, hcreate, hitems, -, -, htext⟩ :=
    preview_matches_create (Memory.host_within outside) (s := s) rfl rfl schema "out" default
      hbefore houtput rfl hdistinct hsupplied hfollows
  obtain rfl : seen = before := hseen
  refine ⟨p, c, after, hpreview, hcreate, hitems, ?_⟩
  have hvisit : (⟨"out/a/b", "a/b", some (b, Scope.environment default s.today)⟩ : Visit) ∈
      s.visits schema "out" default (id before) := by
    rw [id, hvisits]
    exact List.mem_cons_of_mem _ List.mem_cons_self
  have hchange : Visit.isChange s.options.overwrite (id before)
      ⟨"out/a/b", "a/b", some (b, Scope.environment default s.today)⟩ := by
    rw [Visit.isChange, Visit.action_of_none (by decide)]
    rfl
  have hrendered : (renderContent (Scope.environment default s.today) b.isTemplate
      ((some "text" : Option String).getD "")).1 = "text" := by
    exact substitute_of_not_mem (by decide)
  exact htext _ hvisit hchange b _ (some "text") rfl rfl "text" hrendered (by decide)

end Scaffold

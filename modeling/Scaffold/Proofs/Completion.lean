import Mathlib.Tactic
import Scaffold.Proofs.Isolation

/-!
What is there once a plan has been carried out.

* `Creation.Completes`: some visits have been made. Each folder is there, and each file whose
  content is in the schema, or something else in its place; other places are left alone. Where
  all files are overwritten, and no place is visited twice, such a file holds its content.
  This stays so while files and folders are added;
* `visitFile_finishes`, `openFolder_finishes`, `perform_finishes`: a plan completes its visits,
  by induction on the plan;
* `create_completes`: hence so does a run that creates in a folder that is there.
-/

namespace Scaffold

open Scaffold.Path Variable

/-- A folder, or a file whose content is in the schema. -/
def Visit.IsInline (v : Visit) : Prop :=
  ∀ f env, v.file = some (f, env) → ∃ content, f.source = .inline content

/-- A file that is in the place of a visit, and whose content is in the schema, holds it. -/
def Visit.IsWritten (fs : Memory) (v : Visit) : Prop :=
  ∀ f env content spelling bytes, v.file = some (f, env) → f.source = .inline content →
    fs.slot? v.key = some (.file spelling bytes) →
    bytes = (renderContent env f.isTemplate (content.getD "")).1.toUTF8

lemma Visit.IsWritten.congr {fs gs : Memory} {v : Visit} (h : v.IsWritten fs)
    (hslot : gs.slot? v.key = fs.slot? v.key) : v.IsWritten gs :=
  fun f env content spelling bytes hfile hsource hbytes =>
    h f env content spelling bytes hfile hsource (hslot ▸ hbytes)

namespace Creation

/-! ### What is there after some visits -/

/-- Some visits have been made, as they are told once more files and folders have come. -/
structure Completes (s : CreateSettings) (visits : Memory → List Visit) (fs fs' : Memory) :
    Prop where
  tidy : fs'.Tidy
  grown : fs.Grown fs'
  there : ∀ gs, fs'.Grown gs → ∀ v ∈ visits gs, v.IsInline → gs.slot? v.key ≠ none
  kept : ∀ gs, fs'.Grown gs → ∀ k ∉ (visits gs).map Visit.key, fs'.slot? k = fs.slot? k
  written : s.options.overwrite → ∀ gs, fs'.Grown gs → ((visits gs).map Visit.key).Nodup →
    ∀ v ∈ visits gs, v.IsWritten fs'

section Completes

variable {s : CreateSettings} {visits visits' : Memory → List Visit} {fs fs' gs : Memory}

lemma completes_nil (hfs : fs.Tidy) : Completes s (fun _ => []) fs fs where
  tidy := hfs
  grown := .refl fs
  there _ _ _ hv := absurd hv List.not_mem_nil
  kept _ _ _ _ := rfl
  written _ _ _ _ _ hv := absurd hv List.not_mem_nil

lemma Completes.append (h : Completes s visits fs fs') (h' : Completes s visits' fs' gs) :
    Completes s (fun hs => visits hs ++ visits' hs) fs gs where
  tidy := h'.tidy
  grown := h.grown.trans h'.grown
  there hs hgrown v hv hinline := by
    rcases List.mem_append.mp hv with hv | hv
    · exact h.there hs (h'.grown.trans hgrown) v hv hinline
    · exact h'.there hs hgrown v hv hinline
  kept hs hgrown k hk := by
    rw [List.map_append, List.mem_append, not_or] at hk
    rw [h'.kept hs hgrown k hk.2, h.kept hs (h'.grown.trans hgrown) k hk.1]
  written hoverwrite hs hgrown hdistinct v hv := by
    obtain ⟨hleft, hright, hapart, -⟩ := Visit.apart_of_nodup hdistinct
    rcases List.mem_append.mp hv with hv | hv
    -- what comes later leaves alone what was visited before
    · exact (h.written hoverwrite hs (h'.grown.trans hgrown) hleft v hv).congr
        (h'.kept hs hgrown _ (hapart v hv))
    · exact h'.written hoverwrite hs hgrown hright v hv

/-- The same visits, told in another way. -/
lemma Completes.congr (h : Completes s visits fs fs')
    (heq : ∀ gs, fs'.Grown gs → visits' gs = visits gs) : Completes s visits' fs fs' where
  tidy := h.tidy
  grown := h.grown
  there gs hgrown := by
    rw [heq gs hgrown]
    exact h.there gs hgrown
  kept gs hgrown := by
    rw [heq gs hgrown]
    exact h.kept gs hgrown
  written hoverwrite gs hgrown := by
    rw [heq gs hgrown]
    exact h.written hoverwrite gs hgrown

end Completes

end Creation

/-! ### The end of a visit -/

namespace Visit

variable {s : CreateSettings} {outside : Outside} {before : Memory} {v : Visit}

/-- A file stays a file. -/
lemma result?_of_hasFile (s : CreateSettings) (outside : Outside) (h : before.HasFile v.key) :
    ∃ path bytes, v.result? s outside before = some (.file path bytes) := by
  by_cases hchange : v.isChange s.options.overwrite before
  · rw [isChange_of_hasFile h] at hchange
    rcases hfile : v.file with _ | ⟨f, env⟩
    · simp [hfile] at hchange
    · rw [result?_file hfile (by rw [isChange_of_hasFile h]; exact hchange)]
      rcases Creation.supply? s outside v.name f env with _ | bytes
      · exact h
      · exact ⟨_, bytes, rfl⟩
  · rw [result?_of_not_isChange (by simpa using hchange)]
    exact h

/-- A folder stays a folder. -/
lemma result?_of_folder (h : before.slot? v.key = some .folder) :
    v.result? s outside before = some .folder := by
  rw [result?_of_not_isChange (isChange_of_folder h), h]

/-- What is visited is there afterwards, unless it is a file from elsewhere. -/
lemma result?_ne_none (h : v.IsInline) : v.result? s outside before ≠ none := by
  rcases before.slot?_trichotomy v.key with hs | hs | hs
  · rcases hfile : v.file with _ | ⟨f, env⟩
    · simp [result?_folder hfile hs]
    · obtain ⟨content, hsource⟩ := h f env hfile
      rw [result?_file hfile (isChange_of_none hs), Creation.supply?, hsource]
      simp
  · obtain ⟨path, bytes, hresult⟩ := result?_of_hasFile s outside hs
    simp [hresult]
  · simp [result?_of_folder hs]

/-- A file that is there after a visit holds its content, if files are overwritten. -/
lemma eq_toUTF8_of_result? {f : FileNode} {env : Environment} {content : Option String}
    {spelling : String} {bytes : ByteArray} (hoverwrite : s.options.overwrite)
    (hfile : v.file = some (f, env)) (hsource : f.source = .inline content)
    (h : v.result? s outside before = some (.file spelling bytes)) :
    bytes = (renderContent env f.isTemplate (content.getD "")).1.toUTF8 := by
  by_cases hchange : v.isChange s.options.overwrite before
  · rw [result?_file hfile hchange, Creation.supply?, hsource] at h
    have hbytes : (renderContent env f.isTemplate (f.content.getD "")).1.toUTF8 = bytes :=
      (Memory.Slot.file.inj (Option.some.inj h)).2
    rw [← hbytes, FileNode.content_of_source hsource]
  · -- only what is in the place of a file could be left as it is
    rw [result?_of_not_isChange (by simpa using hchange)] at h
    rw [isChange_of_hasFile ⟨spelling, bytes, h⟩, hfile] at hchange
    exact absurd hoverwrite (by simpa using hchange)

end Visit

namespace Creation

/-- A visit that has come to its end is completed. -/
lemma Lands.completes {s : CreateSettings} {outside : Outside} {fs gs : Memory} {v : Visit}
    (h : Lands (Visit.outcome? s outside ∅ ∅ fs) [v] fs gs) :
    Completes s (fun _ => [v]) fs gs := by
  have hend : gs.slot? v.key = v.result? s outside fs := by
    rw [h.landed v (by simp), Visit.outcome?_of_not_isCut Visit.not_isCut_empty]
  refine ⟨h.tidy, ⟨fun k hk => ?_, fun k hk => ?_⟩, fun hs hgrown w hw hinline hnone => ?_,
    fun _ _ k hk => h.kept k hk, fun hoverwrite _ _ _ w hw => ?_⟩
  · by_cases he : k = v.key
    · subst he
      obtain ⟨path, bytes, hresult⟩ := Visit.result?_of_hasFile s outside hk
      exact ⟨path, bytes, hend.trans hresult⟩
    · rwa [Memory.HasFile, h.kept k (by simpa using he)]
  · by_cases he : k = v.key
    · subst he
      exact hend.trans (Visit.result?_of_folder hk)
    · rwa [h.kept k (by simpa using he)]
  · obtain rfl := List.mem_singleton.mp hw
    exact Visit.result?_ne_none hinline (hend ▸ hgrown.none_before hnone)
  · obtain rfl := List.mem_singleton.mp hw
    exact fun f env content spelling bytes hfile hsource hslot =>
      Visit.eq_toUTF8_of_result? hoverwrite hfile hsource (hend ▸ hslot)

/-! ### Plans -/

/-- Started on a file system, a program completes some visits. -/
def Finishes {α : Type} (s : CreateSettings) (outside : Outside) (visits : Memory → List Visit)
    (fs : Memory) (x : CreateM α) : Prop :=
  ∀ c, Ensures (Memory.disrupted outside ∅ ∅) x c fs fun _ _ fs' => Completes s visits fs fs'

section Plans

variable {α β : Type} {s : CreateSettings} {outside : Outside}
  {visits visits' : Memory → List Visit} {fs : Memory} {place : Cursor}

/-- One program and then another complete the visits of both. -/
lemma Finishes.bind {x : CreateM α} {rest : α → CreateM β} (hx : Finishes s outside visits fs x)
    (h : Inside place fs)
    (hrest : ∀ a fs', Inside place fs' → Finishes s outside visits' fs' (rest a)) :
    Finishes s outside (fun gs => visits gs ++ visits' gs) fs (x >>= rest) := by
  intro c
  rw [ensures_bind]
  refine (hx c).mono fun a c' fs' hdone => ?_
  exact (hrest a fs' (h.grown hdone.tidy hdone.grown) c').mono fun _ _ _ hmore =>
    hdone.append hmore

/-- What is made of the results changes nothing. -/
lemma Finishes.map {x : CreateM α} {f : α → β} (hx : Finishes s outside visits fs x) :
    Finishes s outside visits fs (do let a ← x; pure (f a)) :=
  fun c => (hx c).map f

/-- A report leaves the files alone. -/
lemma Finishes.of_report {x : CreateM α} (entry : LogEntry) (hx : Finishes s outside visits fs x) :
    Finishes s outside visits fs (do report entry; x) := by
  intro c
  unfold report
  split_ifs
  · simp only [count, log, bind_assoc, ensures_bind, ensures_modify]
    exact hx _
  · simp only [log, ensures_bind, ensures_modify]
    exact hx _

/-- **The visit of a file** completes it. -/
theorem visitFile_finishes (hdry : s.options.dryRun = false) (h : Inside place fs)
    (name : AcceptedName) (f : FileNode) (env : Environment) (shown : String) :
    Finishes s outside (fun _ => [⟨(place.descend name).path, shown, some (f, env)⟩]) fs
      (visitFile s name f (place.descend name) env) := by
  have hahead : Ahead ∅ fs [⟨(place.descend name).path, shown, some (f, env)⟩] place fs :=
    ⟨h, fun m hm => absurd hm.fails (by simp), fun _ _ => rfl, by simp⟩
  exact fun c => (visitFile_reaches hdry hahead c).mono fun _ _ _ hlands => hlands.completes

/-- **The visit of a folder** completes it with what is in it. -/
theorem openFolder_finishes (hdry : s.options.dryRun = false) (h : Inside place fs)
    (name : AcceptedName) {inside : Plan} {walkChildren : Cursor → CreateM (List Unit)}
    (hinside : ∀ inner fs, Inside inner fs →
      Finishes s outside (fun gs => inside.visits gs inner.path inner.relative) fs
        (walkChildren inner)) :
    Finishes s outside
      (fun gs => (Plan.folder name inside .done).visits gs place.path place.relative) fs
      (Plan.openFolder (visitor s) name place walkChildren) := by
  intro c
  have haccess : Memory.Accessible ∅ fs (components place.path) :=
    fun m hm => absurd hm.fails (by simp)
  rw [Plan.openFolder, ensures_bind]
  refine Ensures.mono (enterFolder_enters hdry h haccess name (place.descend name).shown rfl c)
    fun opened c' fs' hentering => ?_
  cases hentering with
  | opened hnofile hunmade hdone hfolder =>
      have hinner : Inside { place.descend name with
          isPlanned := (place.descend name).isPlanned || false } fs' :=
        ⟨hdone.tidy, Bool.or_eq_false_iff.mpr ⟨h.real, rfl⟩, hfolder⟩
      dsimp only
      rw [ensures_bind]
      refine (hinside _ fs' hinner c').mono fun _ _ fs'' hmore => ?_
      refine ensures_pure.mpr ((hdone.completes.append hmore).congr fun gs hgrown => ?_)
      refine Plan.visits_folder_done fun hfile => ?_
      exact hfile.ne_folder (hgrown.folder _ (hmore.grown.folder _ hfolder))
  | blocked hfile hdone =>
      refine ensures_pure.mpr (hdone.completes.congr fun gs hgrown => ?_)
      exact Plan.visits_folder_of_hasFile (hgrown.file _ hfile)
  | unmade hunmade => exact absurd hunmade.fails (by simp)

/-- **A plan that is performed** completes its visits. -/
theorem perform_finishes (hdry : s.options.dryRun = false) (p : Plan) {place : Cursor}
    (h : Inside place fs) :
    Finishes s outside (fun gs => p.visits gs place.path place.relative) fs
      (p.perform (visitor s) place) := by
  induction p generalizing place fs with
  | done => exact fun c => ensures_pure.mpr (completes_nil h.tidy)
  | report notice next ih => exact (ih h).of_report _
  | refused kind next ih => exact (ih h).map
  | file name f env next ih =>
      exact (visitFile_finishes hdry h name f env _).bind h fun _ fs' hinside =>
        (ih hinside).map
  | folder name inside next ihInside ih =>
      simp only [Plan.visits_folder_append name inside next]
      exact (openFolder_finishes hdry h name fun inner fs' hinner => ihInside hinner).bind h
        fun _ fs' hinside => (ih hinside).map
  | group label inside next ihInside ih =>
      exact (ihInside h).bind h fun children fs' hinside => (ih hinside).map

/-- A run that creates in a folder that is there completes its visits. -/
theorem create_completes (hdry : s.options.dryRun = false) (hhooks : s.options.runHooks = false)
    (outside : Outside) (schema : Schema) {output : String} (scope : Scope) (hfs : fs.Tidy)
    (houtput : fs.slot? (components output) = some .folder) :
    Completes s (s.visits schema output scope) fs
      ((create s schema output scope).on (Memory.host outside) fs).2 := by
  have hwalk : Finishes s outside
      (fun gs => (Plan.ofRoot s.toWalkSettings schema.root scope).visits gs output "") fs
      ((Plan.ofRoot s.toWalkSettings schema.root scope).perform (visitor s)
        { path := output }) :=
    perform_finishes hdry _ ⟨hfs, rfl, houtput⟩
  have hhost : (Memory.host outside).Within id (Memory.disrupted outside ∅ ∅) := fun c fs =>
    Memory.disrupted_of_steady (Memory.host_steady outside c fs)
  have hcreate : (create s schema output scope).Ensures (Memory.disrupted outside ∅ ∅)
      (fun _ fs' => Completes s (s.visits schema output scope) fs fs') fs := by
    rw [create, walk_eq_perform, ensures_run, ensures_bind]
    refine (hwalk {}).mono fun _ c gs hdone => ?_
    rw [if_neg (by simp [hhooks])]
    exact ensures_pure.mpr hdone
  exact hhost.on hcreate

end Plans

end Creation

end Scaffold

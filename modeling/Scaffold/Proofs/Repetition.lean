import Mathlib.Tactic
import Scaffold.Proofs.Forecast
import Scaffold.Proofs.Memory
import Scaffold.Proofs.Perform
import Scaffold.Proofs.Supply

/-!
Creating twice.

* `Memory.steady`: files are kept in memory, and what is fetched or generated depends on
  what is asked for alone;
* `Creation.Filing` and `Creation.Opening`: what the visit of a file or a folder then does,
  and what it counts, where files are not overwritten;
* `Creation.Settles`: after a program has run there is nothing left for it to do, also when
  more files and folders have come in between. So what later nodes of a schema write does
  not matter to the earlier ones;
* `perform_settles`: a plan settles, by induction on the plan;
* `create_twice`: creating a schema again changes nothing.
-/

namespace Scaffold

open Scaffold.Path Variable

namespace Memory

/-- Calls to the file system are answered from memory, and what is fetched or generated is
what some surroundings give. -/
def steady (outside : Outside) : Run.Rule Memory := fun fs c reply fs' =>
  fs.answering c reply fs' ∧ outside.Gives c reply

/-- A host that keeps its files in memory does so. -/
lemma host_steady (outside : Outside) : (Memory.host outside).Within id (steady outside) :=
  fun c fs => ⟨host_within outside c fs, by cases c <;> first | rfl | trivial⟩

lemma steady_serves (outside : Outside) : outside.Serves (steady outside) := by
  rintro fs c reply fs' ⟨⟨rfl, -⟩, hgives⟩ hpath
  refine ⟨?_, hgives⟩
  cases c with
  | fetch _ | generate _ | command _ _ => rfl
  | entry _ | makeFolder _ | write _ _ | read _ | list _ | removeFile _ | removeFolder _ =>
      simp [Call.path?] at hpath

end Memory

/-! ### Counting again -/

/-- What is counted when something is done again. Nothing is made; and unless something
went wrong, all that was written or skipped is skipped. -/
structure Tally.Repeats (a b : Tally) : Prop where
  items : b.items = []
  folders : b.folders = 0
  files : b.files = 0
  skipped : a.errors = 0 → b.errors = 0 ∧ b.skipped = a.skipped + a.files

lemma Tally.Repeats.add {a a' b b' : Tally} (h : a.Repeats b) (h' : a'.Repeats b') :
    (a + a').Repeats (b + b') where
  items := by simp [h.items, h'.items]
  folders := by simp [h.folders, h'.folders]
  files := by simp [h.files, h'.files]
  skipped herrors := by
    simp only [errors_add, Nat.add_eq_zero_iff] at herrors
    obtain ⟨hb, hskipped⟩ := h.skipped herrors.1
    obtain ⟨hb', hskipped'⟩ := h'.skipped herrors.2
    simp only [errors_add, skipped_add, files_add]
    omega

namespace Creation

/-- A walk is in a folder that is there. -/
structure Inside (place : Cursor) (fs : Memory) : Prop where
  tidy : fs.Tidy
  real : place.isPlanned = false
  here : fs.slot? (components place.path) = some .folder

lemma Inside.grown {place : Cursor} {fs gs : Memory} (h : Inside place fs) (hgs : gs.Tidy)
    (hgrown : fs.Grown gs) : Inside place gs :=
  ⟨hgs, h.real, hgrown.folder _ h.here⟩

lemma Inside.hasParent {place : Cursor} {fs : Memory} (h : Inside place fs)
    (name : AcceptedName) : fs.hasParent (components (place.descend name).path) :=
  Plan.hasParent_descend h.here name

/-! ### Visits -/

/-- What the visit of a file with a supply of bytes does, if files are not overwritten. -/
inductive Filing (supply : Option ByteArray) (place : Cursor) :
    Tally → Memory → Memory → Prop
  | wrote {fs gs : Memory} : supply ≠ none → fs.slot? (components place.path) = none →
      gs.Tidy → fs.Grown gs → gs.HasFile (components place.path) →
      Filing supply place { files := 1, items := [⟨place.path, .file, false⟩] } fs gs
  | kept {fs : Memory} : fs.HasFile (components place.path) →
      Filing supply place { skipped := 1 } fs fs
  /-- A folder is at the place. -/
  | blocked {fs : Memory} : fs.slot? (components place.path) = some .folder →
      Filing supply place { errors := 1 } fs fs
  | missing {fs : Memory} : supply = none → fs.slot? (components place.path) = none →
      Filing supply place { errors := 1 } fs fs

/-- What the visit of a folder does. -/
inductive Opening (place : Cursor) : Tally → Option (Unit × Bool) → Memory → Memory → Prop
  | made {fs gs : Memory} : fs.slot? (components place.path) = none → gs.Tidy → fs.Grown gs →
      gs.slot? (components place.path) = some .folder →
      Opening place { folders := 1, items := [⟨place.path, .folder, false⟩] }
        (some ((), false)) fs gs
  | entered {fs : Memory} : fs.slot? (components place.path) = some .folder →
      Opening place 0 (some ((), false)) fs fs
  /-- A file is at the place. -/
  | blocked {fs : Memory} : fs.HasFile (components place.path) →
      Opening place { errors := 1 } none fs fs

section

variable {s : CreateSettings} {outside : Outside} {place : Cursor} {fs : Memory}

/-- Where nothing is, in a folder that is there, a file is written from its supply. -/
lemma Delivery.filing {supply : Option ByteArray} {c c' : Creation} {gs : Memory}
    (h : Delivery (Memory.steady outside) place false supply (c, fs) (c', gs)) (hfs : fs.Tidy)
    (hnone : fs.slot? (components place.path) = none)
    (hparent : fs.hasParent (components place.path)) :
    ∃ a, c'.tally = c.tally + a ∧ Filing supply place a fs gs := by
  have hproper := components_proper place.path
  cases h with
  | missing htally => exact ⟨_, htally, .missing rfl hnone⟩
  | saved hwrite htally =>
      rename_i bytes
      obtain ⟨⟨rfl, -⟩, -⟩ := hwrite
      obtain ⟨spelling, hrun, -⟩ := Memory.write_of_hasParent bytes (by simp [hnone]) hparent
      refine ⟨_, htally, ?_⟩
      rw [Memory.answer, hrun]
      refine .wrote (by simp) hnone ?_ (.setFile (by simp [hnone]) _ _) ⟨spelling, bytes, by simp⟩
      exact hfs.set hproper ((Memory.hasParent_iff hproper).mp hparent) (by simp) (by simp [hnone])
  | unsaved e hwrite htally =>
      -- such a file can be written
      rename_i bytes
      obtain ⟨⟨-, hreply⟩, -⟩ := hwrite
      obtain ⟨spelling, hrun, -⟩ := Memory.write_of_hasParent bytes (by simp [hnone]) hparent
      have hfail := hreply (by simp [Call.path?])
      simp [Memory.answer, hrun] at hfail

/-- **The visit of a file** writes its supply where nothing is. -/
theorem visitFile_filing (hdry : s.options.dryRun = false) (hoverwrite : s.options.overwrite = false)
    (h : Inside place fs) (name : AcceptedName) (f : FileNode) (env : Environment) (c : Creation) :
    Ensures (Memory.steady outside) (visitFile s name f (place.descend name) env) c fs
      fun _ c' fs' => ∃ a, c'.tally = c.tally + a ∧
        Filing (supply? s outside name f env) (place.descend name) a fs fs' := by
  have hparent := h.hasParent name
  have hreal : (place.descend name).isPlanned = false := h.real
  generalize place.descend name = here at *
  rw [visitFile, ensures_bind, look, hreal, if_neg (by simp), ask, ensures_call]
  rintro reply fs' ⟨⟨hfs, hreply⟩, -⟩
  obtain rfl : fs' = fs := hfs
  rw [hreply (by simp [Call.path?])]
  rcases fs'.slot?_trichotomy (components here.path) with hs | hs | hs
  · simp only [Memory.answer, Memory.entry_of_none hs]
    rw [ensures_bind]
    refine (writeFile_delivers hdry (Memory.steady_serves outside) c fs').mono ?_
    exact fun _ c' gs hdelivery => ensures_pure.mpr (hdelivery.filing h.tidy hs hparent)
  · obtain ⟨size, hentry⟩ := Memory.entry_of_hasFile hs
    simp only [Memory.answer, hentry, Entry.isFolder, reduceCtorEq, decide_false,
      Bool.false_eq_true, ↓reduceIte, hoverwrite, count, log, ensures_bind, ensures_modify,
      ensures_pure]
    exact ⟨_, by ext1 <;> simp [tally], .kept hs⟩
  · simp only [Memory.answer, Memory.entry_of_folder hs, Entry.isFolder, decide_true, ↓reduceIte]
    rw [ensures_bind]
    refine (counts_fail _ _ c fs').mono ?_
    rintro _ c' gs ⟨rfl, htally⟩
    exact ensures_pure.mpr ⟨_, htally, .blocked hs⟩

/-- Where nothing is, in a folder that is there, a folder is made. -/
lemma makeFolder_opening (hfs : fs.Tidy) (hne : components place.path ≠ [])
    (hnone : fs.slot? (components place.path) = none)
    (hparent : fs.hasParent (components place.path)) (name : String) (c : Creation) :
    Ensures (Memory.steady outside) (makeFolder name place) c fs fun opened c' fs' =>
      ∃ a, c'.tally = c.tally + a ∧ Opening place a opened fs fs' := by
  rw [makeFolder, ensures_bind, ask, ensures_call]
  rintro reply fs' ⟨⟨rfl, hreply⟩, -⟩
  rw [hreply (by simp [Call.path?])]
  obtain ⟨gs, hrun, hgs, hmade, hkept⟩ := Memory.makeFolder_of_hasParent hfs hnone hparent
  simp only [Memory.answer, hrun, count, record, log, ensures_bind, ensures_modify, ensures_pure]
  refine ⟨_, ?_, .made hnone hgs (.made hmade hkept) (hmade _ hne (List.prefix_refl _)).1⟩
  ext1 <;> simp [tally]

/-- **The visit of a folder** makes it where nothing is. -/
theorem enterFolder_opening (hdry : s.options.dryRun = false) (h : Inside place fs)
    (name : AcceptedName) (c : Creation) :
    Ensures (Memory.steady outside) (enterFolder s name (place.descend name)) c fs
      fun opened c' fs' => ∃ a, c'.tally = c.tally + a ∧
        Opening (place.descend name) a opened fs fs' := by
  have hparent := h.hasParent name
  have hreal : (place.descend name).isPlanned = false := h.real
  have hne := place.components_descend_ne_nil name
  generalize place.descend name = here at *
  rw [enterFolder, hreal, if_neg (by simp), ensures_bind, ask, ensures_call]
  rintro reply fs' ⟨⟨hfs, hreply⟩, -⟩
  obtain rfl : fs' = fs := hfs
  rw [hreply (by simp [Call.path?])]
  rcases fs'.slot?_trichotomy (components here.path) with hs | hs | hs
  · simp only [Memory.answer, Memory.entry_of_none hs, hdry, Bool.false_eq_true, ↓reduceIte]
    exact makeFolder_opening h.tidy hne hs hparent _ c
  · obtain ⟨size, hentry⟩ := Memory.entry_of_hasFile hs
    simp only [Memory.answer, hentry, Entry.isFolder, reduceCtorEq, decide_false,
      Bool.false_eq_true, ↓reduceIte]
    rw [ensures_bind]
    refine (counts_fail _ _ c fs').mono ?_
    rintro _ c' gs ⟨rfl, htally⟩
    exact ensures_pure.mpr ⟨_, htally, .blocked hs⟩
  · simp only [Memory.answer, Memory.entry_of_folder hs, Entry.isFolder, decide_true, ↓reduceIte,
      log, ensures_bind, ensures_modify, ensures_pure]
    exact ⟨0, by rw [add_zero]; rfl, .entered hs⟩

end

/-! ### Doing it again -/

/-- Where the files are `fs`, a program only counts what is counted when something that
counted `a` is done again. -/
def Rests {α : Type} (rule : Run.Rule Memory) (x : CreateM α) (fs : Memory) (a : Tally) : Prop :=
  ∀ c, Ensures rule x c fs fun _ c' fs' => fs' = fs ∧ ∃ b, c'.tally = c.tally + b ∧ a.Repeats b

/-- After a program has run, it rests, also when more files and folders have come in
between. -/
def Settles {α : Type} (rule : Run.Rule Memory) (x : CreateM α) (fs : Memory) : Prop :=
  ∀ c, Ensures rule x c fs fun _ c' fs' => ∃ a, c'.tally = c.tally + a ∧ fs'.Tidy ∧
    fs.Grown fs' ∧ ∀ gs, gs.Tidy → fs'.Grown gs → Rests rule x gs a

section

variable {α β γ : Type} {rule : Run.Rule Memory} {place : Cursor} {fs : Memory}

/-- What only counts, and may be counted again, settles. -/
lemma Counts.settles {x : CreateM α} {a : Tally} (hx : Counts rule x a) (ha : a.Repeats a)
    (hfs : fs.Tidy) : Settles rule x fs := by
  intro c
  refine (hx c fs).mono ?_
  rintro _ c' fs' ⟨rfl, htally⟩
  refine ⟨a, htally, hfs, .refl _, fun gs _ _ d => (hx d gs).mono ?_⟩
  rintro _ d' gs' ⟨rfl, htally'⟩
  exact ⟨rfl, a, htally', ha⟩

lemma settles_pure (a : α) (hfs : fs.Tidy) : Settles rule (pure a) fs :=
  Counts.settles (a := 0) (fun c _ => ensures_pure.mpr ⟨rfl, (add_zero c.tally).symm⟩)
    ⟨rfl, rfl, rfl, fun _ => ⟨rfl, rfl⟩⟩ hfs

/-- One program and then another settle, whatever is made of their results. -/
lemma Settles.andThen {x : CreateM α} {y : CreateM β} {f : α → β → γ} (hx : Settles rule x fs)
    (hy : ∀ fs', fs'.Tidy → fs.Grown fs' → Settles rule y fs') :
    Settles rule (do let a ← x; let b ← y; pure (f a b)) fs := by
  intro c
  rw [ensures_bind]
  refine (hx c).mono ?_
  rintro _ c₁ fs₁ ⟨a, ha, htidy, hgrown, hrests⟩
  rw [ensures_bind]
  refine (hy fs₁ htidy hgrown c₁).mono ?_
  rintro _ c₂ fs₂ ⟨a', ha', htidy', hgrown', hrests'⟩
  refine ensures_pure.mpr ⟨a + a', by rw [ha', ha, add_assoc], htidy', hgrown.trans hgrown',
    fun gs hgs hmore d => ?_⟩
  -- what the second program has made does not matter to the first
  rw [ensures_bind]
  refine (hrests gs hgs (hgrown'.trans hmore) d).mono ?_
  rintro _ d₁ _ ⟨rfl, b, hb, hrepeats⟩
  rw [ensures_bind]
  refine (hrests' _ hgs hmore d₁).mono ?_
  rintro _ d₂ _ ⟨rfl, b', hb', hrepeats'⟩
  exact ensures_pure.mpr ⟨rfl, b + b', by rw [hb', hb, add_assoc], hrepeats.add hrepeats'⟩

/-- A report settles: an error is one again. -/
lemma report_settles (entry : LogEntry) (hfs : fs.Tidy) : Settles rule (report entry) fs := by
  unfold report
  split_ifs
  · refine Counts.settles (a := { errors := 1 }) ?_ ⟨rfl, rfl, rfl, by simp⟩ hfs
    exact counts_note fun c => by ext1 <;> simp [tally]
  · refine Counts.settles (a := 0) (fun c _ => ?_) ⟨rfl, rfl, rfl, fun _ => ⟨rfl, rfl⟩⟩ hfs
    exact ensures_modify.mpr ⟨rfl, (add_zero c.tally).symm⟩

variable {s : CreateSettings} {outside : Outside}

/-- What a visit of a file has done is not done again. -/
lemma Filing.repeats {supply : Option ByteArray} {a b : Tally} {fs' gs gs' : Memory}
    (h : Filing supply place a fs fs') (hgrown : fs'.Grown gs) (h' : Filing supply place b gs gs') :
    gs' = gs ∧ a.Repeats b := by
  cases h' with
  | wrote hsupply hnone =>
      -- nothing was there at first either, so the first visit has written the file
      have hbefore := hgrown.none_before hnone
      cases h with
      | wrote _ _ _ _ hfile => exact absurd hbefore hfile.ne_none
      | kept hfile => exact absurd hbefore hfile.ne_none
      | blocked hfolder => simp [hfolder] at hbefore
      | missing hmissing => exact absurd hmissing hsupply
  | kept hfile =>
      cases h with
      | blocked hfolder => exact absurd (hgrown.folder _ hfolder) hfile.ne_folder
      | wrote | kept | missing => exact ⟨rfl, rfl, rfl, rfl, by simp⟩
  | blocked hfolder =>
      cases h with
      | wrote _ _ _ _ hfile => exact absurd hfolder (hgrown.file _ hfile).ne_folder
      | kept hfile => exact absurd hfolder (hgrown.file _ hfile).ne_folder
      | blocked | missing => exact ⟨rfl, rfl, rfl, rfl, by simp⟩
  | missing hmissing hnone =>
      have hbefore := hgrown.none_before hnone
      cases h with
      | wrote hsupply => exact absurd hmissing hsupply
      | kept hfile => exact absurd hbefore hfile.ne_none
      | blocked hfolder => simp [hfolder] at hbefore
      | missing => exact ⟨rfl, rfl, rfl, rfl, by simp⟩

lemma Filing.grown {supply : Option ByteArray} {a : Tally} {fs' : Memory}
    (h : Filing supply place a fs fs') (hfs : fs.Tidy) : fs'.Tidy ∧ fs.Grown fs' := by
  cases h with
  | wrote _ _ hgs hgrown => exact ⟨hgs, hgrown⟩
  | kept | blocked | missing => exact ⟨hfs, .refl _⟩

/-- **The visit of a file** settles. -/
theorem visitFile_settles (hdry : s.options.dryRun = false)
    (hoverwrite : s.options.overwrite = false) (h : Inside place fs) (name : AcceptedName)
    (f : FileNode) (env : Environment) :
    Settles (Memory.steady outside) (visitFile s name f (place.descend name) env) fs := by
  intro c
  refine (visitFile_filing hdry hoverwrite h name f env c).mono ?_
  rintro _ c' fs' ⟨a, ha, hfiling⟩
  obtain ⟨htidy, hgrown⟩ := hfiling.grown h.tidy
  refine ⟨a, ha, htidy, hgrown, fun gs hgs hmore d => ?_⟩
  have hinside := h.grown hgs (hgrown.trans hmore)
  refine (visitFile_filing hdry hoverwrite hinside name f env d).mono ?_
  rintro _ d' gs' ⟨b, hb, hagain⟩
  obtain ⟨hsame, hrepeats⟩ := hfiling.repeats hmore hagain
  exact ⟨hsame, b, hb, hrepeats⟩

/-- A folder that is there is entered. -/
lemma Opening.entered_of_folder {a : Tally} {opened : Option (Unit × Bool)} {fs' : Memory}
    (h : Opening place a opened fs fs') (hfolder : fs.slot? (components place.path) = some .folder) :
    fs' = fs ∧ a = 0 ∧ opened = some ((), false) := by
  cases h with
  | made hnone => simp [hfolder] at hnone
  | entered => exact ⟨rfl, rfl, rfl⟩
  | blocked hfile => exact absurd hfolder hfile.ne_folder

/-- Where a file is, a folder is not opened. -/
lemma Opening.blocked_of_hasFile {a : Tally} {opened : Option (Unit × Bool)} {fs' : Memory}
    (h : Opening place a opened fs fs') (hfile : fs.HasFile (components place.path)) :
    fs' = fs ∧ a = { errors := 1 } ∧ opened = none := by
  cases h with
  | made hnone => exact absurd hnone hfile.ne_none
  | entered hfolder => exact absurd hfolder hfile.ne_folder
  | blocked => exact ⟨rfl, rfl, rfl⟩

/-- A folder that is opened is there afterwards. -/
lemma Opening.opened {a : Tally} {o : Unit × Bool} {fs' : Memory}
    (h : Opening place a (some o) fs fs') (hfs : fs.Tidy) :
    o.2 = false ∧ fs'.Tidy ∧ fs.Grown fs' ∧ fs'.slot? (components place.path) = some .folder ∧
      a.Repeats 0 := by
  cases h with
  | made hnone hgs hgrown hfolder => exact ⟨rfl, hgs, hgrown, hfolder, rfl, rfl, rfl, by simp⟩
  | entered hfolder => exact ⟨rfl, hfs, .refl _, hfolder, rfl, rfl, rfl, by simp⟩

/-- **The visit of a folder** settles with what is in it. -/
theorem openFolder_settles (hdry : s.options.dryRun = false) (h : Inside place fs)
    (name : AcceptedName) {walkChildren : Cursor → CreateM (List Unit)}
    (hinside : ∀ inner fs, Inside inner fs →
      Settles (Memory.steady outside) (walkChildren inner) fs) :
    Settles (Memory.steady outside) (Plan.openFolder (visitor s) name place walkChildren) fs := by
  intro c
  rw [Plan.openFolder, ensures_bind]
  refine (enterFolder_opening hdry h name c).mono ?_
  rintro opened c₁ fs₁ ⟨a, ha, hopening⟩
  rcases opened with _ | ⟨⟨⟩, isPlanned⟩
  · cases hopening with
    | blocked hfile =>
        refine ensures_pure.mpr ⟨_, ha, h.tidy, .refl _, fun gs hgs hmore d => ?_⟩
        rw [ensures_bind]
        refine (enterFolder_opening hdry (h.grown hgs hmore) name d).mono ?_
        rintro opened d₁ gs₁ ⟨b, hb, hagain⟩
        obtain ⟨rfl, rfl, rfl⟩ := hagain.blocked_of_hasFile (hmore.file _ hfile)
        exact ensures_pure.mpr ⟨rfl, _, hb, rfl, rfl, rfl, by simp⟩
  · obtain ⟨hreal, htidy, hgrown, hfolder, hopens⟩ := hopening.opened h.tidy
    obtain rfl : isPlanned = false := hreal
    have hinner : Inside { place.descend name with
        isPlanned := (place.descend name).isPlanned || false } fs₁ :=
      ⟨htidy, by rw [Bool.or_false]; exact h.real, hfolder⟩
    dsimp only
    rw [ensures_bind]
    refine (hinside _ fs₁ hinner c₁).mono ?_
    rintro _ c₂ fs₂ ⟨a', ha', htidy', hgrown', hrests⟩
    refine ensures_pure.mpr ⟨a + a', by rw [ha', ha, add_assoc], htidy', hgrown.trans hgrown',
      fun gs hgs hmore d => ?_⟩
    have hstill := hgrown'.trans hmore
    rw [ensures_bind]
    refine (enterFolder_opening hdry (h.grown hgs (hgrown.trans hstill)) name d).mono ?_
    rintro opened d₁ gs₁ ⟨b, hb, hagain⟩
    obtain ⟨rfl, rfl, rfl⟩ := hagain.entered_of_folder (hstill.folder _ hfolder)
    dsimp only
    rw [ensures_bind]
    refine (hrests _ hgs hmore d₁).mono ?_
    rintro _ d₂ gs₂ ⟨rfl, b', hb', hrepeats⟩
    exact ensures_pure.mpr ⟨rfl, 0 + b', by rw [hb', hb, add_assoc], hopens.add hrepeats⟩

/-- **A plan settles**, since its visits do. -/
theorem perform_settles (hdry : s.options.dryRun = false)
    (hoverwrite : s.options.overwrite = false) (p : Plan) (h : Inside place fs) :
    Settles (Memory.steady outside) (p.perform (visitor s) place) fs := by
  induction p generalizing place fs with
  | done => exact settles_pure _ h.tidy
  | report notice next ih =>
      have hreport : Settles (Memory.steady outside)
          ((visitor s).report (notice.entry (visitor s).isDry)) fs := report_settles _ h.tidy
      have hboth := hreport.andThen (f := fun _ items => items) fun fs' hfs' hgrown =>
        ih (h.grown hfs' hgrown)
      rw [Plan.perform]
      simpa only [bind_pure] using hboth
  | refused kind next ih =>
      exact (settles_pure _ h.tidy).andThen fun fs' hfs' hgrown => ih (h.grown hfs' hgrown)
  | file name f env next ih =>
      exact (visitFile_settles hdry hoverwrite h name f env).andThen fun fs' hfs' hgrown =>
        ih (h.grown hfs' hgrown)
  | folder name inside next ihInside ih =>
      refine (openFolder_settles hdry h name fun inner fs hinner => ihInside hinner).andThen
        fun fs' hfs' hgrown => ih (h.grown hfs' hgrown)
  | group label inside next ihInside ih =>
      have hgroup : ∀ children, (visitor s).group label place children = pure none := fun _ => rfl
      simp only [Plan.perform, hgroup, pure_bind]
      exact (ihInside h).andThen fun fs' hfs' hgrown => ih (h.grown hfs' hgrown)

end

/-- Without commands, creating settles. -/
lemma create_ensures_twice {s : CreateSettings} {outside : Outside}
    (hdry : s.options.dryRun = false) (hoverwrite : s.options.overwrite = false)
    (hhooks : s.options.runHooks = false) (schema : Schema) {output : String} (scope : Scope)
    {fs : Memory} (hfs : fs.Tidy) (houtput : fs.slot? (components output) = some .folder) :
    (create s schema output scope).Ensures (Memory.steady outside) (fun c fs' =>
      (create s schema output scope).Ensures (Memory.steady outside)
        (fun d gs => gs = fs' ∧ c.tally.Repeats d.tally) fs') fs := by
  have hstart : Inside { path := output } fs := ⟨hfs, rfl, houtput⟩
  have hzero : ∀ a : Tally, tally {} + a = a := zero_add
  simp only [create, walk_eq_perform, ensures_run, ensures_bind, hhooks, Bool.false_eq_true,
    ↓reduceIte, ensures_pure]
  refine (perform_settles hdry hoverwrite _ hstart {}).mono ?_
  rintro _ c fs' ⟨a, ha, htidy, -, hrests⟩
  refine (hrests fs' htidy (.refl _) {}).mono ?_
  rintro _ d gs ⟨rfl, b, hb, hrepeats⟩
  rw [hzero] at ha hb
  exact ⟨rfl, by rw [ha, hb]; exact hrepeats⟩

end Creation

/-- **Creating again changes nothing.** Where files are kept in memory, what is fetched or
generated depends on what is asked for alone, files are not overwritten and no commands are
run, a second run that creates the same leaves all as the first has left it. It records
nothing and makes nothing. If nothing went wrong in the first run then nothing does in the
second, which skips all files that the first has written or skipped. -/
theorem create_twice {σ : Type} {host : Host (StateM σ)} {view : σ → Memory} {outside : Outside}
    (hhost : host.Within view (Memory.steady outside)) {s : CreateSettings}
    (hdry : s.options.dryRun = false) (hoverwrite : s.options.overwrite = false)
    (hhooks : s.options.runHooks = false) (schema : Schema) {output : String} (scope : Scope)
    {before : σ} (hbefore : (view before).Reachable) (houtput : (view before).isFolder output) :
    ∃ c between d after, (create s schema output scope).on host before = (c, between) ∧
      (create s schema output scope).on host between = (d, after) ∧
      view after = view between ∧ d.items = #[] ∧ d.summary.foldersCreated = 0 ∧
      d.summary.filesCreated = 0 ∧ d.summary.filesDownloaded = 0 ∧
      d.summary.filesGenerated = 0 ∧
      (c.summary.errors = 0 → d.summary.errors = 0 ∧ d.summary.skipped =
        c.summary.skipped + c.summary.filesCreated + c.summary.filesDownloaded +
          c.summary.filesGenerated) := by
  have hfolder : (view before).slot? (components output) = some .folder := by
    simpa [Memory.isFolder] using houtput
  have hfirst := hhost.on (s := before)
    (Creation.create_ensures_twice hdry hoverwrite hhooks schema scope hbefore.tidy hfolder)
  rcases hrun : (create s schema output scope).on host before with ⟨c, between⟩
  rw [hrun] at hfirst
  have hsecond := hhost.on (s := between) hfirst
  rcases hagain : (create s schema output scope).on host between with ⟨d, after⟩
  rw [hagain] at hsecond
  obtain ⟨hview, hitems, hfolders, hfiles, hskipped⟩ := hsecond
  simp only [Creation.tally, Nat.add_eq_zero_iff] at hitems hfolders hfiles hskipped
  obtain ⟨⟨hcreated, hdownloaded⟩, hgenerated⟩ := hfiles
  refine ⟨c, between, d, after, rfl, hagain, hview, ?_, hfolders, hcreated, hdownloaded, hgenerated,
    fun herrors => ?_⟩
  · simpa using hitems
  · obtain ⟨hnone, hcount⟩ := hskipped herrors
    exact ⟨hnone, by omega⟩

/-- Of two files and a folder of one name, one file comes first, and the others do not come
when the schema is created again. -/
theorem create_twice_of_file :
    let outside : Outside := { fetch := fun _ => .ok ⟨#[1, 2, 3]⟩ }
    let s : CreateSettings :=
      { limits := {}, today := ⟨2024, 1, 1, by decide⟩, equipment := { canFetch := true },
        options := {} }
    let schema : Schema :=
      { root := .folder "a" [.file { name := "b", url := some "https://example.com/b" },
          .file { name := "b", content := some "text" }, .folder "b" [] ∅] ∅ }
    let before := (Memory.empty.makeFolder "out").2
    ∃ c between d, (create s schema "out" default).on (Memory.host outside) before =
        (c, between) ∧
      (create s schema "out" default).on (Memory.host outside) between = (d, between) ∧
      d.items = #[] := by
  intro outside s schema before
  have hbefore : (id before : Memory).Reachable := .call {} (.makeFolder "out") .empty
  have houtput : (id before : Memory).isFolder "out" := by decide
  obtain ⟨c, between, d, after, hfirst, hsecond, hview, hitems, -⟩ :=
    create_twice (Memory.host_steady outside) (s := s) rfl rfl rfl schema default hbefore houtput
  obtain rfl : after = between := hview
  exact ⟨c, after, d, hfirst, hsecond, hitems⟩

end Scaffold

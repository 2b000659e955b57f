import Mathlib.Tactic
import Scaffold.Proofs.Complaints
import Scaffold.Proofs.Isolation

/-!
A run with nothing in its way.

* `LogEntry.IsObstacle`: a message that a file was kept, or that a file or a folder could not be
  made where it should be;
* `Creation.Unhindered`: no file has been skipped in between, and no such message was added;
* `Creation.Passes`: started on a file system, a program is unhindered. A visit is, where nothing
  is at its place (`visitFile_passes`, `enterFolder_passes`);
* `perform_passes`: so is a plan whose visits come to different new places, by induction on the
  plan; what was visited before leaves the places of the later visits alone;
* `create_unhindered`: hence so is a run.
-/

namespace Scaffold

open Scaffold.Path Variable

/-- A message that something is there, or that something could not be made. -/
def LogEntry.IsObstacle (entry : LogEntry) : Prop :=
  "Skipped (exists): ".toList <+: entry.message.toList ∨
    "Failed to ".toList <+: entry.message.toList

instance (entry : LogEntry) : Decidable entry.IsObstacle :=
  inferInstanceAs (Decidable (_ ∨ _))

lemma Notice.not_isObstacle (isDry : Bool) (notice : Notice) :
    ¬ (notice.entry isDry).IsObstacle := by
  cases notice with
  | rounds times name => cases isDry <;> simp [entry, LogEntry.IsObstacle, toString]
  | tooDeep | invalidName | orphaned | invalidVariable | noRounds | invalidCount
  | tooManyRounds => simp [entry, LogEntry.IsObstacle, toString]

namespace Creation

/-- In between no file was skipped, and no message tells of an obstacle. -/
structure Unhindered (c c' : Creation) : Prop where
  skipped : c'.summary.skipped = c.summary.skipped
  logs : Utters logs (¬ ·.IsObstacle) c c'

instance : Std.Refl Unhindered := ⟨fun c => ⟨rfl, Std.Refl.refl c⟩⟩

instance : IsTrans Creation Unhindered where
  trans _ _ _ h h' := ⟨h'.skipped.trans h.skipped, IsTrans.trans _ _ _ h.logs h'.logs⟩

/-- Started on a file system, a program is unhindered. -/
def Passes {α σ : Type} (rule : Run.Rule σ) (fs : σ) (x : CreateM α) : Prop :=
  ∀ c, Ensures rule x c fs fun _ c' _ => Unhindered c c'

section

variable {α β σ : Type} {rule : Run.Rule σ} {fs : σ}

/-! ### Messages -/

lemma unhindered_log {kind : LogKind} {message : String} {details : Option String}
    (h : ¬ LogEntry.IsObstacle ⟨kind, message, details⟩) :
    Keeps rule Unhindered (log kind message details) fun _ => True :=
  keeps_modify fun _ => ⟨rfl, .push rfl h⟩

lemma unhindered_count {change : CreationSummary → CreationSummary}
    (h : ∀ summary, (change summary).skipped = summary.skipped) :
    Keeps rule Unhindered (count change) fun _ => True :=
  keeps_modify fun c => ⟨h c.summary, .of_eq rfl⟩

lemma unhindered_note {change : CreationSummary → CreationSummary} {kind : LogKind}
    {message : String} {details : Option String}
    (hchange : ∀ summary, (change summary).skipped = summary.skipped)
    (h : ¬ LogEntry.IsObstacle ⟨kind, message, details⟩) :
    Keeps rule Unhindered (do count change; log kind message details) fun _ => True :=
  (unhindered_count hchange).bind fun _ _ => unhindered_log h

lemma unhindered_fail {message details : String}
    (h : ¬ LogEntry.IsObstacle ⟨.error, message, details⟩) :
    Keeps rule Unhindered (fail message details) fun _ => True :=
  unhindered_note (fun _ => rfl) h

lemma unhindered_report {entry : LogEntry} (h : ¬ entry.IsObstacle) :
    Keeps rule Unhindered (report entry) fun _ => True := by
  unfold report
  split_ifs
  · refine (unhindered_count ?_).bind fun _ _ => unhindered_log h
    exact fun _ => rfl
  · exact unhindered_log h

lemma unhindered_record (place : Cursor) (kind : ItemKind) (preExisted : Bool) :
    Keeps rule Unhindered (record place kind preExisted) fun _ => True :=
  keeps_modify fun _ => ⟨rfl, .of_eq rfl⟩

lemma unhindered_reportFault (name : String) (fault : Option TemplateError) :
    Keeps rule Unhindered (reportFault name fault) fun _ => True := by
  cases fault with
  | none => exact keeps_pure trivial
  | some e => exact unhindered_log (by simp [LogEntry.IsObstacle, toString])

lemma unhindered_prepareDownload (name : String) (env : Environment) (bytes : ByteArray) :
    Keeps rule Unhindered (prepareDownload name env bytes) fun _ => True := by
  unfold prepareDownload
  split
  · exact keeps_pure trivial
  · split
    · exact keeps_pure trivial
    · exact (unhindered_log (by simp [LogEntry.IsObstacle, toString])).bind fun _ _ =>
        keeps_pure trivial

/-! ### Programs one after the other -/

lemma passes_of_keeps {x : CreateM α} {Q : α → Prop} (hx : Keeps rule Unhindered x Q) :
    Passes rule fs x :=
  fun c => (hx c fs).mono fun _ _ _ h => h.2.1

/-- What goes before leaves the files alone. -/
lemma Passes.after {x : CreateM α} {f : α → CreateM β} {Q : α → Prop}
    (hx : Keeps rule Unhindered x Q) (hf : ∀ a, Q a → Passes rule fs (f a)) :
    Passes rule fs (x >>= f) := by
  intro c
  rw [ensures_bind]
  refine (hx c fs).mono ?_
  rintro a c' s ⟨ha, hfirst, rfl⟩
  exact (hf a ha c').mono fun _ _ _ hmore => IsTrans.trans _ _ _ hfirst hmore

/-- What is made of the result is unhindered, if all before it is. -/
lemma Passes.map {x : CreateM α} {f : α → β} (hx : Passes rule fs x) :
    Passes rule fs (do let a ← x; pure (f a)) :=
  fun c => ensures_bind.mpr ((hx c).mono fun _ _ _ h => ensures_pure.mpr h)

/-! ### Files -/

/-- Writing at a place always goes well. -/
def Writes (rule : Run.Rule σ) (fs : σ) (place : Cursor) : Prop :=
  ∀ bytes reply fs', rule fs (.write place.path bytes) reply fs' → reply = .ok ()

variable {place : Cursor} {preExisted : Bool}

lemma passes_write (h : Writes rule fs place) {bytes : ByteArray}
    {f : Except Failure Unit → CreateM β} (hf : Keeps rule Unhindered (f (.ok ())) fun _ => True) :
    Passes rule fs (write place bytes preExisted >>= f) := by
  intro c
  rw [ensures_bind, write, ensures_bind, ask, ensures_call]
  intro reply fs' hreply
  obtain rfl := h _ _ _ hreply
  simp only [ensures_bind, record, ensures_modify, ensures_pure]
  refine (hf _ fs').mono fun _ c' _ hdone => ⟨?_, ?_⟩
  · exact hdone.2.1.skipped
  · exact hdone.2.1.logs

section Files

variable {s : CreateSettings} {outside : Outside} {name : String} {f : FileNode}
  {env : Environment} (hrule : outside.Serves rule) (hdry : s.options.dryRun = false)
  (hwrites : Writes rule fs place)

include hrule

/-- What is asked for from outside changes nothing. -/
lemma unhindered_ask {c : Call} (hpath : c.path? = none) :
    Keeps rule Unhindered (ask c) fun _ => True := by
  intro t st
  rw [ask, ensures_call]
  intro reply st' hreply
  obtain ⟨rfl, -⟩ := hrule _ _ _ _ hreply hpath
  exact ⟨trivial, Std.Refl.refl t, rfl⟩

lemma unhindered_fetch (url : String) : Keeps rule Unhindered (fetch s url) fun _ => True := by
  unfold fetch
  split_ifs
  · exact keeps_pure trivial
  · refine (unhindered_ask hrule rfl).bind fun reply _ => ?_
    split
    · exact keeps_pure trivial
    · split_ifs
      · exact keeps_pure trivial
      · exact keeps_pure trivial

lemma unhindered_generateBytes (request : Request) :
    Keeps rule Unhindered (generateBytes s request) fun _ => True := by
  unfold generateBytes
  split_ifs
  · exact keeps_pure trivial
  · exact unhindered_ask hrule rfl

include hdry hwrites

/-- **A file that can be written** is unhindered, whatever its source is; if that fails, then not
for want of a place. -/
theorem passes_writeFile : Passes rule fs (writeFile s name f place env preExisted) := by
  unfold writeFile
  split
  · unfold download
    split
    · exact passes_of_keeps (unhindered_fail (by simp [LogEntry.IsObstacle, toString]))
    simp only [hdry, Bool.false_eq_true, ↓reduceIte]
    refine Passes.after (unhindered_fetch hrule _) fun fetched _ => ?_
    split
    · exact passes_of_keeps (unhindered_fail (by simp [LogEntry.IsObstacle, toString]))
    refine Passes.after (unhindered_prepareDownload _ _ _) fun prepared _ => ?_
    refine passes_write hwrites (unhindered_note (fun _ => rfl) ?_)
    cases prepared.2 <;> simp [LogEntry.IsObstacle, toString]
  · simp only [generate, hdry, Bool.false_eq_true, ↓reduceIte]
    refine Passes.after (unhindered_generateBytes hrule _) fun generated _ => ?_
    split
    · exact passes_of_keeps (unhindered_fail (by simp [LogEntry.IsObstacle, toString]))
    · exact passes_write hwrites
        (unhindered_note (fun _ => rfl) (by simp [LogEntry.IsObstacle, toString]))
  · simp only [writeInline, writeText, hdry, Bool.false_eq_true, ↓reduceIte]
    refine Passes.after (unhindered_reportFault _ _) fun _ _ => ?_
    exact passes_write hwrites
      (unhindered_note (fun _ => rfl) (by simp [LogEntry.IsObstacle, toString]))

end Files

end

/-! ### Visits -/

section Visits

variable {s : CreateSettings} {outside : Outside} {fs : Memory} {place : Cursor}
  {name : AcceptedName} {f : FileNode} {env : Environment}

/-- Where nothing is, in a folder that is there, a file can be written. -/
lemma writes_of_none (h : Inside place fs)
    (hnew : fs.slot? (components (place.descend name).path) = none) :
    Writes (Memory.disrupted outside ∅ ∅) fs (place.descend name) := by
  rintro bytes reply fs' (⟨hbreaks, -⟩ | ⟨-, ⟨-, hreply⟩, -⟩)
  · exact hbreaks.elim
  · rw [hreply (by simp [Call.path?]), Memory.answer,
      Memory.write_eq_set bytes (by simp [hnew]) (h.hasParent name)]

/-- **The visit of a file** is unhindered where nothing is. -/
theorem visitFile_passes (hdry : s.options.dryRun = false) (h : Inside place fs)
    (hnew : fs.slot? (components (place.descend name).path) = none) :
    Passes (Memory.disrupted outside ∅ ∅) fs (visitFile s name f (place.descend name) env) := by
  intro c
  have hreal : (place.descend name).isPlanned = false := h.real
  rw [visitFile, ensures_bind, look, hreal, if_neg (by simp), ask, ensures_call]
  intro reply fs' hreply
  obtain ⟨rfl, rfl⟩ := Memory.disrupted_entry hreply
  simp only [Memory.entry_of_none hnew]
  exact (passes_writeFile Memory.disrupted_serves hdry (writes_of_none h hnew)).map c

/-- **The visit of a folder** is unhindered where nothing is. -/
theorem enterFolder_passes (hdry : s.options.dryRun = false) (h : Inside place fs)
    (hnew : fs.slot? (components (place.descend name).path) = none) :
    Passes (Memory.disrupted outside ∅ ∅) fs (enterFolder s name (place.descend name)) := by
  intro c
  have hreal : (place.descend name).isPlanned = false := h.real
  rw [enterFolder, hreal, if_neg (by simp), ensures_bind, ask, ensures_call]
  intro reply fs' hreply
  obtain ⟨rfl, rfl⟩ := Memory.disrupted_entry hreply
  simp only [Memory.entry_of_none hnew, hdry, Bool.false_eq_true, ↓reduceIte]
  rw [makeFolder, ensures_bind, ask, ensures_call]
  rintro reply gs (⟨hbreaks, -⟩ | ⟨-, ⟨-, hreply⟩, -⟩)
  · exact hbreaks.elim
  obtain ⟨made, hmade, -⟩ := Memory.makeFolder_of_hasParent h.tidy hnew (h.hasParent name)
  rw [hreply (by simp [Call.path?]), Memory.answer, hmade]
  have hrest : Keeps (Memory.disrupted outside ∅ ∅) Unhindered (do
      count fun c => { c with foldersCreated := c.foldersCreated + 1 }
      record (place.descend name) .folder false
      log .success s!"Created folder: {name}" (place.descend name).shown
      return some ((), false)) fun _ => True := by
    refine (unhindered_count ?_).bind fun _ _ =>
      (unhindered_record _ _ _).bind fun _ _ => (unhindered_log ?_).bind fun _ _ => ?_
    · exact fun _ => rfl
    · simp [LogEntry.IsObstacle, toString]
    · exact keeps_pure trivial
  exact (hrest c gs).mono fun _ _ _ hdone => hdone.2.1

end Visits

/-! ### Plans -/

section Plans

variable {α β : Type} {s : CreateSettings} {outside : Outside}
  {ends : Visit → Option Memory.Slot} {before fs : Memory} {visits visits' : List Visit}
  {place : Cursor}

/-- A program that leaves the places of later visits alone, and then one that makes these. -/
lemma Passes.bind {x : CreateM α} {rest : α → CreateM β}
    (hx : Passes (Memory.disrupted outside ∅ ∅) fs x)
    (hreaches : Reaches (Memory.disrupted outside ∅ ∅) ends visits fs x)
    (h : Ahead ∅ before (visits ++ visits') place fs)
    (hplace : components place.path ∉ visits.map Visit.key)
    (hrest : ∀ a fs', Ahead ∅ before visits' place fs' →
      Passes (Memory.disrupted outside ∅ ∅) fs' (rest a)) :
    Passes (Memory.disrupted outside ∅ ∅) fs (x >>= rest) := by
  intro c
  rw [ensures_bind]
  refine ((hx c).and (hreaches c)).mono fun a c' fs' ⟨hfirst, hdone⟩ => ?_
  have hhere : Inside place fs' := ⟨hdone.tidy, h.real, (hdone.kept _ hplace).trans h.here⟩
  refine (hrest a fs' (h.right hdone hhere h.accessible) c').mono fun _ _ _ hmore => ?_
  exact IsTrans.trans _ _ _ hfirst hmore

/-- Visits ahead that are new find nothing. -/
lemma Ahead.slot?_eq_none (h : Ahead ∅ before visits place fs)
    (hnew : ∀ v ∈ visits, before.slot? v.key = none) {v : Visit} (hv : v ∈ visits) :
    fs.slot? v.key = none :=
  (h.agrees v hv).trans (hnew v hv)

/-- **A new folder** is made and entered, and what is in it is new. -/
theorem openFolder_passes (hdry : s.options.dryRun = false) {name : AcceptedName} {inside : Plan}
    (h : Ahead ∅ before ((Plan.folder name inside .done).visits before place.path place.relative)
      place fs)
    (hnew : ∀ v ∈ (Plan.folder name inside .done).visits before place.path place.relative,
      before.slot? v.key = none)
    {walkChildren : Cursor → CreateM (List Unit)}
    (hinside : ∀ inner fs,
      Ahead ∅ before (inside.visits before inner.path inner.relative) inner fs →
      (∀ v ∈ inside.visits before inner.path inner.relative, before.slot? v.key = none) →
      Passes (Memory.disrupted outside ∅ ∅) fs (walkChildren inner)) :
    Passes (Memory.disrupted outside ∅ ∅) fs
      (Plan.openFolder (visitor s) name place walkChildren) := by
  intro c
  have hmem := Plan.mem_visits_folder before place name inside .done
  have hfree := h.slot?_eq_none hnew hmem
  have hpasses : Passes (Memory.disrupted outside ∅ ∅) fs
      (enterFolder s name (place.descend name)) := enterFolder_passes hdry h.toInside hfree
  have henters : Ensures (Memory.disrupted outside ∅ ∅)
      (enterFolder s name (place.descend name)) c fs fun opened _ fs' =>
        Entering (Visit.outcome? s outside ∅ ∅ before) ∅ before
          ⟨(place.descend name).path, (place.descend name).shown, none⟩ opened fs fs' :=
    enterFolder_enters hdry h.toInside h.accessible name _ (h.agrees _ hmem) c
  rw [Plan.openFolder, ensures_bind]
  refine ((hpasses c).and henters).mono ?_
  rintro opened c' fs' ⟨hfirst, hentering⟩
  cases hentering with
  | opened hnofile hunmade hdone hfolder =>
      rw [Plan.visits_folder_done hnofile] at h hnew
      obtain ⟨-, hnewInside⟩ := List.forall_mem_append.mp hnew
      have haccess : Memory.Accessible ∅ before (components (place.descend name).path) :=
        fun m hm _ => hm.fails
      let inner : Cursor :=
        { place.descend name with isPlanned := (place.descend name).isPlanned || false }
      have hnext : Ahead ∅ before (inside.visits before inner.path inner.relative) inner fs' :=
        h.right hdone ⟨hdone.tidy, Bool.or_eq_false_iff.mpr ⟨h.real, rfl⟩, hfolder⟩ haccess
      dsimp only
      rw [ensures_bind]
      refine (hinside inner fs' hnext hnewInside c').mono fun _ _ _ hmore => ?_
      exact ensures_pure.mpr (IsTrans.trans _ _ _ hfirst hmore)
  | blocked | unmade => exact ensures_pure.mpr hfirst

/-- **A plan whose visits come to different new places** is unhindered. -/
theorem perform_passes (hdry : s.options.dryRun = false) (p : Plan) {place : Cursor}
    (h : Ahead ∅ before (p.visits before place.path place.relative) place fs)
    (hnew : ∀ v ∈ p.visits before place.path place.relative, before.slot? v.key = none) :
    Passes (Memory.disrupted outside ∅ ∅) fs (p.perform (visitor s) place) := by
  induction p generalizing place fs with
  | done => exact fun c => ensures_pure.mpr (Std.Refl.refl c)
  | report notice next ih =>
      exact Passes.after (unhindered_report (notice.not_isObstacle _)) fun _ _ => ih h hnew
  | refused kind next ih => exact (ih h hnew).map
  | file name f env next ih =>
      rw [Plan.visits_file_append] at h hnew
      obtain ⟨hfirst, hrest⟩ := List.forall_mem_append.mp hnew
      have hfree := h.left.slot?_eq_none hfirst List.mem_cons_self
      have hpasses : Passes (Memory.disrupted outside ∅ ∅) fs
          (visitFile s name f (place.descend name) env) :=
        visitFile_passes hdry h.toInside hfree
      have hreaches : Reaches (Memory.disrupted outside ∅ ∅) (Visit.outcome? s outside ∅ ∅ before)
          ((Plan.file name f env .done).visits before place.path place.relative) fs
          (visitFile s name f (place.descend name) env) := visitFile_reaches hdry h.left
      refine hpasses.bind hreaches h Plan.place_not_mem_visits ?_
      exact fun _ fs' hahead => (ih hahead hrest).map
  | folder name inside next ihInside ih =>
      rw [Plan.visits_folder_append] at h hnew
      obtain ⟨hfirst, hrest⟩ := List.forall_mem_append.mp hnew
      have hpasses := openFolder_passes hdry h.left hfirst
        fun inner fs' hinner hnew' => ihInside hinner hnew'
      refine hpasses.bind (openFolder_reaches hdry h.left fun inner fs' hinner =>
        perform_reaches hdry inside hinner) h Plan.place_not_mem_visits ?_
      exact fun _ fs' hahead => (ih hahead hrest).map
  | group label inside next ihInside ih =>
      obtain ⟨hfirst, hrest⟩ := List.forall_mem_append.mp hnew
      refine (ihInside h.left hfirst).bind (perform_reaches hdry inside h.left) h
        Plan.place_not_mem_visits fun children fs' hahead => ?_
      exact (ih hahead hrest).map

end Plans

/-! ### Commands -/

section Commands

variable {outside : Outside}

lemma unhindered_reportCommand (command : String) (result : CommandResult) :
    Keeps (Memory.disrupted outside ∅ ∅) Unhindered (reportCommand command result)
      fun _ => True := by
  have hkept : Keeps (Memory.disrupted outside ∅ ∅) Unhindered
      (modify fun c : Creation => { c with hookResults := c.hookResults.push result })
      fun _ => True := keeps_modify fun _ => ⟨rfl, .of_eq rfl⟩
  unfold reportCommand
  dsimp only
  split
  · refine (unhindered_count ?_).bind fun _ _ => (unhindered_log ?_).bind fun _ _ => hkept
    · exact fun _ => rfl
    · simp [LogEntry.IsObstacle, toString]
  · refine (unhindered_count ?_).bind fun _ _ => (unhindered_log ?_).bind fun _ _ => hkept
    · exact fun _ => rfl
    · simp [LogEntry.IsObstacle, toString]

lemma commands_unhindered : CommandsKeep (Memory.disrupted outside ∅ ∅) Unhindered where
  entry path t fs := by
    rw [ask, ensures_call]
    intro reply fs' hreply
    exact ⟨trivial, Std.Refl.refl t, (Memory.disrupted_entry hreply).1⟩
  command _ _ := unhindered_ask Memory.disrupted_serves rfl
  report := unhindered_reportCommand
  would _ _ := unhindered_log (by simp [LogEntry.IsObstacle, toString])
  skipped _ := unhindered_log (by simp [LogEntry.IsObstacle])

end Commands

/-- **A run whose visits come to different new places** skips no file, and nothing is in its
way. -/
theorem create_unhindered {σ : Type} {host : Host (StateM σ)} {view : σ → Memory}
    {outside : Outside} (hhost : host.Within view (Memory.steady outside)) {s : CreateSettings}
    (hdry : s.options.dryRun = false) (schema : Schema) (output : String) (scope : Scope)
    {start : σ} (hstart : (view start).Reachable) (houtput : (view start).isFolder output)
    (hdistinct : ((s.visits schema output scope (view start)).map Visit.key).Nodup)
    (hnew : ∀ v ∈ s.visits schema output scope (view start), (view start).slot? v.key = none) :
    Unhindered {} ((create s schema output scope).on host start).1 := by
  have hcalm : host.Within view (Memory.disrupted outside ∅ ∅) := fun c st =>
    Memory.disrupted_of_steady (hhost c st)
  have hfolder := of_decide_eq_true houtput
  have hahead : Ahead ∅ (view start) (s.visits schema output scope (view start))
      { path := output } (view start) :=
    ⟨⟨hstart.tidy, rfl, hfolder⟩, hstart.tidy.accessible hfolder, fun _ _ => rfl, hdistinct⟩
  have hcommands : Keeps (Memory.disrupted outside ∅ ∅) Unhindered (if s.options.runHooks then do
      let folder ← hookFolder schema.root output (scope.environment s.today)
      runHooks s schema.commands folder (scope.environment s.today) else pure ())
      fun _ => True := by
    split_ifs
    · exact commands_unhindered.run s schema output _
    · exact keeps_pure trivial
  have hcreate : (create s schema output scope).Ensures (Memory.disrupted outside ∅ ∅)
      (fun c _ => Unhindered {} c) (view start) := by
    rw [create, walk_eq_perform, ensures_run, ensures_bind]
    have hplan : Passes (Memory.disrupted outside ∅ ∅) (view start)
        ((Plan.ofRoot s.toWalkSettings schema.root scope).perform (visitor s) { path := output }) :=
      perform_passes hdry _ hahead hnew
    refine (hplan {}).mono fun _ c fs hwalk => ?_
    refine (hcommands c fs).mono fun _ c' _ hdone => ?_
    exact IsTrans.trans _ _ _ hwalk hdone.2.1
  exact hcalm.on hcreate

end Creation

end Scaffold

import Mathlib.Tactic
import Scaffold.Host.Disk
import Scaffold.Proofs.Calls
import Scaffold.Proofs.Memory

/-!
Dry runs.

* `Call.Inspects`: a call only asks what is there. A dry run that creates, a preview and a
  dry run that undoes make no other calls;
* `Creation.Idle`: nothing was recorded and no command was run. Each visit of a dry run is
  idle (`Creation.visitor_idles`), whatever is replied;
* `Host.Still`: a view of the states of a host does not change by asking. So it is with
  files in memory and on a disk, also where calls are made to fail;
* `dry_runs_change_nothing`: so dry runs do not change it either, and creating returns no
  items and no results of commands.
-/

namespace Scaffold

open Scaffold.Path Variable

/-! ### Calls that only ask -/

/-- A call that only asks what is at a path. -/
def Call.Inspects : Call → Prop
  | .entry _ | .read _ | .list _ => True
  | .makeFolder _ | .write _ _ | .removeFile _ | .removeFolder _ | .fetch _ | .generate _
  | .command _ _ => False

/-- A view of the states of a host does not change by asking what is there. -/
def Host.Still {σ τ : Type} (host : Host (StateM σ)) (view : σ → τ) : Prop :=
  ∀ c st, c.Inspects → view (host c st).2 = view st

/-- Files in memory are left alone by asking, also where calls fail. -/
lemma Memory.still {σ : Type} {host : Host (StateM σ)} {view : σ → Memory}
    (hhost : host.Within view Memory.unreliable) : host.Still view := by
  intro c st hc
  rcases hhost c st with ⟨hview, -⟩ | ⟨hview, -⟩
  · cases c with
    | entry _ | read _ | list _ => exact hview
    | makeFolder _ | write _ _ | removeFile _ | removeFolder _ | fetch _ | generate _
    | command _ _ => exact hc.elim
  · exact hview

/-- Files on a disk are left alone by asking. -/
lemma Disk.host_still (outside : Outside) : (Disk.host outside).Still id := by
  intro c d hc
  cases c with
  | entry _ | read _ | list _ => rfl
  | makeFolder _ | write _ _ | removeFile _ | removeFolder _ | fetch _ | generate _
  | command _ _ => exact hc.elim

/-- Calls that are made to fail change nothing. -/
lemma Host.Still.failing {σ τ : Type} {host : Host (StateM σ)} {view : σ → τ}
    (h : host.Still view) (faults : Faults) : (host.failing faults).Still view := by
  intro c st hc
  rcases hreply : faults.reply? c with _ | reply
  · rw [Host.failing, hreply]
    exact h c st hc
  · rw [Host.failing, hreply]
    rfl

/-- A dry run that creates only asks. -/
lemma create_inspects {s : CreateSettings} (hdry : s.options.dryRun = true) (schema : Schema)
    (output : String) (scope : Scope) : (create s schema output scope).Every Call.Inspects := by
  have hreal : s.options.dryRun ≠ false := by simp [hdry]
  have hadmits : ∀ place, Creation.Admits s Call.Inspects place := fun place =>
    ⟨⟨(absurd · hreal), (absurd · hreal), (absurd · hreal)⟩, trivial, (absurd · hreal)⟩
  exact create_every (fun _ => True) (fun _ => True) (fun _ _ _ => trivial)
    (fun _ _ _ => trivial) (fun place _ => hadmits place) (absurd · hreal) schema trivial scope

/-- A preview only asks. -/
lemma preview_inspects (s : Preview.Settings) (schema : Schema) (output : String)
    (scope : Scope) : (preview s schema output scope).Every Call.Inspects :=
  preview_every s (fun _ => True) (fun _ => True) (fun _ _ _ => trivial) (fun _ _ _ => trivial)
    (fun _ _ => ⟨trivial, trivial⟩) schema trivial scope

/-- A dry run that undoes only asks. -/
lemma undo_inspects {s : Undo.Settings} (hdry : s.dryRun = true) (items : List CreatedItem) :
    (undo s items).Every Call.Inspects := by
  have hreal : s.dryRun ≠ false := by simp [hdry]
  exact undo_every (fun _ => trivial) (fun _ => trivial) (absurd · hreal) (absurd · hreal) items

/-! ### What a dry run that creates returns -/

namespace Creation

/-- Nothing was recorded and no command was run in between. -/
structure Idle (c c' : Creation) : Prop where
  items : c'.items = c.items
  hookResults : c'.hookResults = c.hookResults
  hooksExecuted : c'.summary.hooksExecuted = c.summary.hooksExecuted
  hooksFailed : c'.summary.hooksFailed = c.summary.hooksFailed

lemma Idle.refl (c : Creation) : c.Idle c := ⟨rfl, rfl, rfl, rfl⟩

lemma Idle.trans {c c' c'' : Creation} (h : c.Idle c') (h' : c'.Idle c'') : c.Idle c'' where
  items := h'.items.trans h.items
  hookResults := h'.hookResults.trans h.hookResults
  hooksExecuted := h'.hooksExecuted.trans h.hooksExecuted
  hooksFailed := h'.hooksFailed.trans h.hooksFailed

instance : Std.Refl Idle := ⟨Idle.refl⟩

instance : IsTrans Creation Idle := ⟨fun _ _ _ => Idle.trans⟩

/-- Any reply may come, and nothing is said of the surroundings. -/
def anyReply : Run.Rule Unit := fun _ _ _ _ => True

/-- Whatever is replied, a program records nothing and runs no command. -/
abbrev Idles {α : Type} (x : CreateM α) : Prop :=
  Keeps anyReply Idle x fun _ => True

lemma idles_pure {α : Type} (a : α) : Idles (pure a : CreateM α) :=
  keeps_pure trivial

lemma idles_ask (c : Call) : Idles (ask c) := fun t _ =>
  ensures_call.mpr fun _ _ _ => ⟨trivial, .refl t, rfl⟩

lemma idles_log (kind : LogKind) (message : String) (details : Option String) :
    Idles (log kind message details) :=
  keeps_modify fun _ => ⟨rfl, rfl, rfl, rfl⟩

/-- Counting something else than commands is idle. -/
lemma idles_note {change : CreationSummary → CreationSummary} {kind : LogKind} {message : String}
    {details : Option String} (hexecuted : ∀ s, (change s).hooksExecuted = s.hooksExecuted)
    (hfailed : ∀ s, (change s).hooksFailed = s.hooksFailed) :
    Idles (do count change; log kind message details) :=
  Keeps.bind (keeps_modify fun _ => ⟨rfl, rfl, hexecuted _, hfailed _⟩) fun _ _ =>
    idles_log _ _ _

lemma idles_fail (message details : String) : Idles (fail message details) :=
  idles_note (fun _ => rfl) fun _ => rfl

lemma idles_report (entry : LogEntry) : Idles (report entry) := by
  unfold report
  split_ifs
  · exact idles_note (fun _ => rfl) fun _ => rfl
  · exact idles_log _ _ _

/-- A visit that goes wrong is idle. -/
lemma idles_giveUp {γ : Type} (message details : String) :
    Idles (do fail message details; pure (none : Option γ)) :=
  (idles_fail _ _).bind fun _ _ => idles_pure _

lemma idles_planFolder (name : String) (place : Cursor) : Idles (planFolder name place) :=
  Keeps.bind (keeps_modify fun _ => ⟨rfl, rfl, rfl, rfl⟩) fun _ _ =>
    (idles_log _ _ _).bind fun _ _ => idles_pure _

lemma idles_look (place : Cursor) : Idles (look place) := by
  unfold look
  split_ifs
  · exact idles_pure _
  · exact idles_ask _

lemma idles_reportFault (name : String) (fault : Option TemplateError) :
    Idles (reportFault name fault) := by
  cases fault with
  | none => exact idles_pure _
  | some e => exact idles_log _ _ _

lemma idles_hookFolder (root : Node) (output : String) (env : Environment) :
    Idles (hookFolder root output env) := by
  unfold hookFolder
  split
  · dsimp only
    split
    · exact idles_pure _
    · refine (idles_ask _).bind fun found _ => ?_
      split <;> exact idles_pure _
  · exact idles_pure _

section

variable {s : CreateSettings} (hdry : s.options.dryRun = true)

include hdry

/-- Each source of a file is left alone: what would be written is counted. -/
lemma idles_writeFile (name : String) (f : FileNode) (place : Cursor) (env : Environment)
    (preExisted : Bool) : Idles (writeFile s name f place env preExisted) := by
  unfold writeFile
  split
  · unfold download
    split
    · exact idles_fail _ _
    · simp only [hdry, ↓reduceIte]
      exact idles_note (fun _ => rfl) fun _ => rfl
  · simp only [generate, hdry, ↓reduceIte]
    exact idles_note (fun _ => rfl) fun _ => rfl
  · simp only [writeInline, writeText, hdry, ↓reduceIte]
    exact (idles_reportFault _ _).bind fun _ _ => idles_note (fun _ => rfl) fun _ => rfl

lemma idles_visitFile (name : String) (f : FileNode) (place : Cursor) (env : Environment) :
    Idles (visitFile s name f place env) := by
  have hwrite : ∀ preExisted,
      Idles (do writeFile s name f place env preExisted; pure (none : Option Unit)) :=
    fun _ => (idles_writeFile hdry _ _ _ _ _).bind fun _ _ => idles_pure _
  unfold visitFile
  refine (idles_look place).bind fun found _ => ?_
  split
  · exact idles_giveUp _ _
  · exact hwrite false
  · split_ifs
    · exact idles_giveUp _ _
    · exact hwrite true
    · exact Keeps.bind (keeps_modify fun _ => ⟨rfl, rfl, rfl, rfl⟩) fun _ _ =>
        (idles_log _ _ _).bind fun _ _ => idles_pure _

lemma idles_enterFolder (name : String) (place : Cursor) : Idles (enterFolder s name place) := by
  unfold enterFolder
  split_ifs
  · exact idles_planFolder _ _
  · refine (idles_ask _).bind fun found _ => ?_
    split
    · exact idles_giveUp _ _
    · exact idles_planFolder _ _
    · split_ifs
      · exact (idles_log _ _ _).bind fun _ _ => idles_pure _
      · exact idles_giveUp _ _

lemma idles_runHooks (commands : List String) (folder : String) (env : Environment) :
    Idles (runHooks s commands folder env) := by
  unfold runHooks
  simp only [hdry, ↓reduceIte]
  split_ifs
  · exact idles_pure _
  · exact keeps_forM fun command => idles_log _ _ _

/-- **Each visit** of a dry run is idle. -/
theorem visitor_idles : (visitor s).Advances anyReply (fun x y => x.1.Idle y.1)
    fun _ _ => True where
  refl x := .refl x.1
  trans := .trans
  stays _ _ := trivial
  report _ t st := (idles_report _ t st).mono fun _ _ _ h => h.2.1
  enterFolder name _ t st _ := (idles_enterFolder hdry name _ t st).mono fun _ _ _ h =>
    ⟨h.2.1, fun _ _ _ => trivial⟩
  leaveFolder _ _ t _ := ensures_pure.mpr (.refl t)
  file name f _ env t st _ :=
    (idles_visitFile hdry name f _ env t st).mono fun _ _ _ h => h.2.1
  group _ _ _ t _ := ensures_pure.mpr (.refl t)
  invalidName _ _ t _ := ensures_pure.mpr (.refl t)

/-- A dry run that creates is idle. -/
lemma create_idles (schema : Schema) (output : String) (scope : Scope) :
    (create s schema output scope).Ensures anyReply (fun c _ => Idle {} c) () := by
  rw [create, walk_eq_perform, ensures_run, ensures_bind]
  refine ((visitor_idles hdry).perform _ trivial).mono fun _ c _ hwalk => ?_
  split_ifs
  · refine (((idles_hookFolder schema.root output _).bind fun folder _ =>
      idles_runHooks hdry schema.commands folder _) c ()).mono ?_
    rintro _ c' _ ⟨-, hhooks, -⟩
    exact hwalk.trans hhooks
  · exact ensures_pure.mpr hwalk

end

end Creation

/-- **Dry runs have no effect.** Whatever is replied, a dry run that creates, a preview and
a dry run that undoes only ask what is at paths. So they leave files alone, wherever these
are kept. Creating then returns no items and no results of commands. -/
theorem dry_runs_change_nothing {s : CreateSettings} (hdry : s.options.dryRun = true)
    (p : Preview.Settings) {u : Undo.Settings} (hundo : u.dryRun = true) (schema : Schema)
    (output : String) (scope : Scope) (items : List CreatedItem) :
    (create s schema output scope).Every Call.Inspects ∧
    (preview p schema output scope).Every Call.Inspects ∧
    (undo u items).Every Call.Inspects ∧
    (∀ {σ τ : Type} (host : Host (StateM σ)) (view : σ → τ), host.Still view → ∀ st,
        view ((create s schema output scope).on host st).2 = view st ∧
        view ((preview p schema output scope).on host st).2 = view st ∧
        view ((undo u items).on host st).2 = view st) ∧
    ∀ {σ : Type} (host : Host (StateM σ)) (st : σ),
      ∃ c, ((create s schema output scope).on host st).1 = c ∧ c.items = #[] ∧
        c.hookResults = #[] ∧ c.summary.hooksExecuted = 0 ∧ c.summary.hooksFailed = 0 := by
  have hcreate := create_inspects hdry schema output scope
  have hpreview := preview_inspects p schema output scope
  have hundo := undo_inspects hundo items
  refine ⟨hcreate, hpreview, hundo, fun host view hstill st => ?_, fun host st => ?_⟩
  · exact ⟨hcreate.on_eq view hstill st, hpreview.on_eq view hstill st,
      hundo.on_eq view hstill st⟩
  · have hany : host.Within (fun _ => ()) Creation.anyReply := fun _ _ => trivial
    have hidle := hany.on (s := st) (Creation.create_idles hdry schema output scope)
    exact ⟨_, rfl, hidle.items, hidle.hookResults, hidle.hooksExecuted, hidle.hooksFailed⟩

/-- With every way to act, a schema with commands that is run dry is neither written, fetched
nor carried out, in memory or on a disk, where a path cannot even be looked at. -/
theorem dry_run_of_commands :
    let s : CreateSettings :=
      { limits := {}, today := ⟨2024, 1, 1, by decide⟩, equipment := ⟨true, true, true⟩,
        options := { dryRun := true, overwrite := true, runHooks := true } }
    let schema : Schema :=
      { root := .folder "a" [.file { name := "b", content := some "text" },
          .file { name := "c", url := some "https://example.com/c" },
          .file { name := "d.png", generate := some .image }] ∅
        hooks := some ["rm -r b", "make"] }
    let faults : Faults := fun
      | .entry => [components "out/a/b"]
      | _ => []
    let memory := (Memory.empty.makeFolder "out/a").2
    let disk := (Disk.makeFolder {} "out/a").2
    (∃ c, (create s schema "out" default).on ((Memory.host {}).failing faults) memory =
      (c, memory) ∧ c.items = #[] ∧ c.hookResults = #[]) ∧
    ∃ c, (create s schema "out" default).on ((Disk.host {}).failing faults) disk =
      (c, disk) ∧ c.items = #[] ∧ c.hookResults = #[] := by
  intro s schema faults memory disk
  have hdry : ∀ {σ : Type} (host : Host (StateM σ)) (before : σ), host.Still id →
      ∃ c, (create s schema "out" default).on host before = (c, before) ∧ c.items = #[] ∧
        c.hookResults = #[] := by
    intro σ host before hhost
    obtain ⟨-, -, -, hstill, hidle⟩ := dry_runs_change_nothing (s := s) rfl
      ⟨s.toWalkSettings, true⟩ (u := { dryRun := true }) rfl schema "out" default []
    obtain ⟨c, hc, hitems, hresults, -⟩ := hidle host before
    have hfiles := (hstill host id hhost before).1
    rw [id_eq, id_eq] at hfiles
    exact ⟨c, Prod.ext hc hfiles, hitems, hresults⟩
  exact ⟨hdry _ memory (Memory.still (Memory.failing_within {} faults)),
    hdry _ disk ((Disk.host_still {}).failing faults)⟩

end Scaffold

import Mathlib.Tactic
import Scaffold.Proofs.Perform
import Scaffold.Proofs.Visits

/-!
Creating, step by step.

* `Creation.Step`: what happens between two states of a run that creates. It notes
  something, or visits a file or a folder in a folder that is there (`Entered`);
* `Step.tidy` and `Step.grown` carry through a run what later visits rely on: the file
  system stays tidy, files stay files and folders stay folders;
* `create_ensures_steps`: a run that creates goes by such steps, also if any calls fail.
  So an invariant of runs that create is shown by one case for each kind of visit.
-/

namespace Scaffold.Creation

open Scaffold.Path Variable

/-- A key is that of the output folder, or of a folder below it that is there. -/
def Entered (base key : Key) (fs : Memory) : Prop :=
  key = base ∨ (base <+: key ∧ fs.slot? key = some .folder)

/-- What happens between two states of a run that creates below an output folder. -/
inductive Step (s : CreateSettings) (base : Key) : Creation × Memory → Creation × Memory → Prop
  | note {c c' : Creation} {fs : Memory} : c'.items = c.items → Step s base (c, fs) (c', fs)
  | file {x y : Creation × Memory} {f : FileNode} {env : Environment} (place : Cursor)
      (name : AcceptedName) : Entered base (components place.path) x.2 →
      FileVisit True s f env (place.descend name) x y → Step s base x y
  | folder {x y : Creation × Memory} {opened : Option (Unit × Bool)} (place : Cursor)
      (name : AcceptedName) : Entered base (components place.path) x.2 →
      FolderVisit True (place.descend name) x opened y → Step s base x y

/-- The steps of a run that creates. -/
def Steps (s : CreateSettings) (base : Key) : Creation × Memory → Creation × Memory → Prop :=
  Relation.ReflTransGen (Step s base)

lemma Entered.isPrefix {base key : Key} {fs : Memory} (h : Entered base key fs) : base <+: key := by
  rcases h with rfl | ⟨hpre, -⟩
  · exact List.prefix_refl _
  · exact hpre

/-- What lies in an entered folder lies strictly below the output folder. -/
lemma Entered.below {base : Key} {place : Cursor} {fs : Memory}
    (h : Entered base (components place.path) fs) (name : AcceptedName) :
    base <+: components (place.descend name).path ∧
      base ≠ components (place.descend name).path := by
  rw [Cursor.components_descend]
  refine ⟨h.isPrefix.trans (List.prefix_append _ _), fun he => ?_⟩
  have hle := h.isPrefix.length_le
  have hlen := congrArg List.length he
  rw [List.length_append, List.length_singleton] at hlen
  omega

namespace Step

variable {s : CreateSettings} {base : Key} {x y : Creation × Memory}

lemma tidy (h : Step s base x y) (hx : x.2.Tidy) : y.2.Tidy := by
  cases h with
  | note hitems => exact hx
  | file place name hin hvisit =>
      cases hvisit with
      | wrote preExisted bytes hpre hoverwrite hcontent hwrote => exact hwrote.tidy
      | kept | blocked | failed => exact hx
  | folder place name hin hvisit =>
      cases hvisit with
      | made hnone hitems hskipped hfound hgs hmade hkept => exact hgs
      | entered | blocked | failed => exact hx

/-- Files stay files, and folders stay folders. -/
lemma grown (h : Step s base x y) : x.2.Grown y.2 := by
  cases h with
  | note hitems => exact .refl _
  | file place name hin hvisit =>
      cases hvisit with
      | wrote preExisted bytes hpre hoverwrite hcontent hwrote =>
          obtain ⟨spelling, hy, -⟩ := hwrote.slot
          rw [hy]
          exact .setFile hwrote.free _ _
      | kept | blocked | failed => exact .refl _
  | folder place name hin hvisit =>
      cases hvisit with
      | made hnone hitems hskipped hfound hgs hmade hkept => exact .made hmade hkept
      | entered | blocked | failed => exact .refl _

end Step

namespace Steps

variable {s : CreateSettings} {base : Key} {x y : Creation × Memory}

lemma note {c c' : Creation} {fs : Memory} (h : c'.items = c.items) :
    Steps s base (c, fs) (c', fs) :=
  .single (.note h)

lemma tidy (h : Steps s base x y) (hx : x.2.Tidy) : y.2.Tidy := by
  induction h with
  | refl => exact hx
  | tail _ hstep ih => exact hstep.tidy ih

lemma entered (h : Steps s base x y) {key : Key} (hkey : Entered base key x.2) :
    Entered base key y.2 := by
  induction h with
  | refl => exact hkey
  | tail _ hstep ih => exact ih.imp_right fun ⟨hpre, hk⟩ => ⟨hpre, hstep.grown.folder _ hk⟩

end Steps

/-! ### A walk -/

/-- Where a walk is: in a folder that is there, or in the output folder. -/
def At (base : Key) (place : Cursor) (x : Creation × Memory) : Prop :=
  x.2.Tidy ∧ place.isPlanned = false ∧ Entered base (components place.path) x.2

/-- The folder that was entered is there afterwards. -/
lemma FolderVisit.opened {mayFail : Prop} {place : Cursor} {x y : Creation × Memory}
    {o : Unit × Bool} (hne : components place.path ≠ [])
    (h : FolderVisit mayFail place x (some o) y) :
    o.2 = false ∧ y.2.slot? (components place.path) = some .folder := by
  cases h with
  | made hnone hitems hskipped hfound hgs hmade hkept =>
      exact ⟨rfl, (hmade _ hne (List.prefix_refl _)).1⟩
  | entered hs => exact ⟨rfl, hs⟩

/-- **Each visit** of a walk that creates is a step. -/
theorem visitor_advances {s : CreateSettings} (hdry : s.options.dryRun = false) (base : Key) :
    (visitor s).Advances (Memory.serving True s.limits.maxDownloadBytes) (Steps s base)
      (At base) where
  refl _ := .refl
  trans h h' := h.trans h'
  stays := fun ⟨htidy, hplanned, hin⟩ h => ⟨h.tidy htidy, hplanned, h.entered hin⟩
  report notice c fs := by
    have hitems : ∀ (kind : LogKind) (message : String) (details : Option String) (c' : Creation),
        c'.items = c.items →
        Ensures (Memory.serving True s.limits.maxDownloadBytes) (log kind message details) c' fs
          fun _ c'' fs' => Steps s base (c, fs) (c'', fs') :=
      fun _ _ _ c' h => ensures_modify.mpr (.note h)
    dsimp only [visitor, report]
    split_ifs
    · rw [ensures_bind, count, ensures_modify]
      exact hitems _ _ _ _ rfl
    · exact hitems _ _ _ _ rfl
  enterFolder name place c fs := by
    rintro ⟨htidy, hplanned, hin⟩
    have hhere : (place.descend name).isPlanned = false := hplanned
    refine (enterFolder_ensures hdry hhere htidy (by simp) c).mono ?_
    intro opened c' fs' hvisit
    have hsteps : Steps s base (c, fs) (c', fs') := .single (.folder place name hin hvisit)
    refine ⟨hsteps, fun o isPlanned ho => ?_⟩
    subst ho
    have hne := place.components_descend_ne_nil name
    obtain ⟨hflag, hfolder⟩ := hvisit.opened hne
    obtain rfl : isPlanned = false := hflag
    exact ⟨hsteps.tidy htidy, by simp [hplanned], .inr ⟨(hin.below name).1, hfolder⟩⟩
  leaveFolder _ _ _ _ := ensures_pure.mpr .refl
  file name f place env c fs := by
    rintro ⟨htidy, hplanned, hin⟩
    have hhere : (place.descend name).isPlanned = false := hplanned
    refine (visitFile_ensures hdry hhere htidy (by simp) (by simp) c).mono ?_
    exact fun _ c' fs' hvisit => .single (.file place name hin hvisit)
  group _ _ _ _ _ := ensures_pure.mpr .refl
  invalidName _ _ _ _ := ensures_pure.mpr .refl

/-! ### Commands -/

lemma quiet_reportCommand {rule : Run.Rule Memory} (command : String) (result : CommandResult) :
    Quiet rule (reportCommand command result) fun _ => True := by
  unfold reportCommand
  dsimp only
  split
  · refine Keeps.bind (quiet_count ?_) fun _ _ => Keeps.bind (quiet_log ?_) fun _ _ =>
      keeps_modify fun _ => ⟨rfl, rfl, rfl⟩
    · exact fun _ => rfl
    · simp [LogEntry.IsFolderFound, toString]
  · refine Keeps.bind (quiet_count ?_) fun _ _ => Keeps.bind (quiet_log ?_) fun _ _ =>
      keeps_modify fun _ => ⟨rfl, rfl, rfl⟩
    · exact fun _ => rfl
    · simp [LogEntry.IsFolderFound, toString]

lemma commands_quiet {mayFail : Prop} {cap : Nat} :
    CommandsKeep (Memory.serving mayFail cap) Same where
  entry path c fs := by
    rw [ask, ensures_call]
    intro reply fs' hserve
    rcases Memory.serving_cases (by simp [Call.path?]) hserve with ⟨-, hfs⟩ | ⟨-, hfs, -⟩
    · exact ⟨trivial, .refl c, hfs⟩
    · exact ⟨trivial, .refl c, hfs⟩
  command text folder c fs := by
    rw [ask, ensures_call]
    intro result fs' hserve
    exact ⟨trivial, .refl c, Memory.serving_outside rfl hserve⟩
  report := quiet_reportCommand
  would _ _ := quiet_log (by simp [LogEntry.IsFolderFound, toString])
  skipped _ := quiet_log (by simp [LogEntry.IsFolderFound])

/-- **A run that creates** goes by steps, also if any calls fail. -/
theorem create_ensures_steps {s : CreateSettings} (hdry : s.options.dryRun = false)
    (schema : Schema) (output : String) (scope : Scope) {fs : Memory} (hfs : fs.Tidy) :
    (create s schema output scope).Ensures (Memory.serving True s.limits.maxDownloadBytes)
      (fun c gs => Steps s (components output) ({}, fs) (c, gs)) fs := by
  have hstart : At (components output) { path := output } ({}, fs) := ⟨hfs, rfl, .inl rfl⟩
  rw [create, walk_eq_perform, ensures_run, ensures_bind]
  refine ((visitor_advances hdry _).perform _ hstart).mono fun _ c gs hsteps => ?_
  split_ifs
  · refine (commands_quiet.run s schema output _ c gs).mono ?_
    rintro _ c' gs' ⟨-, hsame, rfl⟩
    exact hsteps.trans (Steps.note hsame.items)
  · exact ensures_pure.mpr hsteps

end Scaffold.Creation

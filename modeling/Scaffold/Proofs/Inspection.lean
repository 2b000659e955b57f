import Mathlib.Tactic
import Scaffold.Proofs.DryRun
import Scaffold.Proofs.Encounters

/-!
What a preview and a dry run come to where a path cannot be looked at.

A folder is opened by what is found at its path. So what a walk comes to follows from what is
found, and two walks differ at most in what they take a failure for.

* `Plan.encounters`: what a plan comes to, if it is known which folders are opened;
* `Host.asking`: calls that only ask are answered from the state of a host, and leave it. A
  host answers so if asking leaves it alone (`Host.Still.asking`);
* `Visitor.OpensBy.encounters_eq`: hence a visitor that only asks comes to what its plan comes
  to, with the folders opened that it opens in that state;
* `opened`: a preview takes a failure for a missing folder, and goes on below it; a dry run
  leaves the folder out;
* `preview_and_dry_run_encounters`: so both come to the same where no folder fails that the
  preview comes to, and elsewhere a dry run leaves some of it out;
* `dry_run_leaves_out_folder`: it does so below a folder that fails.
-/

namespace Scaffold

open Scaffold.Path Variable

variable {α ρ σ Item Opened : Type}

/-! ### Plans -/

/-- What a plan comes to. The rule says which folders are opened, and whether they are only
planned. -/
def Plan.encounters (opens : Cursor → Option Bool) : Plan → Cursor → List Encounter
  | done, _ => []
  | report _ next, place => next.encounters opens place
  | refused kind next, place => .refused kind place :: next.encounters opens place
  | file name f env next, place =>
    .file name f (place.descend name) env :: next.encounters opens place
  | folder name inside next, place =>
    let here := place.descend name
    .folder name here :: ((opens here).elim [] fun isPlanned =>
      inside.encounters opens { here with isPlanned := here.isPlanned || isPlanned }) ++
        next.encounters opens place
  | group _ inside next, place => inside.encounters opens place ++ next.encounters opens place

section Plans

variable {opens opens' : Cursor → Option Bool}

/-- Where fewer folders are opened, some encounters are left out. -/
lemma Plan.encounters_sublist (h : ∀ place, opens' place = none ∨ opens' place = opens place)
    (p : Plan) (place : Cursor) :
    (p.encounters opens' place).Sublist (p.encounters opens place) := by
  induction p generalizing place with
  | done => exact .slnil
  | report notice next ih => exact ih place
  | refused kind next ih => exact (ih place).cons_cons _
  | file name f env next ih => exact (ih place).cons_cons _
  | folder name inside next ihInside ih =>
      refine List.Sublist.append (List.Sublist.cons_cons _ ?_) (ih place)
      obtain hnone | heq := h (place.descend name)
      · rw [hnone]
        exact List.nil_sublist _
      · rw [heq]
        cases opens (place.descend name) with
        | none => exact .slnil
        | some isPlanned => exact ihInside _
  | group label inside next ihInside ih => exact (ihInside place).append (ih place)

/-- Where the same of the folders are opened that it comes to, a plan comes to the same. -/
lemma Plan.encounters_congr (p : Plan) (place : Cursor)
    (h : ∀ name here, Encounter.folder name here ∈ p.encounters opens place →
      opens' here = opens here) :
    p.encounters opens place = p.encounters opens' place := by
  induction p generalizing place with
  | done => rfl
  | report notice next ih => exact ih place h
  | refused kind next ih =>
      exact congrArg _ (ih place fun name here hmem => h name here (.tail _ hmem))
  | file name f env next ih =>
      exact congrArg _ (ih place fun name here hmem => h name here (.tail _ hmem))
  | folder name inside next ihInside ih =>
      have hhere : opens' (place.descend name) = opens (place.descend name) :=
        h name _ (by simp [encounters])
      have hnext := ih place fun name here hmem => h name here (by simp [encounters, hmem])
      rw [encounters, encounters, hhere, hnext]
      cases hopens : opens (place.descend name) with
      | none => rfl
      | some isPlanned =>
          dsimp only [Option.elim_some]
          rw [ihInside _ fun name here hmem => h name here (by simp [encounters, hopens, hmem])]
  | group label inside next ihInside ih =>
      have hinside := ihInside place fun name here hmem => h name here (by simp [encounters, hmem])
      have hnext := ih place fun name here hmem => h name here (by simp [encounters, hmem])
      rw [encounters, encounters, hinside, hnext]

end Plans

/-! ### Walks -/

section Walks

variable {host : Host (StateM σ)} {st : σ}

/-- Calls that only ask are answered from the state of a host, and leave it as it is. -/
def Host.asking (host : Host (StateM σ)) : Run.Rule σ :=
  fun st c reply st' => c.Inspects → reply = (host c st).1 ∧ st' = st

/-- A host that is left alone by asking answers so. -/
lemma Host.Still.asking (h : host.Still id) : host.Within id host.asking :=
  fun c st hc => ⟨rfl, h c st hc⟩

/-- A run that only asks leaves the state as it is. -/
lemma Run.Every.asking {r : Run α} (hr : r.Every Call.Inspects) (st : σ) :
    r.Ensures host.asking (fun _ st' => st' = st) st := by
  induction r with
  | done a => rfl
  | ask c next ih =>
      intro reply st' hreply
      rw [(hreply hr.1).2]
      exact ih reply (hr.2 reply)

lemma everyCall_asking {x : StateT ρ Run α} (hx : EveryCall Call.Inspects x) (t : ρ) :
    Ensures host.asking x t st fun _ _ st' => st' = st := by
  unfold Ensures
  exact (hx.run t).asking st

/-- A visitor only asks, and opens folders by a rule as long as the state is the same. -/
structure Visitor.OpensBy (v : Visitor (StateT ρ Run) Item Opened) (host : Host (StateM σ))
    (st : σ) (opens : Cursor → Option Bool) : Prop where
  asks : v.CallsAt Call.Inspects (fun _ => True) fun _ => True
  opens : ∀ name place t, Ensures host.asking (v.enterFolder name place) t st
    fun opened _ st' => opened.map Prod.snd = opens place ∧ st' = st

namespace Visitor.OpensBy

variable {v : Visitor (StateT ρ Run) Item Opened} {opens : Cursor → Option Bool}

/-- One visit and then the rest of a plan. -/
lemma andThen {met more : List Encounter} {t : ρ × List Encounter}
    {x : StateT (ρ × List Encounter) Run (Option Item)}
    {rest : StateT (ρ × List Encounter) Run (List Item)}
    (hx : Ensures host.asking x t st fun _ t' st' => t'.2 = t.2 ++ met ∧ st' = st)
    (hrest : ∀ t', Ensures host.asking rest t' st
      fun _ t'' st' => t''.2 = t'.2 ++ more ∧ st' = st) :
    Ensures host.asking (do let item ← x; let items ← rest; pure (item.toList ++ items)) t st
      fun _ t' st' => t'.2 = t.2 ++ (met ++ more) ∧ st' = st := by
  refine ensures_items.mpr (hx.mono ?_)
  rintro item t' st' ⟨hmet, hst⟩
  subst hst
  refine (hrest t').mono ?_
  rintro items t'' st'' ⟨hmore, hst⟩
  exact ⟨by rw [hmore, hmet, List.append_assoc], hst⟩

/-- A visit that meets something and asks nothing but what is there. -/
lemma note_asking {e : Encounter} {x : StateT ρ Run α} (hx : EveryCall Call.Inspects x)
    (t : ρ × List Encounter) :
    Ensures host.asking (do note e; Scaffold.framed x) t st
      fun _ t' st' => t'.2 = t.2 ++ [e] ∧ st' = st :=
  ensures_note_framed.mpr ((everyCall_asking hx t.1).mono fun _ _ _ hst => ⟨rfl, hst⟩)

/-- A folder is met, and then what is in it if it is opened. -/
lemma openFolder (hv : v.OpensBy host st opens) (name : AcceptedName) (place : Cursor)
    {walkChildren : Cursor → StateT (ρ × List Encounter) Run (List Item)}
    {inside : Cursor → List Encounter}
    (hinside : ∀ inner t, Ensures host.asking (walkChildren inner) t st
      fun _ t' st' => t'.2 = t.2 ++ inside inner ∧ st' = st) (t : ρ × List Encounter) :
    Ensures host.asking (Plan.openFolder v.noting name place walkChildren) t st
      fun _ t' st' => t'.2 = t.2 ++ .folder name (place.descend name) ::
        ((opens (place.descend name)).elim [] fun isPlanned =>
          inside { place.descend name with
            isPlanned := (place.descend name).isPlanned || isPlanned }) ∧ st' = st := by
  rw [Plan.openFolder, ensures_bind]
  refine ensures_note_framed.mpr ((hv.opens name (place.descend name) t.1).mono ?_)
  rintro opened t₁ st' ⟨hopened, hst⟩
  subst hst
  cases opened with
  | none =>
      rw [← hopened]
      exact ensures_pure.mpr ⟨rfl, rfl⟩
  | some opened =>
      rw [← hopened, ensures_bind]
      refine (hinside _ _).mono ?_
      rintro items t₂ st' ⟨hmet, hst⟩
      subst hst
      refine ensures_framed.mpr ((everyCall_asking (hv.asks.leaveFolder _ _) t₂.1).mono ?_)
      intro item t₃ st' hst
      exact ⟨by simpa using hmet, hst⟩

/-- **A plan** comes to what follows from the folders that are opened. -/
theorem perform (hv : v.OpensBy host st opens) (p : Plan) (place : Cursor)
    (t : ρ × List Encounter) :
    Ensures host.asking (p.perform v.noting place) t st
      fun _ t' st' => t'.2 = t.2 ++ p.encounters opens place ∧ st' = st := by
  induction p generalizing place t with
  | done => exact ensures_pure.mpr ⟨(List.append_nil _).symm, rfl⟩
  | report notice next ih =>
      rw [Plan.perform, ensures_bind]
      refine ensures_framed.mpr ((everyCall_asking (hv.asks.report _) t.1).mono ?_)
      rintro _ t₁ st' hst
      subst hst
      exact ih place (t₁, t.2)
  | refused kind next ih =>
      exact andThen (note_asking (hv.asks.invalidName kind place) t) (ih place)
  | file name f env next ih =>
      exact andThen (note_asking (hv.asks.file name f _ env trivial) t) (ih place)
  | folder name inside next ihInside ih =>
      exact andThen (hv.openFolder name place ihInside t) (ih place)
  | group label inside next ihInside ih =>
      rw [Plan.perform, ensures_bind]
      refine (ihInside place t).mono ?_
      rintro children t₁ st' ⟨hmet, hst⟩
      subst hst
      have hgroup : Ensures host.asking (v.noting.group label place children) t₁ st'
          fun _ t₂ st'' => t₂.2 = t₁.2 ++ [] ∧ st'' = st' :=
        ensures_framed.mpr ((everyCall_asking (hv.asks.group _ _ _) t₁.1).mono
          fun _ _ _ hst => ⟨(List.append_nil _).symm, hst⟩)
      refine (andThen hgroup (ih place)).mono ?_
      rintro items t₂ st'' ⟨hmore, hst⟩
      exact ⟨by simp [hmore, hmet, Plan.encounters], hst⟩

/-- **A walk** comes to what its plan comes to. -/
theorem encounters_eq (hv : v.OpensBy host st opens) (hstill : host.Still id) (s : WalkSettings)
    (root : Node) (output : String) (scope : Scope) (start : ρ) :
    v.encounters s root output scope start host st =
      (Plan.ofRoot s root scope).encounters opens { path := output } := by
  have hwalk := hv.perform (Plan.ofRoot s root scope) { path := output } (start, [])
  rw [← walk_eq_perform] at hwalk
  unfold Ensures at hwalk
  simpa [Visitor.encounters] using (hstill.asking.on hwalk).1

end Visitor.OpensBy

end Walks

/-! ### What is found -/

section Found

variable {host : Host (StateM σ)} {st : σ}

/-- What is found at a place, if it is looked for. Nothing is in a folder that is only planned. -/
def Host.found (host : Host (StateM σ)) (st : σ) (place : Cursor) :
    Except Failure (Option Entry) :=
  if place.isPlanned then .ok none else (host (.entry place.path) st).1

/-- How a folder is opened by what is found: one that is missing is planned, and no file is
opened. `failed` says what becomes of it when nothing can be said. -/
def opened (failed : Option Bool) : Except Failure (Option Entry) → Option Bool
  | .error _ => failed
  | .ok none => some true
  | .ok (some entry) => if entry.isFolder then some false else none

/-- Looking for an entry gives what is found. -/
lemma ensures_entry {x : Except Failure (Option Entry) → StateT ρ Run α} {place : Cursor}
    (hplace : place.isPlanned = false) {t : ρ} {after : α → ρ → σ → Prop}
    (h : Ensures host.asking (x (host.found st place)) t st after) :
    Ensures host.asking (do x (← liftM (Run.call (.entry place.path)))) t st after := by
  rw [ensures_bind, ensures_call]
  intro reply st' hreply
  obtain ⟨rfl, rfl⟩ := hreply trivial
  rwa [Host.found, if_neg (by simp [hplace])] at h

/-- A preview takes a folder that cannot be looked at for a missing one. -/
lemma Preview.opensBy (s : Settings) :
    (visitor s).OpensBy host st fun place => opened (some true) (host.found st place) where
  asks := visitor_callsAt s (fun _ _ _ => trivial) (fun _ _ _ => trivial)
    fun _ _ => ⟨trivial, trivial⟩
  opens name place t := by
    dsimp only [visitor, enterFolder, look]
    cases hplan : place.isPlanned with
    | true =>
        exact ensures_pure.mpr ⟨by simp [Host.found, hplan, opened], rfl⟩
    | false =>
        rw [if_neg (by simp), bind_assoc]
        refine ensures_entry hplan ?_
        cases host.found st place with
        | error e => simp [warn, opened]
        | ok found =>
            cases found with
            | none => simp [opened]
            | some entry =>
                by_cases hfolder : entry.isFolder <;> simp [warn, opened, hfolder]

/-- A dry run does not open a folder that cannot be looked at. -/
lemma Creation.opensBy {s : CreateSettings} (hdry : s.options.dryRun = true) :
    (visitor s).OpensBy host st fun place => opened none (host.found st place) where
  asks := by
    have hreal : s.options.dryRun ≠ false := by simp [hdry]
    exact visitor_callsAt (fun _ _ _ => trivial) (fun _ _ _ => trivial) fun place _ =>
      ⟨⟨(absurd · hreal), (absurd · hreal), (absurd · hreal)⟩, trivial, (absurd · hreal)⟩
  opens name place t := by
    dsimp only [visitor, enterFolder]
    cases hplan : place.isPlanned with
    | true => simp [planFolder, count, log, Host.found, hplan, opened]
    | false =>
        rw [if_neg (by simp)]
        refine ensures_entry hplan ?_
        cases host.found st place with
        | error e => simp [fail, count, log, opened]
        | ok found =>
            cases found with
            | none => simp [hdry, planFolder, count, log, opened]
            | some entry =>
                by_cases hfolder : entry.isFolder <;> simp [fail, count, log, opened, hfolder]

/-- The host on which there is nothing where a path cannot be looked at. -/
def Host.forgiving (host : Host (StateM σ)) : Host (StateM σ)
  | .entry path, st =>
    match host (.entry path) st with
    | (.ok entry, after) => (.ok entry, after)
    | (.error _, after) => (.ok none, after)
  | c, st => host c st

lemma Host.Still.forgiving (h : host.Still id) : host.forgiving.Still id := by
  intro c st hc
  have hstill := h c st hc
  cases c with
  | entry path =>
      dsimp only [Host.forgiving]
      split <;> simp_all
  | _ => exact hstill

/-- Nothing is where nothing can be said. -/
lemma opened_forgiving (place : Cursor) :
    opened none (host.forgiving.found st place) = opened (some true) (host.found st place) := by
  unfold Host.found
  split_ifs
  · rfl
  · dsimp only [Host.forgiving]
    split
    · next found after hreply =>
        rw [hreply]
        cases found <;> rfl
    · next e after hreply =>
        rw [hreply]
        rfl

end Found

/-- **A preview and a dry run** that look at the same files come to the same folders, files and
refused names, if each folder can be looked at that the preview comes to. Elsewhere the dry run
leaves some of them out. It would come to all if nothing were where a path cannot be looked
at. -/
theorem preview_and_dry_run_encounters {s : CreateSettings} (hdry : s.options.dryRun = true)
    (overwrite : Bool) (schema : Schema) (output : String) (scope : Scope) {σ : Type}
    {host : Host (StateM σ)} (hstill : host.Still id) (st : σ) :
    let previewed := (Preview.visitor ⟨s.toWalkSettings, overwrite⟩).encounters s.toWalkSettings
      schema.root output scope {} host st
    let dry := fun host : Host (StateM σ) =>
      (Creation.visitor s).encounters s.toWalkSettings schema.root output scope {} host st
    ((∀ name place, .folder name place ∈ previewed → (host.found st place).isOk) →
        previewed = dry host) ∧
      (dry host).Sublist previewed ∧ previewed = dry host.forgiving := by
  intro previewed dry
  have hpreviewed : previewed = _ :=
    (Preview.opensBy ⟨s.toWalkSettings, overwrite⟩).encounters_eq hstill _ _ _ _ _
  have hdryRun : dry host = _ :=
    (Creation.opensBy hdry).encounters_eq hstill _ _ _ _ _
  have hforgiving : dry host.forgiving = _ :=
    (Creation.opensBy hdry).encounters_eq hstill.forgiving _ _ _ _ _
  refine ⟨fun hfound => ?_, ?_, ?_⟩
  · rw [hpreviewed, hdryRun]
    -- The two rules differ only where a folder cannot be looked at.
    refine Plan.encounters_congr _ _ fun name place hmem => ?_
    rw [← hpreviewed] at hmem
    have hok := hfound name place hmem
    cases hplace : host.found st place with
    | error e => simp [hplace, Except.isOk, Except.toBool] at hok
    | ok found => cases found <;> rfl
  · rw [hpreviewed, hdryRun]
    refine Plan.encounters_sublist (fun place => ?_) _ _
    cases host.found st place with
    | error e => exact .inl rfl
    | ok found => cases found <;> exact .inr rfl
  · rw [hpreviewed, hforgiving]
    exact congrArg (fun opens => Plan.encounters opens _ _)
      (funext fun place => (opened_forgiving place).symm)

/-- Files in memory where one path cannot be looked at. -/
def memoryFailingAt (path : String) : Host (StateM Memory) :=
  (Memory.host {}).failing fun
    | .entry => [components path]
    | _ => []

lemma memoryFailingAt_still (path : String) : (memoryFailingAt path).Still id :=
  Memory.still (Memory.failing_within {} _)

/-- The settings of a dry run. -/
def drySettings : CreateSettings :=
  { limits := {}, today := ⟨2024, 1, 1, by decide⟩, equipment := {}, options := { dryRun := true } }

/-- A folder with a file in it. -/
def folderWithFile : Schema :=
  { root := .folder "a" [.file { name := "b" }] ∅ }

/-- What the plan of `folderWithFile` comes to. -/
lemma folderWithFile_encounters (opens : Cursor → Option Bool) :
    (Plan.ofRoot drySettings.toWalkSettings folderWithFile.root default).encounters opens
        { path := "out" } =
      .folder "a" ⟨"out/a", "a", false⟩ :: ((opens ⟨"out/a", "a", false⟩).elim [] fun isPlanned =>
        [.file "b" { name := "b" } ⟨"out/a/b", "a/b", isPlanned⟩
          (Scope.environment default drySettings.today)]) := by
  have hsame : ∀ name ∈ ["a", "b"], ∀ env, substitute env name = name := by
    intro name hname env
    exact substitute_of_not_mem (by fin_cases hname <;> decide)
  have hplan : Plan.ofRoot drySettings.toWalkSettings folderWithFile.root default =
      .folder ⟨"a", by decide⟩ (.file ⟨"b", by decide⟩ { name := "b" }
        (Scope.environment default drySettings.today) .done) .done := by
    simp only [Plan.ofRoot, Plan.ofList, Plan.ofNode, folderWithFile, hsame "a" (by simp),
      hsame "b" (by simp)]
    rfl
  have hfolder : Cursor.descend { path := "out" } "a" = ⟨"out/a", "a", false⟩ := by
    decide +kernel
  have hfile (isPlanned : Bool) :
      Cursor.descend ⟨"out/a", "a", isPlanned⟩ "b" = ⟨"out/a/b", "a/b", isPlanned⟩ := by
    cases isPlanned <;> decide +kernel
  simp [hplan, Plan.encounters, hfolder, hfile]

/-- Where only a file cannot be looked at, both come to the folder and the file. -/
theorem preview_and_dry_run_encounter_failing_file :
    let host := memoryFailingAt "out/a/b"
    let before := (Memory.empty.makeFolder "out/a").2
    let previewed := (Preview.visitor ⟨drySettings.toWalkSettings, false⟩).encounters
      drySettings.toWalkSettings folderWithFile.root "out" default {} host before
    let dry := (Creation.visitor drySettings).encounters drySettings.toWalkSettings
      folderWithFile.root "out" default {} host before
    (host.found before ⟨"out/a/b", "a/b", false⟩).isOk = false ∧
      (∀ name place, .folder name place ∈ previewed → (host.found before place).isOk) ∧
      previewed = dry ∧ previewed.length = 2 := by
  intro host before previewed dry
  have hfolder : host.found before ⟨"out/a", "a", false⟩ = .ok (some ⟨.folder, 0⟩) := by
    decide +kernel
  have hpreviewed : previewed = [.folder "a" ⟨"out/a", "a", false⟩,
      .file "b" { name := "b" } ⟨"out/a/b", "a/b", false⟩
        (Scope.environment default drySettings.today)] := by
    rw [show previewed = _ from
      (Preview.opensBy _).encounters_eq (memoryFailingAt_still _) _ _ _ _ _,
      folderWithFile_encounters, hfolder]
    rfl
  have hfound : ∀ name place, .folder name place ∈ previewed → (host.found before place).isOk := by
    intro name place hmem
    obtain ⟨rfl, rfl⟩ : name = "a" ∧ place = ⟨"out/a", "a", false⟩ := by
      simpa [hpreviewed] using hmem
    rw [hfolder]
    rfl
  refine ⟨by decide +kernel, hfound, ?_, by rw [hpreviewed]; rfl⟩
  exact (preview_and_dry_run_encounters (s := drySettings) rfl false folderWithFile "out" default
    (memoryFailingAt_still _) before).1 hfound

/-- **A dry run leaves out what is below a folder** that cannot be looked at. A preview does
not. -/
theorem dry_run_leaves_out_folder :
    let host := memoryFailingAt "out/a"
    let before := (Memory.empty.makeFolder "out").2
    (Preview.visitor ⟨drySettings.toWalkSettings, false⟩).encounters drySettings.toWalkSettings
        folderWithFile.root "out" default {} host before =
      [.folder "a" ⟨"out/a", "a", false⟩,
        .file "b" { name := "b" } ⟨"out/a/b", "a/b", true⟩
          (Scope.environment default drySettings.today)] ∧
    (Creation.visitor drySettings).encounters drySettings.toWalkSettings folderWithFile.root "out"
        default {} host before =
      [.folder "a" ⟨"out/a", "a", false⟩] := by
  intro host before
  have hfails : host.found before ⟨"out/a", "a", false⟩ =
      .error (.filesystem "out/a" "injected entry fault") := by
    decide +kernel
  rw [(Preview.opensBy _).encounters_eq (memoryFailingAt_still _),
    (Creation.opensBy rfl).encounters_eq (memoryFailingAt_still _), folderWithFile_encounters,
    folderWithFile_encounters, hfails]
  exact ⟨rfl, rfl⟩

end Scaffold

import Mathlib.Tactic
import Scaffold.Proofs.Balance
import Scaffold.Proofs.Fidelity
import Scaffold.Proofs.Trace

/-!
What a run that creates fetches.

* `Creation.Fetching`: what a file asks for and leaves once it may be written. It fetches
  nothing, or it fetches once, from its accepted address. If that fails or brings too much
  then it asks for nothing more, and leaves one more error;
* `visitFile_fetches`: first the visit of a file looks at its place;
* `fetches_are_gated`: so it is with each visit of a file in a run, all calls that fetch are
  made in these, and after each the run goes on.
-/

namespace Scaffold

open Variable

/-- Whether a call fetches. -/
def Call.isFetch : Call → Bool
  | fetch _ => true
  | entry _ | makeFolder _ | write _ _ | read _ | list _ | removeFile _ | removeFolder _
  | generate _ | command _ _ => false

@[simp]
lemma Call.isFetch_fetch (url : String) : (fetch url).isFetch = true := rfl

@[simp]
lemma Call.isFetch_entry (path : String) : (entry path).isFetch = false := rfl

lemma filter_isFetch_eq_nil {events : List Event} (h : ∀ e ∈ events, e.call.isFetch = false) :
    events.filter (·.call.isFetch) = [] :=
  List.filter_eq_nil_iff.mpr (by simpa using h)

/-- What was fetched is there, and is within the limit. -/
def Fits (cap : Nat) (reply : Except Failure ByteArray) : Prop :=
  ∃ bytes, reply = .ok bytes ∧ bytes.size ≤ cap

namespace Creation

/-- A file may be written: nothing is found, or a file that may be overwritten. -/
def IsFree (overwrite : Bool) (found : Except Failure (Option Entry)) : Prop :=
  found = .ok none ∨ ∃ entry, found = .ok (some entry) ∧ entry.isFolder = false ∧ overwrite = true

/-- Nothing was recorded, and one more error was counted. -/
structure Failed (c c' : Creation) : Prop where
  items : c'.items = c.items
  hookResults : c'.hookResults = c.hookResults
  summary : c'.summary = { c.summary with errors := c.summary.errors + 1 }

/-- What is asked for a file that may be written, and what is left, as far as it is fetched. -/
inductive Fetching (s : CreateSettings) (f : FileNode) (env : Environment) (c : Creation) :
    List Event → Creation → Prop
  | nothing {events : List Event} {c' : Creation} (others : ∀ e ∈ events, e.call.isFetch = false) :
      Fetching s f env c events c'
  | once {raw : String} {accepted : Url} {reply : Except Failure ByteArray} {rest : List Event}
      {c' : Creation} (source : f.source = .url raw)
      (accepts : Url.guard (substitute env raw) = .ok accepted)
      (others : ∀ e ∈ rest, e.call.isFetch = false)
      (fails : ¬ Fits s.limits.maxDownloadBytes reply → rest = [] ∧ Failed c c') :
      Fetching s f env c (⟨.fetch accepted.text, reply⟩ :: rest) c'

section

variable {s : CreateSettings} {place : Cursor} {f : FileNode} {env : Environment}
  {events : List Event}

/-- Only files are fetched. -/
lemma visitor_onlyFiles (s : CreateSettings) : (visitor s).OnlyFiles Call.isFetch where
  report := everyCall_report
  enterFolder name _ := everyCall_enterFolder (P := (·.isFetch = false)) rfl (fun _ => rfl) name
  leaveFolder _ _ := everyCall_pure _
  group _ _ _ := everyCall_pure _
  invalidName _ _ := everyCall_pure _

/-- A program that does not fetch. -/
lemma fetching_of_everyCall {α : Type} {x : CreateM α} (hx : EveryCall (·.isFetch = false) x)
    (c : Creation) :
    Ensures Run.noting x c events fun _ c' events' =>
      ∃ more, events' = events ++ more ∧ Fetching s f env c more c' :=
  (hx.ensures_noting c events).mono fun _ _ _ ⟨more, hevents, hmore⟩ =>
    ⟨more, hevents, .nothing hmore⟩

lemma fail_ensures (message details : String) (c : Creation) :
    Ensures Run.noting (fail message details) c events fun _ c' events' =>
      events' = events ∧ Failed c c' := by
  rw [fail, ensures_bind, count, ensures_modify, log, ensures_modify]
  exact ⟨rfl, rfl, rfl, rfl⟩

/-- What follows a fetch that has brought something does not fetch. -/
lemma fetching_once {α : Type} {raw : String} {accepted : Url} {reply : Except Failure ByteArray}
    (hsource : f.source = .url raw) (haccepts : Url.guard (substitute env raw) = .ok accepted)
    (hfits : Fits s.limits.maxDownloadBytes reply) {x : CreateM α}
    (hx : EveryCall (·.isFetch = false) x) (c : Creation) :
    Ensures Run.noting x c (events ++ [⟨.fetch accepted.text, reply⟩]) fun _ c' events' =>
      ∃ more, events' = events ++ more ∧ Fetching s f env c more c' := by
  refine (hx.ensures_noting c _).mono ?_
  rintro _ c' _ ⟨more, rfl, hmore⟩
  exact ⟨_, List.append_assoc .., .once hsource haccepts hmore fun hno => absurd hfits hno⟩

/-- A file is fetched from its accepted address, and saved if that has brought it. -/
lemma download_fetches {raw : String} (hsource : f.source = .url raw)
    (hreal : s.options.dryRun = false) (name : String) (preExisted : Bool) (c : Creation) :
    Ensures Run.noting (download s name raw place env preExisted) c events fun _ c' events' =>
      ∃ more, events' = events ++ more ∧ Fetching s f env c more c' := by
  unfold download
  split
  · exact fetching_of_everyCall (everyCall_fail _ _) c
  rename_i accepted haccepts
  simp only [hreal, Bool.false_eq_true, ↓reduceIte]
  rw [ensures_bind, fetch]
  split_ifs with hcan
  · exact ensures_pure.mpr (fetching_of_everyCall (everyCall_fail _ _) c)
  rw [ensures_bind, ask, ensures_call]
  rintro reply _ rfl
  have hfailed : ∀ e : Failure, ¬ Fits s.limits.maxDownloadBytes reply →
      Ensures Run.noting (fail s!"Download failed: {name}" e.message) c
        (events ++ [⟨.fetch accepted.text, reply⟩]) fun _ c' events' =>
        ∃ more, events' = events ++ more ∧ Fetching s f env c more c' := by
    intro e hfits
    refine (fail_ensures _ _ c).mono ?_
    rintro _ c' _ ⟨rfl, hc'⟩
    exact ⟨_, rfl, .once hsource haccepts (by simp) fun _ => ⟨rfl, hc'⟩⟩
  cases reply with
  | error e => exact ensures_pure.mpr (hfailed e (by simp [Fits]))
  | ok bytes =>
      dsimp only
      split_ifs with hsize
      · exact ensures_pure.mpr (hfailed _ (by simpa [Fits] using hsize))
      have hfits : Fits s.limits.maxDownloadBytes (.ok bytes) :=
        ⟨bytes, rfl, Nat.le_of_not_lt hsize⟩
      refine ensures_pure.mpr (fetching_once hsource haccepts hfits ?_ c)
      refine (everyCall_prepareDownload _ _ _).bind fun _ => ?_
      exact (everyCall_write (P := (·.isFetch = false)) rfl _).bindResult
        (fun _ => everyCall_fail _ _) fun _ => everyCall_note _ _ _ _

/-- A file that may be written is fetched as its source says. -/
lemma writeFile_fetches (hreal : s.options.dryRun = false) (name : String) (preExisted : Bool)
    (c : Creation) :
    Ensures Run.noting (writeFile s name f place env preExisted) c events fun _ c' events' =>
      ∃ more, events' = events ++ more ∧ Fetching s f env c more c' := by
  unfold writeFile
  split
  · rename_i raw hsource
    exact download_fetches hsource hreal name preExisted c
  · exact fetching_of_everyCall
      (everyCall_generate (fun _ _ => rfl) (fun _ _ => rfl) name _ f preExisted) c
  · exact fetching_of_everyCall (everyCall_writeInline (fun _ _ => rfl) name f preExisted) c

/-- **The visit of a file** looks at its place, and goes on if the file may be written. -/
theorem visitFile_fetches (hreal : s.options.dryRun = false) (hplace : place.isPlanned = false)
    (name : String) (c : Creation) :
    Ensures Run.noting (visitFile s name f place env) c [] fun _ c' events =>
      ∃ found more, events = ⟨.entry place.path, found⟩ :: more ∧
        (more = [] ∨ IsFree s.options.overwrite found ∧ Fetching s f env c more c') := by
  have hwrite : ∀ (found : Except Failure (Option Entry)) (preExisted : Bool),
      IsFree s.options.overwrite found →
      Ensures Run.noting (do
        writeFile s name f place env preExisted
        pure (none : Option Unit)) c [⟨.entry place.path, found⟩] fun _ c' events =>
        ∃ found more, events = ⟨.entry place.path, found⟩ :: more ∧
          (more = [] ∨ IsFree s.options.overwrite found ∧ Fetching s f env c more c') := by
    intro found preExisted hfree
    rw [ensures_bind]
    refine (writeFile_fetches hreal name preExisted c).mono ?_
    rintro _ c' _ ⟨more, rfl, hmore⟩
    exact ensures_pure.mpr ⟨found, more, rfl, .inr ⟨hfree, hmore⟩⟩
  have hstop : ∀ (found : Except Failure (Option Entry)) (message details : String),
      Ensures Run.noting (do
        fail message details
        pure (none : Option Unit)) c [⟨.entry place.path, found⟩] fun _ c' events =>
        ∃ found more, events = ⟨.entry place.path, found⟩ :: more ∧
          (more = [] ∨ IsFree s.options.overwrite found ∧ Fetching s f env c more c') := by
    intro found message details
    rw [ensures_bind]
    refine (fail_ensures _ _ c).mono ?_
    rintro _ c' _ ⟨rfl, -⟩
    exact ensures_pure.mpr ⟨found, [], rfl, .inl rfl⟩
  unfold visitFile look
  simp only [hplace, Bool.false_eq_true, ↓reduceIte]
  rw [ensures_bind, ask, ensures_call]
  rintro reply _ rfl
  split
  · exact hstop _ _ _
  · exact hwrite _ false (.inl rfl)
  · rename_i entry
    split_ifs with hfolder hoverwrite
    · exact hstop _ _ _
    · exact hwrite _ true (.inr ⟨entry, rfl, by simpa using hfolder, hoverwrite⟩)
    · rw [ensures_bind, count, ensures_modify, ensures_bind, log, ensures_modify]
      exact ensures_pure.mpr ⟨_, [], rfl, .inl rfl⟩

/-- In a dry run nothing is fetched. -/
lemma visitFile_dry (hdry : s.options.dryRun = true) (name : String) :
    EveryCall (·.isFetch = false) (visitFile s name f place env) := by
  have hreal : s.options.dryRun ≠ false := by simp [hdry]
  have hadmits : Admits s (·.isFetch = false) place :=
    ⟨⟨(absurd · hreal), (absurd · hreal), (absurd · hreal)⟩, rfl, (absurd · hreal)⟩
  exact hadmits.visitFile name f env

/-- A file from an accepted address is fetched if it may be written. -/
lemma fetch_mem_events {σ : Type} {host : Host (StateM σ)} {start : Creation × σ} {raw : String}
    {accepted : Url} {name : String} (hreal : s.options.dryRun = false)
    (hcan : s.equipment.canFetch = true) (hplace : place.isPlanned = false)
    (hsource : f.source = .url raw) (haccepts : Url.guard (substitute env raw) = .ok accepted)
    (hfree : IsFree s.options.overwrite (host (.entry place.path) start.2).1) :
    (⟨.fetch accepted.text,
      (host (.fetch accepted.text) (host (.entry place.path) start.2).2).1⟩ : Event) ∈
        Scaffold.events host (visitFile s name f place env) start := by
  have hlook : carryOut host (look place) start =
      ((host (.entry place.path) start.2).1, start.1, (host (.entry place.path) start.2).2) := by
    rw [look, hplace]
    rfl
  have hwrite : ∀ (preExisted : Bool) (st : σ), (⟨.fetch accepted.text,
      (host (.fetch accepted.text) st).1⟩ : Event) ∈
        Scaffold.events host (writeFile s name f place env preExisted) (start.1, st) := by
    intro preExisted st
    rw [writeFile, hsource]
    dsimp only
    unfold download
    rw [haccepts]
    dsimp only
    rw [if_neg (by simp [hreal]), events_bind, fetch, if_neg (by simp [hcan])]
    exact List.mem_append_left _ List.mem_cons_self
  rw [visitFile, events_bind]
  refine List.mem_append_right _ ?_
  rw [hlook]
  rcases hfree with hnone | ⟨entry, hentry, hfile, hoverwrite⟩
  · rw [hnone]
    dsimp only
    rw [events_bind]
    exact List.mem_append_left _ (hwrite _ _)
  · rw [hentry]
    dsimp only
    rw [if_neg (by simp [hfile]), if_pos hoverwrite, events_bind]
    exact List.mem_append_left _ (hwrite _ _)

/-- Commands do not fetch. -/
lemma everyCall_hooks (s : CreateSettings) (schema : Schema) (output : String)
    (env : Environment) :
    EveryCall (·.isFetch = false) (if s.options.runHooks then do
      let folder ← hookFolder schema.root output env
      runHooks s schema.commands folder env else pure ()) := by
  split_ifs
  · exact (everyCall_hookFolder (fun _ => rfl) _).bind fun _ =>
      everyCall_runHooks (fun _ _ _ => rfl) _ _
  · exact everyCall_pure _

namespace Fetching

variable {c c' : Creation}

lemma length_filter_le (h : Fetching s f env c events c') :
    (events.filter (·.call.isFetch)).length ≤ 1 := by
  cases h with
  | nothing others => simp [filter_isFetch_eq_nil others]
  | once source accepts others fails =>
      rw [List.filter_cons_of_pos rfl, filter_isFetch_eq_nil others]
      exact Nat.le_refl 1

/-- What is fetched is asked for first. -/
lemma of_mem (h : Fetching s f env c events c') {url : String}
    {reply : Except Failure ByteArray} (hmem : (⟨.fetch url, reply⟩ : Event) ∈ events) :
    ∃ raw accepted rest, f.source = .url raw ∧ Url.guard (substitute env raw) = .ok accepted ∧
      url = accepted.text ∧ events = ⟨.fetch url, reply⟩ :: rest ∧
      (¬ Fits s.limits.maxDownloadBytes reply → rest = [] ∧ Failed c c') := by
  cases h with
  | nothing others => simpa using others _ hmem
  | @once raw accepted _ rest _ source accepts others fails =>
      rcases List.mem_cons.mp hmem with heq | hmem
      · cases heq
        exact ⟨raw, accepted, rest, source, accepts, rfl, rfl, fails⟩
      · simpa using others _ hmem

end Fetching

end

end Creation

/-- The visits of files of a run that creates. -/
def CreateSettings.arrivals {σ : Type} (s : CreateSettings) (host : Host (StateM σ))
    (schema : Schema) (output : String) (scope : Scope) (st : σ) : List (Arrival Creation σ) :=
  (Plan.ofRoot s.toWalkSettings schema.root scope).arrivals (Creation.visitor s) host
    { path := output } ({}, st)

section

variable {σ : Type} {host : Host (StateM σ)} {s : CreateSettings} {schema : Schema}
  {output : String} {scope : Scope} {st : σ}

/-- A run that creates asks what its walk asks, and then what its commands do. -/
lemma trace_create :
    ∃ commands : List Event, (∀ e ∈ commands, e.call.isFetch = false) ∧
      (create s schema output scope).trace host st =
        events host ((Plan.ofRoot s.toWalkSettings schema.root scope).perform
          (Creation.visitor s) { path := output }) ({}, st) ++ commands := by
  set walk := (Plan.ofRoot s.toWalkSettings schema.root scope).perform (Creation.visitor s)
    { path := output }
  have hhooks := Creation.everyCall_hooks s schema output (scope.environment s.today)
  refine ⟨events host _ (carryOut host walk ({}, st)).2, hhooks.events _, ?_⟩
  rw [create, walk_eq_perform, Run.trace_bind]
  exact (List.append_nil _).trans (events_bind walk _ ({}, st))

/-- The visit of a file fetches nothing, or it has looked at its place before. -/
lemma CreateSettings.fetches_of_mem_arrivals {a : Arrival Creation σ}
    (ha : a ∈ s.arrivals host schema output scope st) :
    (∀ e ∈ a.events (Creation.visitor s) host, e.call.isFetch = false) ∨
    ∃ found more, a.events (Creation.visitor s) host = ⟨.entry a.place.path, found⟩ :: more ∧
      Creation.IsFree s.options.overwrite found ∧
      Creation.Fetching s a.file a.env a.start.1 more (a.finish (Creation.visitor s) host).1 := by
  cases hdry : s.options.dryRun with
  | true => exact .inl ((Creation.visitFile_dry hdry _).events a.start)
  | false =>
      have hany : host.Within (fun _ => ()) Creation.anyReply := fun _ _ => trivial
      have hplace : a.place.isPlanned = false :=
        Creation.visitor_balances.arrivals hany (fun _ => rfl) ha hdry
      have hvisit : ∃ found more, a.events (Creation.visitor s) host =
          ⟨.entry a.place.path, found⟩ :: more ∧ (more = [] ∨
            Creation.IsFree s.options.overwrite found ∧
            Creation.Fetching s a.file a.env a.start.1 more
              (a.finish (Creation.visitor s) host).1) :=
        (Creation.visitFile_fetches hdry hplace a.name a.start.1).events
      obtain ⟨found, more, hevents, rfl | ⟨hfree, hmore⟩⟩ := hvisit
      · exact .inl (by simp [hevents])
      · exact .inr ⟨found, more, hevents, hfree, hmore⟩

end

/-- **Fetching is gated.** Whatever the surroundings reply, all calls of a run that fetch are
made in visits of files, at most one in each, and after each visit the run goes on with what
follows. The address is the accepted one of the file; before, nothing was found in its place,
or a file that may be overwritten. If fetching fails or brings more than the limit then the
visit asks for nothing more, records nothing and counts one error, and leaves alone what
looking and fetching do. -/
theorem fetches_are_gated {σ : Type} (host : Host (StateM σ)) (s : CreateSettings)
    (schema : Schema) (output : String) (scope : Scope) (st : σ) :
    let v := Creation.visitor s
    let trace := (create s schema output scope).trace host st
    let arrivals := s.arrivals host schema output scope st
    trace.filter (·.call.isFetch) =
      arrivals.flatMap (fun a => (a.events v host).filter (·.call.isFetch)) ∧
    ∀ a ∈ arrivals,
      ((a.events v host).filter (·.call.isFetch)).length ≤ 1 ∧
      a.events v host ++ events host (a.next.perform v a.folder) (a.finish v host) <:+: trace ∧
      ∀ url reply, (⟨.fetch url, reply⟩ : Event) ∈ a.events v host →
        ∃ raw accepted found rest,
          a.file.source = .url raw ∧ Url.guard (substitute a.env raw) = .ok accepted ∧
          url = accepted.text ∧
          a.events v host = ⟨.entry a.place.path, found⟩ :: ⟨.fetch url, reply⟩ :: rest ∧
          Creation.IsFree s.options.overwrite found ∧
          (¬ Fits s.limits.maxDownloadBytes reply →
            rest = [] ∧ Creation.Failed a.start.1 (a.finish v host).1 ∧
            ∀ {τ : Type} (view : σ → τ), (∀ path st, view (host (.entry path) st).2 = view st) →
              (∀ url st, view (host (.fetch url) st).2 = view st) →
              view (a.finish v host).2 = view a.start.2) := by
  intro v trace arrivals
  obtain ⟨commands, hcommands, htrace⟩ : ∃ commands : List Event,
      (∀ e ∈ commands, e.call.isFetch = false) ∧ trace = events host
        ((Plan.ofRoot s.toWalkSettings schema.root scope).perform v { path := output })
        ({}, st) ++ commands := trace_create
  refine ⟨?_, fun a ha => ⟨?_, ?_, fun url reply hmem => ?_⟩⟩
  · calc trace.filter (·.call.isFetch)
        = (events host ((Plan.ofRoot s.toWalkSettings schema.root scope).perform v
            { path := output }) ({}, st)).filter (·.call.isFetch) := by
          rw [htrace, List.filter_append, filter_isFetch_eq_nil hcommands, List.append_nil]
      _ = arrivals.flatMap fun a => (a.events v host).filter (·.call.isFetch) :=
          (Creation.visitor_onlyFiles s).filter_events _ _ _
  · rcases s.fetches_of_mem_arrivals ha with hnone | ⟨found, more, hevents, -, hmore⟩
    · rw [filter_isFetch_eq_nil hnone]
      exact Nat.zero_le 1
    · rw [hevents]
      simpa using hmore.length_filter_le
  · rw [htrace]
    exact (Plan.mem_arrivals_goesOn ha).trans (List.prefix_append _ _).isInfix
  · rcases s.fetches_of_mem_arrivals ha with hnone | ⟨found, more, hevents, hfree, hmore⟩
    · simpa using hnone _ hmem
    rw [hevents] at hmem
    obtain ⟨raw, accepted, rest, hsource, haccepts, hurl, hfirst, hfails⟩ :=
      hmore.of_mem (by simpa using hmem)
    rw [hfirst] at hevents
    refine ⟨raw, accepted, found, rest, hsource, haccepts, hurl, hevents, hfree, fun hfits => ?_⟩
    obtain ⟨rfl, hfailed⟩ := hfails hfits
    refine ⟨rfl, hfailed, fun view hentry hfetch => ?_⟩
    refine carryOut_eq_of_events view (x := a.visit v) (s := a.start) fun e he => ?_
    have he : e ∈ a.events (Creation.visitor s) host := he
    rw [hevents] at he
    rcases List.mem_pair.mp he with rfl | rfl
    · exact hentry _
    · exact hfetch _

/-- A fetcher brings more than the limit for a file that may be overwritten: the file is
kept, and one error is counted. -/
theorem fetches_are_gated_of_oversized :
    let s : CreateSettings :=
      { limits := { maxDownloadBytes := 2 }, today := ⟨2024, 1, 1, by decide⟩
        equipment := { canFetch := true }, options := { overwrite := true } }
    let raw := "https://[2606::1]/"
    let schema : Schema := { root := .file { name := "b", url := some raw } }
    let host := Memory.host { fetch := fun _ => .ok ⟨#[1, 2, 3]⟩ }
    let before := (Memory.write (Memory.empty.makeFolder "out").2 "out/b" .empty).2
    ∃ a ∈ s.arrivals host schema "out" default before, ∃ accepted found,
      Url.guard raw = .ok accepted ∧
      a.events (Creation.visitor s) host =
        [⟨.entry a.place.path, found⟩, ⟨.fetch accepted.text, .ok ⟨#[1, 2, 3]⟩⟩] ∧
      Creation.Failed a.start.1 (a.finish (Creation.visitor s) host).1 ∧
      (a.finish (Creation.visitor s) host).2 = before := by
  intro s raw schema host before
  have hsame : ∀ name ∈ ["b", raw], ∀ env, substitute env name = name := by
    intro name hname env
    exact substitute_of_not_mem (by fin_cases hname <;> decide)
  obtain ⟨accepted, haccepts⟩ : ∃ accepted, Url.guard raw = .ok accepted := by
    have hok : (Url.guard raw).isOk = true := by decide +kernel
    revert hok
    cases Url.guard raw with
    | error e => simp [Except.isOk, Except.toBool]
    | ok accepted => exact fun _ => ⟨accepted, rfl⟩
  let f : FileNode := { name := "b", url := some raw }
  let a : Arrival Creation Memory :=
    ⟨⟨"b", rfl⟩, f, Scope.environment default s.today, { path := "out" }, .done, ({}, before)⟩
  have ha : a ∈ s.arrivals host schema "out" default before := by
    simp only [CreateSettings.arrivals, Plan.ofRoot, Plan.ofList, Plan.ofNode, schema,
      hsame "b" (by simp)]
    exact List.mem_cons_self
  have henv : substitute a.env raw = raw := hsame raw (by simp) _
  have hfetched : ⟨.fetch accepted.text, .ok ⟨#[1, 2, 3]⟩⟩ ∈
      a.events (Creation.visitor s) host := by
    have hentry : (host (.entry a.place.path) before).1 = .ok (some ⟨.file, 0⟩) :=
      congrArg Except.ok (show before.entry a.place.path = some ⟨.file, 0⟩ by decide)
    exact Creation.fetch_mem_events rfl rfl rfl rfl (henv.symm ▸ haccepts)
      (.inr ⟨_, hentry, rfl, rfl⟩)
  obtain ⟨-, hvisits⟩ := fetches_are_gated host s schema "out" default before
  obtain ⟨-, -, hfetches⟩ := hvisits a ha
  obtain ⟨raw', accepted', found, rest, -, -, -, hevents, -, hfails⟩ := hfetches _ _ hfetched
  have hsize : ¬ Fits s.limits.maxDownloadBytes (.ok ⟨#[1, 2, 3]⟩) := by
    rintro ⟨bytes, hbytes, hsize⟩
    cases hbytes
    exact absurd hsize (by decide)
  obtain ⟨rfl, hfailed, hview⟩ := hfails hsize
  refine ⟨a, ha, accepted, found, haccepts, hevents, hfailed, ?_⟩
  exact hview id (fun _ _ => rfl) fun _ _ => rfl

end Scaffold

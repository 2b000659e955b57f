import Mathlib.Tactic
import Scaffold.Proofs.Fidelity

/-!
A dry run and a preview agree.

* A `Sight` is what a run that only looks comes to, with what it finds in that place.
  Below a folder that is only planned nothing is looked for, so `Plan.sights` follows where
  a walk is, and holds of every file system;
* `Visitor.Surveys`: each visit of a visitor adds what its sight is marked with, and leaves
  the files alone. Then so does a plan that is performed (`Surveys.perform`);
* `Preview.visitor_surveys` and `Creation.visitor_surveys`: a preview counts its sights by
  what becomes of them, and a dry run by how it reports them;
* `dry_run_agrees_with_preview`: the counts of both are those of the same sights.
-/

namespace Scaffold

open Scaffold.Path Variable

/-- Whether a message says that a download has failed. -/
def LogEntry.IsDownloadFailure (entry : LogEntry) : Prop :=
  "Download failed: ".toList <+: entry.message.toList

instance (entry : LogEntry) : Decidable entry.IsDownloadFailure :=
  inferInstanceAs (Decidable (_ <+: _))

/-! ### Sights -/

/-- What a run comes to, with what it finds there. -/
structure Sight where
  /-- The file and the variables of its scope; a folder has none. -/
  file : Option (FileNode × Environment)
  found : Option Entry

/-- How a dry run reports what it comes to. -/
inductive Outcome where
  | made
  | refused
  | skipped
  | found
  deriving DecidableEq

namespace Sight

/-- What becomes of it; nothing does if what is found is of the other kind. -/
def action (overwrite : Bool) (v : Sight) : Option PreviewAction :=
  match v.file, v.found with
  | _, none => some .create
  | none, some entry => if entry.isFolder then some .unchanged else none
  | some _, some entry =>
    if entry.isFolder then none else some (if overwrite then .overwrite else .skip)

/-- Whether the address of a file is refused. -/
def hasBadUrl (v : Sight) : Bool :=
  match v.file with
  | none => false
  | some (f, env) =>
    match f.source with
    | .url raw => !(Url.guard (substitute env raw)).isOk
    | .generated _ _ | .inline _ => false

/-- How a dry run reports it. -/
def outcome (overwrite : Bool) (v : Sight) : Option Outcome :=
  (v.action overwrite).map fun
    | .create | .overwrite => if v.hasBadUrl then .refused else .made
    | .skip => .skipped
    | .unchanged => .found

/-- Whether it is a file that is neither skipped nor blocked, and whose address is refused. -/
def isRejected (overwrite : Bool) (v : Sight) : Bool :=
  v.outcome overwrite = some .refused

variable {ι : Type} [DecidableEq ι]

/-- How often some sights are marked with each mark. -/
def tally (mark : Sight → Option ι) (sights : List Sight) : ι → ℕ :=
  fun i => sights.countP (mark · = some i)

lemma tally_nil (mark : Sight → Option ι) : tally mark [] = 0 := rfl

lemma tally_append (mark : Sight → Option ι) (sights more : List Sight) :
    tally mark (sights ++ more) = tally mark sights + tally mark more :=
  funext fun _ => List.countP_append

lemma tally_cons (mark : Sight → Option ι) (v : Sight) (sights : List Sight) :
    tally mark (v :: sights) = tally mark [v] + tally mark sights :=
  tally_append mark [v] sights

lemma tally_of_none {mark : Sight → Option ι} {v : Sight} (h : mark v = none) :
    tally mark [v] = 0 := by
  funext i
  simp [tally, h]

lemma tally_of_some {mark : Sight → Option ι} {v : Sight} {i : ι} (h : mark v = some i) :
    tally mark [v] = Pi.single i 1 := by
  funext j
  by_cases hj : i = j
  · subst hj
    simp [tally, h]
  · simp [tally, h, hj]

end Sight

/-- What is found at a place: nothing below a folder that is only planned. -/
def seen (fs : Memory) (place : Cursor) : Option Entry :=
  if place.isPlanned then none else fs.entry place.path

/-- What a plan comes to from a place if it only looks. A folder is left out with all that
is in it if something else is found there, and is only planned if nothing is. -/
def Plan.sights (fs : Memory) : Plan → Cursor → List Sight
  | done, _ => []
  | report _ next, place | refused _ next, place => next.sights fs place
  | file name f env next, place =>
      ⟨some (f, env), seen fs (place.descend name)⟩ :: next.sights fs place
  | folder name inside next, place =>
      let here := place.descend name
      let found := seen fs here
      ⟨none, found⟩ ::
        ((if found.all Entry.isFolder then
          inside.sights fs { here with isPlanned := here.isPlanned || found.isNone } else []) ++
          next.sights fs place)
  | group _ inside next, place => inside.sights fs place ++ next.sights fs place

/-- What follows a folder is come to after all that is in it. -/
lemma Plan.sights_folder_append (fs : Memory) (name : AcceptedName) (inside next : Plan)
    (place : Cursor) :
    (folder name inside next).sights fs place =
      (folder name inside done).sights fs place ++ next.sights fs place := by
  simp [sights]

/-- What a walk of a schema comes to if it only looks. -/
def WalkSettings.sights (s : WalkSettings) (schema : Schema) (output : String) (scope : Scope)
    (fs : Memory) : List Sight :=
  (Plan.ofRoot s schema.root scope).sights fs { path := output }

/-! ### Surveys -/

/-- Files are kept in memory and left alone, and what is counted goes up by an amount. -/
abbrev Notes {ρ ι α : Type} (fs : Memory) (counts : ρ → ι → ℕ) (x : StateT ρ Run α)
    (amount : ι → ℕ) (Q : α → Prop) : Prop :=
  Raises Memory.answering counts fs x amount Q

/-- Each visit adds what its sight is marked with. -/
structure Visitor.Surveys {ρ Item Opened ι : Type} [DecidableEq ι]
    (v : Visitor (StateT ρ Run) Item Opened) (fs : Memory) (counts : ρ → ι → ℕ)
    (mark : Sight → Option ι) : Prop where
  report : ∀ notice : Notice, Notes fs counts (v.report (notice.entry v.isDry)) 0 fun _ => True
  /-- What a folder adds is added before or after what is in it. -/
  folder : ∀ name place, ∃ before after,
    before + after = Sight.tally mark [⟨none, seen fs place⟩] ∧
    Notes fs counts (v.enterFolder name place) before fun opened =>
      (opened = none → after = 0 ∧ (seen fs place).all Entry.isFolder = false) ∧
      ∀ o isPlanned, opened = some (o, isPlanned) →
        (seen fs place).all Entry.isFolder = true ∧
        (place.isPlanned || isPlanned) = (place.isPlanned || (seen fs place).isNone) ∧
        ∀ items, Notes fs counts (v.leaveFolder o items) after fun _ => True
  file : ∀ name f place env, Notes fs counts (v.file name f place env)
    (Sight.tally mark [⟨some (f, env), seen fs place⟩]) fun _ => True
  group : ∀ label place items, Notes fs counts (v.group label place items) 0 fun _ => True
  invalidName : ∀ kind place, Notes fs counts (v.invalidName kind place) 0 fun _ => True

namespace Visitor.Surveys

variable {ρ Item Opened ι : Type} [DecidableEq ι] {v : Visitor (StateT ρ Run) Item Opened}
  {fs : Memory} {counts : ρ → ι → ℕ} {mark : Sight → Option ι}

omit [DecidableEq ι] in
/-- One visit and then the rest of a plan. -/
lemma andThen {x : StateT ρ Run (Option Item)} {rest : StateT ρ Run (List Item)}
    {amount more : ι → ℕ} (hx : Notes fs counts x amount fun _ => True)
    (hrest : Notes fs counts rest more fun _ => True) :
    Notes fs counts (do let item ← x; let items ← rest; pure (item.toList ++ items))
      (amount + more) fun _ => True := by
  refine hx.bind fun item _ => ?_
  simpa using hrest.bind fun items _ => raises_pure (Q := fun _ => True) trivial

lemma openFolder (hv : v.Surveys fs counts mark) (name : AcceptedName) (place : Cursor)
    (inside : Plan) (hinside : ∀ inner, Notes fs counts (inside.perform v inner)
      (Sight.tally mark (inside.sights fs inner)) fun _ => True) :
    Notes fs counts (Plan.openFolder v name place (inside.perform v))
      (Sight.tally mark ((Plan.folder name inside .done).sights fs place)) fun _ => True := by
  obtain ⟨before, after, hsum, henter⟩ := hv.folder name (place.descend name)
  rw [Plan.sights, Sight.tally_cons, ← hsum, Plan.sights, List.append_nil]
  intro t
  rw [Plan.openFolder, ensures_bind]
  refine (henter t).mono ?_
  rintro opened t' _ ⟨⟨hnone, hsome⟩, ht', rfl⟩
  cases opened with
  | none =>
      obtain ⟨rfl, hblocked⟩ := hnone rfl
      refine ensures_pure.mpr ⟨trivial, ?_, rfl⟩
      rw [ht', hblocked, if_neg (by simp), Sight.tally_nil, add_zero, add_zero]
  | some opened =>
      obtain ⟨hopen, hplanned, hleave⟩ := hsome _ _ rfl
      have hwalk := (hinside { place.descend name with
        isPlanned := (place.descend name).isPlanned || opened.2 }).bind fun items _ =>
          hleave items
      refine (hwalk t').mono ?_
      rintro _ t'' _ ⟨-, ht'', rfl⟩
      refine ⟨trivial, ?_, rfl⟩
      rw [ht'', ht', if_pos hopen, hplanned]
      ac_rfl

/-- **A plan that is performed** adds what all its sights are marked with. -/
theorem perform (hv : v.Surveys fs counts mark) (p : Plan) (place : Cursor) :
    Notes fs counts (p.perform v place) (Sight.tally mark (p.sights fs place)) fun _ => True := by
  induction p generalizing place with
  | done => exact raises_pure trivial
  | report notice next ih => exact (hv.report notice).andThen fun _ _ => ih place
  | refused kind next ih =>
      have hrest := andThen (hv.invalidName kind place) (ih place)
      rwa [zero_add] at hrest
  | file name f env next ih =>
      rw [Plan.sights, Sight.tally_cons]
      exact andThen (hv.file name f _ env) (ih place)
  | folder name inside next ihInside ih =>
      rw [Plan.sights_folder_append, Sight.tally_append]
      exact andThen (hv.openFolder name place inside ihInside) (ih place)
  | group label inside next ihInside ih =>
      rw [Plan.sights, Sight.tally_append]
      refine (ihInside place).bind fun children _ => ?_
      have hrest := andThen (hv.group label place children) (ih place)
      rwa [zero_add] at hrest

end Visitor.Surveys

/-! ### Previews -/

namespace Preview

/-- How many nodes there are of each action. -/
def counts (t : PreviewSummary) : PreviewAction → ℕ
  | .create => t.creates
  | .overwrite => t.overwrites
  | .skip => t.skips
  | .unchanged => t.unchangedFolders

section

variable {fs : Memory}

lemma notes_warn (message : String) : Notes fs counts (warn message) 0 fun _ => True :=
  raises_modify fun t => by funext action; cases action <;> rfl

lemma notes_report (entry : LogEntry) : Notes fs counts (report entry) 0 fun _ => True := by
  unfold report
  split
  · exact notes_warn _
  · exact notes_warn _
  · exact raises_pure trivial
  · exact raises_pure trivial

lemma notes_count (action : PreviewAction) :
    Notes fs counts (count action) (Pi.single action 1) fun _ => True := by
  refine raises_modify fun t => ?_
  funext other
  cases action <;> cases other <;> simp [counts]

/-- What is found is what is seen. -/
lemma notes_look (place : Cursor) :
    Notes fs counts (look place) 0 fun found => found = seen fs place := by
  intro t
  unfold look seen
  split_ifs
  · exact ensures_pure.mpr ⟨rfl, (add_zero _).symm, rfl⟩
  · rw [ensures_bind, Memory.ensures_call_iff (by simp [Call.path?])]
    exact ensures_pure.mpr ⟨rfl, (add_zero _).symm, rfl⟩

lemma notes_describe (s : Settings) (f : FileNode) (place : Cursor) (env : Environment)
    (node : PreviewNode) : Notes fs counts (describe s f place env node) 0 fun _ => True := by
  unfold describe
  split
  · dsimp only
    split
    · exact (notes_warn _).andThen fun _ _ => raises_pure trivial
    · exact raises_pure trivial
  · exact raises_pure trivial
  · dsimp only
    split
    · exact (notes_warn _).andThen fun _ _ => raises_pure trivial
    · exact raises_pure trivial

lemma notes_compare (s : Settings) (size : Nat) (place : Cursor) (text : Option String)
    (node : PreviewNode) :
    Notes fs counts (compare s size place text node) 0 fun _ => True := by
  intro t
  unfold compare
  split_ifs
  · exact raises_pure trivial t
  rw [ensures_bind, Memory.ensures_call_iff (by simp [Call.path?])]
  simp only [Memory.answer]
  split
  · exact (notes_warn _).andThen (fun _ _ => raises_pure trivial) t
  · split <;> exact raises_pure trivial t

/-- A file is counted by what becomes of it. -/
lemma notes_judgeFile (s : Settings) {existing : Option Entry}
    (hexisting : existing.any Entry.isFolder = false) (name : String) (f : FileNode)
    (place : Cursor) (env : Environment) :
    Notes fs counts (judgeFile s name f place env existing)
      (Sight.tally (Sight.action s.overwrite) [⟨some (f, env), existing⟩]) fun _ => True := by
  have hjudge : ∀ (action : PreviewAction)
      (finish : PreviewNode × Option String → PreviewM PreviewNode),
      (∀ r, Notes fs counts (finish r) 0 fun _ => True) →
      Notes fs counts (do
        count action
        let r ← describe s f place env { kind := .file, name, path := place.shown, action }
        finish r) (Pi.single action 1) fun _ => True := by
    intro action finish hfinish
    rw [← add_zero (Pi.single action 1)]
    exact (notes_count action).bind fun _ _ =>
      (notes_describe s f place env _).andThen fun r _ => hfinish r
  cases existing with
  | none =>
      have haction : Sight.action s.overwrite ⟨some (f, env), none⟩ = some .create := rfl
      rw [Sight.tally_of_some haction]
      exact hjudge .create _ fun r => raises_pure trivial
  | some entry =>
      have hfile : entry.isFolder = false := by simpa using hexisting
      have haction : Sight.action s.overwrite ⟨some (f, env), some entry⟩ =
          some (if s.overwrite then .overwrite else .skip) := by simp [Sight.action, hfile]
      rw [Sight.tally_of_some haction]
      unfold judgeFile
      split_ifs
      · exact hjudge .overwrite _ fun r => notes_compare s _ place r.2 r.1
      · exact hjudge .skip _ fun r => raises_pure trivial

lemma notes_visitFile (s : Settings) (name : String) (f : FileNode) (place : Cursor)
    (env : Environment) :
    Notes fs counts (visitFile s name f place env)
      (Sight.tally (Sight.action s.overwrite) [⟨some (f, env), seen fs place⟩])
      fun _ => True := by
  refine (notes_look place).andThen ?_
  rintro _ rfl
  split_ifs with hfolder
  · obtain ⟨entry, hentry, hisFolder⟩ := (Option.any_eq_true ..).mp hfolder
    rw [Sight.tally_of_none (by simp [Sight.action, hentry, hisFolder])]
    exact (notes_warn _).andThen fun _ _ => raises_pure trivial
  · have hjudge : Notes fs counts (judgeFile s name f place env (seen fs place)) _ _ :=
      notes_judgeFile s (by simpa using hfolder) name f place env
    simpa using hjudge.bind fun node _ => raises_pure (Q := fun _ => True) trivial

/-- **A preview** counts what it comes to by what becomes of it. -/
theorem visitor_surveys (s : Settings) :
    (visitor s).Surveys fs counts (Sight.action s.overwrite) where
  report notice := notes_report _
  folder name place := by
    refine ⟨0, _, zero_add _, ?_⟩
    refine (notes_look place).andThen ?_
    rintro _ rfl
    have hleave : ∀ action, (Sight.action s.overwrite ⟨none, seen fs place⟩ = some action) →
        ∀ items, Notes fs counts (leaveFolder ⟨name, place.shown, action⟩ items)
          (Sight.tally (Sight.action s.overwrite) [⟨none, seen fs place⟩]) fun _ => True := by
      intro action haction items
      rw [Sight.tally_of_some haction, ← add_zero (Pi.single action 1)]
      exact (notes_count action).bind fun _ _ => raises_pure trivial
    cases hseen : seen fs place with
    | none =>
        rw [hseen] at hleave
        refine raises_pure ⟨by simp, ?_⟩
        rintro o isPlanned ho
        obtain ⟨rfl, rfl⟩ := Prod.mk.inj (Option.some.inj ho)
        exact ⟨rfl, rfl, hleave _ rfl⟩
    | some entry =>
        rw [hseen] at hleave
        dsimp only
        split_ifs with hfolder
        · refine raises_pure ⟨by simp, ?_⟩
          rintro o isPlanned ho
          obtain ⟨rfl, rfl⟩ := Prod.mk.inj (Option.some.inj ho)
          exact ⟨by simpa using hfolder, by simp, hleave _ (by simp [Sight.action, hfolder])⟩
        · refine (notes_warn _).andThen fun _ _ => raises_pure ⟨fun _ => ?_, by simp⟩
          exact ⟨Sight.tally_of_none (by simp [Sight.action, hfolder]), by simpa using hfolder⟩
  file := notes_visitFile s
  group label place items := by
    dsimp only [visitor, group]
    split_ifs <;> exact raises_pure trivial
  invalidName kind place := raises_pure trivial

end

end Preview

/-! ### Dry runs -/

/-- How many folders and files were made, or would be in a run that is dry. -/
def CreationSummary.made (c : CreationSummary) : ℕ :=
  c.foldersCreated + c.filesCreated + c.filesDownloaded + c.filesGenerated

namespace Creation

/-- How much is reported of each outcome. -/
def outcomes (c : Creation) : Outcome → ℕ
  | .made => c.summary.made
  | .refused => c.logs.toList.countP (·.IsDownloadFailure)
  | .skipped => c.summary.skipped
  | .found => c.foldersFound

/-- A message that reports no outcome. -/
def IsAside (entry : LogEntry) : Prop :=
  ¬ entry.IsDownloadFailure ∧ ¬ entry.IsFolderFound

lemma isAside_entry (isDry : Bool) (notice : Notice) : IsAside (notice.entry isDry) := by
  refine ⟨?_, not_isFolderFound_entry isDry notice⟩
  cases notice with
  | rounds times name => cases isDry <;> simp [Notice.entry, LogEntry.IsDownloadFailure, toString]
  | tooDeep | invalidName | orphaned | invalidVariable | noRounds | invalidCount
  | tooManyRounds => simp [Notice.entry, LogEntry.IsDownloadFailure, toString]

section

variable {fs : Memory} {kind : LogKind} {message : String} {details : Option String}

/-- A message may report a refusal or a folder. -/
lemma notes_log {amount : Outcome → ℕ}
    (hrefused : amount .refused =
      if LogEntry.IsDownloadFailure ⟨kind, message, details⟩ then 1 else 0)
    (hfound : amount .found = if LogEntry.IsFolderFound ⟨kind, message, details⟩ then 1 else 0)
    (hmade : amount .made = 0) (hskipped : amount .skipped = 0) :
    Notes fs outcomes (log kind message details) amount fun _ => True := by
  refine raises_modify fun c => ?_
  funext outcome
  cases outcome <;> simp [outcomes, foldersFound, List.countP_append, List.countP_singleton, *]

lemma notes_aside (h : IsAside ⟨kind, message, details⟩) :
    Notes fs outcomes (log kind message details) 0 fun _ => True :=
  notes_log (by simp [h.1]) (by simp [h.2]) rfl rfl

lemma notes_count {change : CreationSummary → CreationSummary} {amount : Outcome → ℕ}
    (h : ∀ c : Creation, outcomes { c with summary := change c.summary } = outcomes c + amount) :
    Notes fs outcomes (count change) amount fun _ => True :=
  raises_modify h

/-- Something that would be made is counted. -/
lemma notes_made {change : CreationSummary → CreationSummary}
    (hmade : ∀ c, (change c).made = c.made + 1)
    (hskipped : ∀ c, (change c).skipped = c.skipped) (h : IsAside ⟨kind, message, details⟩) :
    Notes fs outcomes (do count change; log kind message details) (Pi.single .made 1)
      fun _ => True := by
  rw [← add_zero (Pi.single Outcome.made 1)]
  refine (notes_count fun c => ?_).bind fun _ _ => notes_aside h
  funext outcome
  cases outcome <;> simp [outcomes, foldersFound, hmade, hskipped]

/-- An error counts for itself. -/
lemma notes_error {amount : Outcome → ℕ}
    (hlog : Notes fs outcomes (log kind message details) amount fun _ => True) :
    Notes fs outcomes (do
      count fun c => { c with errors := c.errors + 1 }
      log kind message details) amount fun _ => True := by
  refine (notes_count fun c => ?_).andThen fun _ _ => hlog
  funext outcome
  cases outcome <;> rfl

lemma notes_fail {message details : String} (h : IsAside ⟨.error, message, details⟩) :
    Notes fs outcomes (fail message details) 0 fun _ => True :=
  notes_error (notes_aside h)

lemma notes_report {entry : LogEntry} (h : IsAside entry) :
    Notes fs outcomes (report entry) 0 fun _ => True := by
  unfold report
  split_ifs
  · exact notes_error (notes_aside h)
  · exact notes_aside h

lemma notes_reportFault (name : String) (fault : Option TemplateError) :
    Notes fs outcomes (reportFault name fault) 0 fun _ => True := by
  cases fault with
  | none => exact raises_pure trivial
  | some e =>
      exact notes_aside (by simp [IsAside, LogEntry.IsDownloadFailure, LogEntry.IsFolderFound,
        toString])

lemma notes_ask (path : String) :
    Notes fs outcomes (ask (.entry path)) 0 fun found => found = .ok (fs.entry path) := by
  intro c
  rw [ask, Memory.ensures_call_iff (by simp [Call.path?])]
  exact ⟨rfl, (add_zero _).symm, rfl⟩

/-- What is found is what is seen. -/
lemma notes_look (place : Cursor) :
    Notes fs outcomes (look place) 0 fun found => found = .ok (seen fs place) := by
  unfold look seen
  split_ifs
  · exact raises_pure rfl
  · exact notes_ask _

variable {s : CreateSettings}

/-- A file that would be written is counted, unless its address is refused. -/
lemma notes_writeFile (hdry : s.options.dryRun = true) (name : String) (f : FileNode)
    (place : Cursor) (env : Environment) (preExisted : Bool) (found : Option Entry) :
    Notes fs outcomes (writeFile s name f place env preExisted)
      (Pi.single (if Sight.hasBadUrl ⟨some (f, env), found⟩ then .refused else .made) 1)
      fun _ => True := by
  unfold writeFile
  split
  · rename_i raw hsource
    unfold download
    split
    · rename_i fault hguard
      simp only [Sight.hasBadUrl, hsource, hguard, Except.isOk, Except.toBool, Bool.not_false,
        ↓reduceIte]
      refine notes_error (notes_log ?_ ?_ ?_ ?_) <;>
        simp [LogEntry.IsDownloadFailure, LogEntry.IsFolderFound, toString]
    · rename_i accepted hguard
      simp only [Sight.hasBadUrl, hsource, hguard, hdry, Except.isOk, Except.toBool,
        Bool.not_true, Bool.false_eq_true, ↓reduceIte]
      exact notes_made (fun c => by grind [CreationSummary.made]) (fun _ => rfl)
        (by simp [IsAside, LogEntry.IsDownloadFailure, LogEntry.IsFolderFound, toString])
  · rename_i kind config hsource
    simp only [generate, hdry, ↓reduceIte, Sight.hasBadUrl, hsource, Bool.false_eq_true]
    exact notes_made (fun c => by grind [CreationSummary.made]) (fun _ => rfl)
      (by simp [IsAside, LogEntry.IsDownloadFailure, LogEntry.IsFolderFound, toString])
  · rename_i content hsource
    simp only [writeInline, writeText, hdry, ↓reduceIte, Sight.hasBadUrl, hsource,
      Bool.false_eq_true]
    exact (notes_reportFault _ _).andThen fun _ _ => notes_made
      (fun c => by grind [CreationSummary.made]) (fun _ => rfl)
      (by simp [IsAside, LogEntry.IsDownloadFailure, LogEntry.IsFolderFound, toString])

/-- A visit that goes wrong reports no outcome. -/
lemma notes_giveUp {γ : Type} {message details : String} {Q : Option γ → Prop} (hQ : Q none)
    (h : IsAside ⟨.error, message, details⟩) :
    Notes fs outcomes (do fail message details; pure (none : Option γ)) 0 Q :=
  (notes_fail h).andThen fun _ _ => raises_pure hQ

lemma notes_visitFile (hdry : s.options.dryRun = true) (name : String) (f : FileNode)
    (place : Cursor) (env : Environment) :
    Notes fs outcomes (visitFile s name f place env)
      (Sight.tally (Sight.outcome s.options.overwrite) [⟨some (f, env), seen fs place⟩])
      fun _ => True := by
  have hwrite : ∀ (found : Option Entry) (preExisted : Bool),
      Notes fs outcomes (do writeFile s name f place env preExisted; pure (none : Option Unit))
        (Pi.single (if Sight.hasBadUrl ⟨some (f, env), found⟩ then .refused else .made) 1)
        fun _ => True := by
    intro found preExisted
    have hfile : Notes fs outcomes (writeFile s name f place env preExisted) _ _ :=
      notes_writeFile hdry name f place env preExisted found
    have hvisit := hfile.bind fun _ _ =>
      raises_pure (a := (none : Option Unit)) (Q := fun _ => True) trivial
    rwa [add_zero] at hvisit
  have hskip : Notes fs outcomes (do
      count fun c => { c with skipped := c.skipped + 1 }
      log .warning s!"Skipped (exists): {name}" place.shown
      pure (none : Option Unit)) (Pi.single .skipped 1) fun _ => True := by
    rw [← add_zero (Pi.single Outcome.skipped 1)]
    refine (notes_count fun c => ?_).bind fun _ _ =>
      (notes_aside ?_).andThen fun _ _ => raises_pure trivial
    · funext outcome
      cases outcome <;> simp [outcomes, CreationSummary.made, foldersFound]
    · simp [IsAside, LogEntry.IsDownloadFailure, LogEntry.IsFolderFound, toString]
  refine (notes_look place).andThen ?_
  rintro _ rfl
  cases hseen : seen fs place with
  | none =>
      have houtcome : Sight.outcome s.options.overwrite ⟨some (f, env), none⟩ =
          some (if Sight.hasBadUrl ⟨some (f, env), none⟩ then .refused else .made) := rfl
      rw [Sight.tally_of_some houtcome]
      exact hwrite none false
  | some entry =>
      dsimp only
      split_ifs with hfolder hoverwrite
      · rw [Sight.tally_of_none (by simp [Sight.outcome, Sight.action, hfolder])]
        exact notes_giveUp trivial
          (by simp [IsAside, LogEntry.IsDownloadFailure, LogEntry.IsFolderFound, toString])
      · have houtcome : Sight.outcome s.options.overwrite ⟨some (f, env), some entry⟩ =
            some (if Sight.hasBadUrl ⟨some (f, env), some entry⟩ then .refused else .made) := by
          simp [Sight.outcome, Sight.action, hfolder, hoverwrite]
        rw [Sight.tally_of_some houtcome]
        exact hwrite (some entry) true
      · have houtcome : Sight.outcome s.options.overwrite ⟨some (f, env), some entry⟩ =
            some .skipped := by
          simp [Sight.outcome, Sight.action, hfolder, hoverwrite]
        rw [Sight.tally_of_some houtcome]
        exact hskip

lemma notes_planFolder (name : String) (place : Cursor) :
    Notes fs outcomes (planFolder name place) (Pi.single .made 1)
      fun opened => opened = some ((), true) := by
  have hplan : Notes fs outcomes (do
      count fun c => { c with foldersCreated := c.foldersCreated + 1 }
      log .info s!"Would create folder: {name}" place.shown) (Pi.single .made 1) fun _ => True :=
    notes_made (fun c => by grind [CreationSummary.made]) (fun _ => rfl)
      (by simp [IsAside, LogEntry.IsDownloadFailure, LogEntry.IsFolderFound, toString])
  rw [← add_zero (Pi.single Outcome.made 1)]
  simpa [planFolder] using hplan.bind fun _ _ =>
    raises_pure (Q := fun opened => opened = some ((), true)) rfl

/-- A folder is opened unless something else is seen in its place. -/
lemma notes_enterFolder (hdry : s.options.dryRun = true) (name : String) (place : Cursor) :
    Notes fs outcomes (enterFolder s name place)
      (Sight.tally (Sight.outcome s.options.overwrite) [⟨none, seen fs place⟩]) fun opened =>
      opened = if (seen fs place).all Entry.isFolder then some ((), (seen fs place).isNone)
        else none := by
  have hplan : Notes fs outcomes (planFolder name place)
      (Sight.tally (Sight.outcome s.options.overwrite) [⟨none, none⟩])
      fun opened => opened = some ((), true) := by
    have houtcome : Sight.outcome s.options.overwrite ⟨none, none⟩ = some .made := rfl
    rw [Sight.tally_of_some houtcome]
    exact notes_planFolder name place
  unfold enterFolder
  by_cases hplanned : place.isPlanned
  · simpa [hplanned, seen] using hplan
  rw [if_neg hplanned]
  have hseen : seen fs place = fs.entry place.path := if_neg hplanned
  refine (notes_ask _).andThen ?_
  rintro _ rfl
  rw [hseen]
  cases fs.entry place.path with
  | none => simpa [hdry] using hplan
  | some entry =>
      by_cases hfolder : entry.isFolder
      · have houtcome : Sight.outcome s.options.overwrite ⟨none, some entry⟩ = some .found := by
          simp [Sight.outcome, Sight.action, hfolder]
        rw [Sight.tally_of_some houtcome]
        simp only [hfolder, ↓reduceIte, Option.all_some, Option.isNone_some]
        rw [← add_zero (Pi.single Outcome.found 1)]
        refine (notes_log ?_ ?_ ?_ ?_).bind fun _ _ => raises_pure rfl <;>
          simp [LogEntry.IsDownloadFailure, LogEntry.IsFolderFound, toString]
      · rw [Sight.tally_of_none (by simp [Sight.outcome, Sight.action, hfolder])]
        simp only [hfolder, Bool.false_eq_true, ↓reduceIte, Option.all_some]
        exact notes_giveUp rfl
          (by simp [IsAside, LogEntry.IsDownloadFailure, LogEntry.IsFolderFound, toString])

/-- **A dry run** reports what it comes to by its outcome. -/
theorem visitor_surveys (hdry : s.options.dryRun = true) :
    (visitor s).Surveys fs outcomes (Sight.outcome s.options.overwrite) where
  report notice := notes_report (isAside_entry _ notice)
  folder name place := by
    refine ⟨_, 0, add_zero _, fun c => (notes_enterFolder hdry name place c).mono ?_⟩
    rintro opened c' fs' ⟨rfl, hrest⟩
    refine ⟨⟨fun hnone => ⟨rfl, ?_⟩, fun o isPlanned ho => ?_⟩, hrest⟩
    · simpa using hnone
    · obtain ⟨hopen, hplanned⟩ := Option.ite_none_right_eq_some.mp ho
      obtain ⟨-, rfl⟩ := Prod.mk.inj (Option.some.inj hplanned)
      exact ⟨hopen, rfl, fun items => raises_pure trivial⟩
  file := notes_visitFile hdry
  group label place items := raises_pure trivial
  invalidName kind place := raises_pure trivial

/-! ### Commands -/

lemma notes_hookFolder (root : Node) (output : String) (env : Environment) :
    Notes fs outcomes (hookFolder root output env) 0 fun _ => True := by
  unfold hookFolder
  split
  · dsimp only
    split
    · exact raises_pure trivial
    · refine (notes_ask _).andThen fun found _ => ?_
      split <;> exact raises_pure trivial
  · exact raises_pure trivial

/-- A dry run only says which commands it would run. -/
lemma notes_runHooks (hdry : s.options.dryRun = true) (commands : List String) (folder : String)
    (env : Environment) :
    Notes fs outcomes (runHooks s commands folder env) 0 fun _ => True := by
  unfold runHooks
  simp only [hdry, ↓reduceIte]
  split_ifs
  · exact raises_pure trivial
  · exact raises_forM fun command => notes_aside
      (by simp [IsAside, LogEntry.IsDownloadFailure, LogEntry.IsFolderFound, toString])

/-- A dry run reports the outcomes of all sights. -/
lemma create_ensures_outcomes (hdry : s.options.dryRun = true) (schema : Schema)
    (output : String) (scope : Scope) :
    (create s schema output scope).Ensures Memory.answering (fun c _ =>
      outcomes c = Sight.tally (Sight.outcome s.options.overwrite)
        (s.sights schema output scope fs)) fs := by
  have hstart : outcomes {} = 0 := by
    funext outcome
    cases outcome <;> rfl
  have hhooks : Notes fs outcomes (if s.options.runHooks then do
      let folder ← hookFolder schema.root output (scope.environment s.today)
      runHooks s schema.commands folder (scope.environment s.today) else pure ()) 0
      fun _ => True := by
    split_ifs
    · exact (notes_hookFolder _ _ _).andThen fun folder _ => notes_runHooks hdry _ folder _
    · exact raises_pure trivial
  rw [create, walk_eq_perform, ensures_run]
  refine (((visitor_surveys hdry).perform _ _).bind fun _ _ => hhooks) {} |>.mono ?_
  rintro _ c _ ⟨-, hc, -⟩
  rw [hstart, zero_add, add_zero] at hc
  exact hc

end

end Creation

/-- A preview counts the actions of all sights. -/
lemma Preview.ensures_counts {fs : Memory} (s : Settings) (schema : Schema) (output : String)
    (scope : Scope) :
    (preview s schema output scope).Ensures Memory.answering (fun p _ =>
      counts p.summary = Sight.tally (Sight.action s.overwrite) (s.sights schema output scope fs))
      fs := by
  have hstart : counts {} = 0 := by
    funext action
    cases action <;> rfl
  rw [preview, walk_eq_perform, ensures_run]
  refine ((visitor_surveys s).perform _ _ {}).mono ?_
  rintro trees t _ ⟨-, ht, -⟩
  rw [hstart, zero_add] at ht
  exact ht

/-! ### Agreement -/

namespace Sight

variable (overwrite : Bool) (sights : List Sight)

/-- What is created or overwritten is made, unless its address is refused. -/
lemma tally_create_add_overwrite :
    tally (action overwrite) sights .create + tally (action overwrite) sights .overwrite =
      tally (outcome overwrite) sights .made + tally (outcome overwrite) sights .refused := by
  induction sights with
  | nil => rfl
  | cons v rest ih =>
      have hv : tally (action overwrite) [v] .create + tally (action overwrite) [v] .overwrite =
          tally (outcome overwrite) [v] .made + tally (outcome overwrite) [v] .refused := by
        obtain ⟨a, ha⟩ : ∃ a, v.action overwrite = a := ⟨_, rfl⟩
        simp only [tally, List.countP_singleton, outcome, ha]
        rcases a with _ | _ | _ | _ | _ <;> cases v.hasBadUrl <;> simp
      simp only [tally_cons _ v rest, Pi.add_apply]
      omega

/-- An action that is reported in one way only. -/
lemma tally_action_eq {a : PreviewAction} {o : Outcome}
    (h : ∀ v : Sight, v.action overwrite = some a ↔ v.outcome overwrite = some o) :
    tally (action overwrite) sights a = tally (outcome overwrite) sights o :=
  List.countP_congr fun v _ => by simp [h v]

lemma action_eq_skip_iff (v : Sight) :
    v.action overwrite = some .skip ↔ v.outcome overwrite = some .skipped := by
  simp only [outcome, Option.map_eq_some_iff]
  refine ⟨fun h => ⟨_, h, rfl⟩, ?_⟩
  rintro ⟨a, ha, ho⟩
  cases a <;> grind

lemma action_eq_unchanged_iff (v : Sight) :
    v.action overwrite = some .unchanged ↔ v.outcome overwrite = some .found := by
  simp only [outcome, Option.map_eq_some_iff]
  refine ⟨fun h => ⟨_, h, rfl⟩, ?_⟩
  rintro ⟨a, ha, ho⟩
  cases a <;> grind

end Sight

/-- **A dry run and a preview agree.** From any files in memory, what a preview counts as
created or overwritten is what a dry run counts as made, with the files that are neither
skipped nor blocked and whose addresses are refused; the log of the dry run tells of each
of these. The skipped files are the same, and so are the folders that are there. -/
theorem dry_run_agrees_with_preview {σ : Type} {host : Host (StateM σ)} {view : σ → Memory}
    (hhost : host.Within view Memory.answering) {s : CreateSettings}
    (hdry : s.options.dryRun = true) (schema : Schema) (output : String) (scope : Scope) (st : σ) :
    let c := ((create s schema output scope).on host st).1
    let p := ((preview ⟨s.toWalkSettings, s.options.overwrite⟩ schema output scope).on host st).1
    let rejected := (s.sights schema output scope (view st)).countP
      (·.isRejected s.options.overwrite)
    p.summary.creates + p.summary.overwrites =
      c.summary.foldersCreated + c.summary.filesCreated + c.summary.filesDownloaded +
        c.summary.filesGenerated + rejected ∧
    rejected = c.logs.toList.countP (·.IsDownloadFailure) ∧
    p.summary.skips = c.summary.skipped ∧
    p.summary.unchangedFolders = c.foldersFound := by
  intro c p rejected
  set sights := s.sights schema output scope (view st)
  have hdryRun : Creation.outcomes c = Sight.tally (Sight.outcome s.options.overwrite) sights :=
    hhost.on (Creation.create_ensures_outcomes hdry schema output scope)
  have hpreview : Preview.counts p.summary =
      Sight.tally (Sight.action s.options.overwrite) sights :=
    hhost.on (Preview.ensures_counts _ schema output scope)
  have hrejected : rejected = Sight.tally (Sight.outcome s.options.overwrite) sights .refused :=
    rfl
  refine ⟨?_, ?_, ?_, ?_⟩
  · calc p.summary.creates + p.summary.overwrites
        = Sight.tally (Sight.action s.options.overwrite) sights .create +
            Sight.tally (Sight.action s.options.overwrite) sights .overwrite := by
          rw [← hpreview]
          rfl
      _ = Sight.tally (Sight.outcome s.options.overwrite) sights .made + rejected :=
          Sight.tally_create_add_overwrite _ _
      _ = c.summary.made + rejected := by
          rw [← hdryRun]
          rfl
  · rw [hrejected, ← hdryRun]
    rfl
  · calc p.summary.skips
        = Sight.tally (Sight.action s.options.overwrite) sights .skip := by
          rw [← hpreview]
          rfl
      _ = Sight.tally (Sight.outcome s.options.overwrite) sights .skipped :=
          Sight.tally_action_eq _ _ (Sight.action_eq_skip_iff _)
      _ = c.summary.skipped := by
          rw [← hdryRun]
          rfl
  · calc p.summary.unchangedFolders
        = Sight.tally (Sight.action s.options.overwrite) sights .unchanged := by
          rw [← hpreview]
          rfl
      _ = Sight.tally (Sight.outcome s.options.overwrite) sights .found :=
          Sight.tally_action_eq _ _ (Sight.action_eq_unchanged_iff _)
      _ = c.foldersFound := by
          rw [← hdryRun]
          rfl

/-- A file that is there, a folder that would take its place, and a file whose address is
refused: the one is skipped, the next is blocked, and the last is refused and told. -/
theorem dry_run_agrees_with_preview_of_collision :
    let s : CreateSettings :=
      { limits := {}, today := ⟨2024, 1, 1, by decide⟩, equipment := {}
        options := { dryRun := true, runHooks := true } }
    let schema : Schema :=
      { root := .folder "a" [.file { name := "b" }, .folder "b" [] ∅,
          .file { name := "c", url := some "" }] ∅
        hooks := some ["make"] }
    let before := (Memory.write (Memory.empty.makeFolder "out/a").2 "out/a/b" .empty).2
    ∃ c p, ((create s schema "out" default).on (Memory.host {}) before).1 = c ∧
      ((preview ⟨s.toWalkSettings, s.options.overwrite⟩ schema "out" default).on (Memory.host {})
        before).1 = p ∧
      p.summary.creates + p.summary.overwrites =
        c.summary.foldersCreated + c.summary.filesCreated + c.summary.filesDownloaded +
          c.summary.filesGenerated + 1 ∧
      c.logs.toList.countP (·.IsDownloadFailure) = 1 ∧
      p.summary.skips = c.summary.skipped ∧ p.summary.unchangedFolders = c.foldersFound := by
  intro s schema before
  have hsame : ∀ name ∈ ["a", "b", "c", ""], ∀ env, substitute env name = name := by
    intro name hname env
    exact substitute_of_not_mem (by fin_cases hname <;> decide)
  have hsights : s.sights schema "out" default (id before) =
      [⟨none, some ⟨.folder, 0⟩⟩,
        ⟨some ({ name := "b" }, Scope.environment default s.today), some ⟨.file, 0⟩⟩,
        ⟨none, some ⟨.file, 0⟩⟩,
        ⟨some ({ name := "c", url := some "" }, Scope.environment default s.today), none⟩] := by
    simp only [WalkSettings.sights, Plan.ofRoot, Plan.ofList, Plan.ofNode, schema, before, id,
      hsame "a" (by simp), hsame "b" (by simp), hsame "c" (by simp)]
    rfl
  have hguard : (Url.guard "").isOk = false := by decide
  have hrejected : (s.sights schema "out" default (id before)).countP
      (·.isRejected s.options.overwrite) = 1 := by
    rw [hsights]
    simp [Sight.isRejected, Sight.outcome, Sight.action, Sight.hasBadUrl, FileNode.source,
      hsame "" (by simp), hguard, Entry.isFolder, s]
  obtain ⟨hmade, htold, hskips, hfound⟩ := dry_run_agrees_with_preview (Memory.host_within {})
    (s := s) rfl schema "out" default before
  rw [hrejected] at hmade htold
  exact ⟨_, _, rfl, rfl, hmade, htold.symm, hskips, hfound⟩

end Scaffold

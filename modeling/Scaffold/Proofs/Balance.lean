import Mathlib.Tactic
import Scaffold.Proofs.DryRun

/-!
How a run that creates counts what it reports and records.

* `Creation.Column`: what is counted, and also told one by one in the log, the results of
  commands or the record: errors, skipped files, commands, folders and files;
* `Creation.Adds`: whatever is replied, a program tells some more of each and counts some
  more of each. Counting and telling are apart, so `Creation.Balances` is said of programs
  that do both;
* `visitor_balances`: each visit balances, and then a walk does;
* `books_balance`: hence a run counts what it tells, whatever the replies are.
-/

namespace Scaffold

open Scaffold.Path Variable

/-- Whether a message says that a file was kept. -/
def LogEntry.IsSkip (entry : LogEntry) : Prop :=
  "Skipped (exists): ".toList <+: entry.message.toList

instance (entry : LogEntry) : Decidable entry.IsSkip :=
  inferInstanceAs (Decidable (_ <+: _))

namespace Creation

/-- What is counted and also told one by one. -/
inductive Column where
  | errors
  | skipped
  | commands
  | folders
  | files
  deriving DecidableEq

/-- How much is counted. What a dry run counts as created is not recorded, so it is left
out. -/
def counted (isDry : Bool) (c : Creation) : Column → ℕ
  | .errors => c.summary.errors + c.summary.hooksFailed
  | .skipped => c.summary.skipped
  | .commands => c.summary.hooksExecuted + c.summary.hooksFailed
  | .folders => if isDry then 0 else c.summary.foldersCreated
  | .files => if isDry then 0 else
      c.summary.filesCreated + c.summary.filesDownloaded + c.summary.filesGenerated

/-- How much is told. -/
def told (isDry : Bool) (c : Creation) : Column → ℕ
  | .errors => c.logs.toList.countP (·.kind = .error)
  | .skipped => c.logs.toList.countP (·.IsSkip)
  | .commands => c.hookResults.size
  | .folders => if isDry then 0 else c.items.toList.countP (·.kind = .folder)
  | .files => if isDry then 0 else c.items.toList.countP (·.kind = .file)

/-- Whatever is replied, a program tells some more and counts some more. -/
abbrev Adds {α : Type} (isDry : Bool) (x : CreateM α) (more counts : Column → ℕ) : Prop :=
  Raises anyReply (fun c => (told isDry c, counted isDry c)) () x (more, counts) fun _ => True

/-- As much was told in between as was counted. -/
def InBalance (isDry : Bool) (c c' : Creation) : Prop :=
  ∃ more, told isDry c' = told isDry c + more ∧ counted isDry c' = counted isDry c + more

instance (isDry : Bool) : Std.Refl (InBalance isDry) :=
  ⟨fun _ => ⟨0, (add_zero _).symm, (add_zero _).symm⟩⟩

instance (isDry : Bool) : IsTrans Creation (InBalance isDry) where
  trans := by
    rintro c c' c'' ⟨a, htold, hcounted⟩ ⟨b, htold', hcounted'⟩
    exact ⟨a + b, by rw [htold', htold, add_assoc], by rw [hcounted', hcounted, add_assoc]⟩

/-- Whatever is replied, a program counts as much as it tells. -/
abbrev Balances {α : Type} (isDry : Bool) (x : CreateM α) : Prop :=
  Keeps anyReply (InBalance isDry) x fun _ => True

section

variable {α β : Type} {isDry : Bool}

/-! ### Telling and counting -/

lemma Adds.bind {x : CreateM α} {f : α → CreateM β} {more more' counts counts' : Column → ℕ}
    (hx : Adds isDry x more counts) (hf : ∀ r, Adds isDry (f r) more' counts') :
    Adds isDry (x >>= f) (more + more') (counts + counts') :=
  Raises.bind hx fun r _ => hf r

lemma Adds.balances {x : CreateM α} {more counts : Column → ℕ} (hx : Adds isDry x more counts)
    (h : more = counts) : Balances isDry x := by
  intro c _
  refine (hx c).mono ?_
  rintro _ c' _ ⟨-, hadds, -⟩
  obtain ⟨htold, hcounted⟩ := Prod.mk.inj hadds
  exact ⟨trivial, ⟨more, htold, h ▸ hcounted⟩, rfl⟩

/-- What a message tells. -/
def tells (entry : LogEntry) : Column → ℕ
  | .errors => if entry.kind = .error then 1 else 0
  | .skipped => if entry.IsSkip then 1 else 0
  | .commands | .folders | .files => 0

lemma tells_eq_zero {entry : LogEntry} (hkind : entry.kind ≠ .error) (hskip : ¬ entry.IsSkip) :
    tells entry = 0 := by
  funext column
  cases column <;> simp [tells, hkind, hskip]

lemma tells_error {entry : LogEntry} (hkind : entry.kind = .error) (hskip : ¬ entry.IsSkip) :
    tells entry = Pi.single .errors 1 := by
  funext column
  cases column <;> simp [tells, hkind, hskip]

lemma tells_skip {entry : LogEntry} (hkind : entry.kind ≠ .error) (hskip : entry.IsSkip) :
    tells entry = Pi.single .skipped 1 := by
  funext column
  cases column <;> simp [tells, hkind, hskip]

lemma adds_log (kind : LogKind) (message : String) (details : Option String) :
    Adds isDry (log kind message details) (tells ⟨kind, message, details⟩) 0 := by
  refine raises_modify fun c => Prod.ext ?_ (add_zero _).symm
  funext column
  cases column <;> simp [told, tells, List.countP_append, List.countP_singleton]

lemma adds_count {change : CreationSummary → CreationSummary} {counts : Column → ℕ}
    (h : ∀ c : Creation, counted isDry { c with summary := change c.summary } =
      counted isDry c + counts) : Adds isDry (count change) 0 counts :=
  raises_modify fun c => Prod.ext (add_zero _).symm (h c)

/-- The column of a kind of item. -/
def Column.ofItem : ItemKind → Column
  | .folder => .folders
  | .file => .files

lemma adds_record (place : Cursor) (kind : ItemKind) (preExisted : Bool) :
    Adds false (record place kind preExisted) (Pi.single (.ofItem kind) 1) 0 := by
  refine raises_modify fun c => Prod.ext ?_ (add_zero _).symm
  funext column
  cases kind <;> cases column <;>
    simp [told, Column.ofItem, List.countP_append]

lemma adds_note {change : CreationSummary → CreationSummary} {kind : LogKind}
    {message : String} {details : Option String} {more counts : Column → ℕ}
    (hmore : tells ⟨kind, message, details⟩ = more)
    (hcounts : ∀ c : Creation, counted isDry { c with summary := change c.summary } =
      counted isDry c + counts) :
    Adds isDry (do count change; log kind message details) more counts := by
  have hlog : Adds isDry _ _ 0 := adds_log kind message details
  have hnote := (adds_count hcounts).bind fun _ => hlog
  rwa [hmore, zero_add, add_zero] at hnote

lemma counted_error (c : Creation) :
    counted isDry { c with summary := { c.summary with errors := c.summary.errors + 1 } } =
      counted isDry c + Pi.single .errors 1 := by
  funext column
  cases column <;> simp [counted]
  omega

/-- One more folder is counted, unless the run is dry. -/
lemma counted_folder (c : Creation) :
    counted isDry { c with summary := { c.summary with
      foldersCreated := c.summary.foldersCreated + 1 } } =
      counted isDry c + if isDry then 0 else Pi.single .folders 1 := by
  funext column
  cases isDry <;> cases column <;> simp [counted]

/-- One more file is counted, however it came, unless the run is dry. -/
lemma counted_file (c : Creation) {created downloaded generated : Nat}
    (h : created + downloaded + generated = c.summary.filesCreated + c.summary.filesDownloaded +
      c.summary.filesGenerated + 1) :
    counted isDry { c with summary := { c.summary with
      filesCreated := created, filesDownloaded := downloaded, filesGenerated := generated } } =
      counted isDry c + if isDry then 0 else Pi.single .files 1 := by
  funext column
  cases isDry <;> cases column <;> simp [counted, h]

/-! ### Programs in balance -/

lemma balances_pure (r : α) : Balances isDry (pure r : CreateM α) :=
  keeps_pure trivial

lemma balances_ask (call : Call) : Balances isDry (ask call) := fun c _ =>
  ensures_call.mpr fun _ _ _ => ⟨trivial, Std.Refl.refl c, rfl⟩

/-- A message that tells nothing of what is counted. -/
lemma balances_log {kind : LogKind} {message : String} {details : Option String}
    (hkind : kind ≠ .error) (hskip : ¬ LogEntry.IsSkip ⟨kind, message, details⟩) :
    Balances isDry (log kind message details) :=
  (adds_log _ _ _).balances (tells_eq_zero hkind hskip)

/-- An error is counted and reported. -/
lemma balances_fail {message details : String}
    (hskip : ¬ LogEntry.IsSkip ⟨.error, message, details⟩) :
    Balances isDry (fail message details) :=
  (adds_note (tells_error rfl hskip) counted_error).balances rfl

/-- A visit that goes wrong is in balance. -/
lemma balances_giveUp {γ : Type} {message details : String}
    (hskip : ¬ LogEntry.IsSkip ⟨.error, message, details⟩) :
    Balances isDry (do fail message details; pure (none : Option γ)) :=
  (balances_fail hskip).bind fun _ _ => balances_pure _

lemma balances_report {entry : LogEntry} (hskip : ¬ entry.IsSkip) :
    Balances isDry (report entry) := by
  unfold report
  split_ifs with hkind
  · exact (adds_note (tells_error hkind hskip) counted_error).balances rfl
  · exact balances_log hkind hskip

lemma balances_reportFault (name : String) (fault : Option TemplateError) :
    Balances isDry (reportFault name fault) := by
  cases fault with
  | none => exact balances_pure _
  | some e => exact balances_log (by simp) (by simp [LogEntry.IsSkip, toString])

lemma balances_look (place : Cursor) : Balances isDry (look place) := by
  unfold look
  split_ifs
  · exact balances_pure _
  · exact balances_ask _

lemma balances_prepareDownload (name : String) (env : Environment) (bytes : ByteArray) :
    Balances isDry (prepareDownload name env bytes) := by
  unfold prepareDownload
  split
  · exact balances_pure _
  · split
    · exact balances_pure _
    · exact (balances_log (by simp) (by simp [LogEntry.IsSkip, toString])).bind
        fun _ _ => balances_pure _

lemma balances_fetch (s : CreateSettings) (url : String) : Balances isDry (fetch s url) := by
  unfold fetch
  split_ifs
  · exact balances_pure _
  · refine (balances_ask _).bind fun reply _ => ?_
    split
    · exact balances_pure _
    · split_ifs <;> exact balances_pure _

lemma balances_generateBytes (s : CreateSettings) (request : Request) :
    Balances isDry (generateBytes s request) := by
  unfold generateBytes
  split_ifs
  · exact balances_pure _
  · exact balances_ask _

/-- What is written is recorded, and counted afterwards. -/
lemma balances_write {place : Cursor} {bytes : ByteArray} {preExisted : Bool}
    {f : Except Failure Unit → CreateM β} (herror : ∀ e, Balances false (f (.error e)))
    (hok : Adds false (f (.ok ())) 0 (Pi.single .files 1)) :
    Balances false (write place bytes preExisted >>= f) := by
  have hsaved : Balances false (do record place .file preExisted; f (.ok ())) :=
    ((adds_record _ _ _).bind fun _ => hok).balances (by simp [Column.ofItem])
  intro c _
  rw [ensures_bind, write, ensures_bind, ask, ensures_call]
  intro reply _ _
  rcases reply with e | ⟨⟩
  · exact ensures_pure.mpr (herror e c ())
  · have hdone := hsaved c ()
    rw [ensures_bind] at hdone ⊢
    exact hdone.mono fun _ _ _ h => ensures_pure.mpr h

/-! ### Visits -/

variable {s : CreateSettings}

/-- What is saved is counted; in a dry run, what would be saved is. -/
lemma adds_saved {change : CreationSummary → CreationSummary} {kind : LogKind} {message : String}
    {details : Option String} {counts : Column → ℕ} (hkind : kind ≠ .error)
    (hskip : ¬ LogEntry.IsSkip ⟨kind, message, details⟩)
    (hcounts : ∀ c : Creation, counted isDry { c with summary := change c.summary } =
      counted isDry c + counts) :
    Adds isDry (do count change; log kind message details) 0 counts :=
  adds_note (tells_eq_zero hkind hskip) hcounts

/-- Each source of a file is saved and counted, fails, or is planned. -/
lemma balances_writeFile (name : String) (f : FileNode) (place : Cursor) (env : Environment)
    (preExisted : Bool) :
    Balances s.options.dryRun (writeFile s name f place env preExisted) := by
  unfold writeFile
  cases hdry : s.options.dryRun with
  | true =>
      split
      · unfold download
        split
        · exact balances_fail (by simp [LogEntry.IsSkip, toString])
        · simp only [hdry, ↓reduceIte]
          exact (adds_saved (by simp) (by simp [LogEntry.IsSkip, toString])
            fun c => counted_file c (by omega)).balances rfl
      · simp only [generate, hdry, ↓reduceIte]
        exact (adds_saved (by simp) (by simp [LogEntry.IsSkip, toString])
          fun c => counted_file c (by omega)).balances rfl
      · simp only [writeInline, writeText, hdry, ↓reduceIte]
        refine (balances_reportFault _ _).bind fun _ _ => ?_
        exact (adds_saved (by simp) (by simp [LogEntry.IsSkip, toString])
          fun c => counted_file c (by omega)).balances rfl
  | false =>
      split
      · unfold download
        split
        · exact balances_fail (by simp [LogEntry.IsSkip, toString])
        simp only [hdry, Bool.false_eq_true, ↓reduceIte]
        refine (balances_fetch _ _).bind fun fetched _ => ?_
        split
        · exact balances_fail (by simp [LogEntry.IsSkip, toString])
        refine (balances_prepareDownload _ _ _).bind fun prepared _ => ?_
        refine balances_write (fun e => balances_fail (by simp [LogEntry.IsSkip, toString])) ?_
        refine adds_saved (by simp) ?_ fun c => counted_file c (by omega)
        cases prepared.2 <;> simp [LogEntry.IsSkip, toString]
      · simp only [generate, hdry, Bool.false_eq_true, ↓reduceIte]
        refine (balances_generateBytes _ _).bind fun generated _ => ?_
        split
        · exact balances_fail (by simp [LogEntry.IsSkip, toString])
        refine balances_write (fun e => balances_fail (by simp [LogEntry.IsSkip, toString])) ?_
        exact adds_saved (by simp) (by simp [LogEntry.IsSkip, toString])
          fun c => counted_file c (by omega)
      · simp only [writeInline, writeText, hdry, Bool.false_eq_true, ↓reduceIte]
        refine (balances_reportFault _ _).bind fun _ _ => ?_
        refine balances_write (fun e => balances_fail (by simp [LogEntry.IsSkip, toString])) ?_
        exact adds_saved (by simp) (by simp [LogEntry.IsSkip, toString])
          fun c => counted_file c (by omega)

lemma balances_visitFile (name : String) (f : FileNode) (place : Cursor) (env : Environment) :
    Balances s.options.dryRun (visitFile s name f place env) := by
  have hwrite : ∀ preExisted, Balances s.options.dryRun
      (do writeFile s name f place env preExisted; pure (none : Option Unit)) :=
    fun _ => (balances_writeFile _ _ _ _ _).bind fun _ _ => balances_pure _
  have hskip : Balances s.options.dryRun (do
      count fun c => { c with skipped := c.skipped + 1 }
      log .warning s!"Skipped (exists): {name}" place.shown) := by
    refine (adds_note (tells_skip (by simp) (by simp [LogEntry.IsSkip, toString]))
      fun c => ?_).balances rfl
    funext column
    cases column <;> simp [counted]
  unfold visitFile
  refine (balances_look place).bind fun found _ => ?_
  split
  · exact balances_giveUp (by simp [LogEntry.IsSkip, toString])
  · exact hwrite false
  · split_ifs
    · exact balances_giveUp (by simp [LogEntry.IsSkip, toString])
    · exact hwrite true
    · simpa using hskip.bind fun _ _ => balances_pure (none : Option Unit)

/-- A folder that was opened is there, unless the run is dry. -/
def IsReal (isDry : Bool) (opened : Option (Unit × Bool)) : Prop :=
  isDry = false → ∀ o isPlanned, opened = some (o, isPlanned) → isPlanned = false

lemma isReal_none : IsReal isDry none := fun _ _ _ h => by simp at h

lemma isReal_there : IsReal isDry (some ((), false)) := fun _ _ _ h => by simp_all

lemma planFolder_balances (name : String) (place : Cursor) :
    Keeps anyReply (InBalance true) (planFolder name place) (IsReal true) := by
  have hplan : Balances true (do
      count fun c => { c with foldersCreated := c.foldersCreated + 1 }
      log .info s!"Would create folder: {name}" place.shown) :=
    (adds_saved (by simp) (by simp [LogEntry.IsSkip, toString]) counted_folder).balances rfl
  have hplanned : IsReal true (some ((), true)) := fun h => by simp at h
  simpa [planFolder] using hplan.bind fun _ _ => keeps_pure hplanned

lemma makeFolder_balances (name : String) (place : Cursor) :
    Keeps anyReply (InBalance false) (makeFolder name place) (IsReal false) := by
  have hmade : Balances false (do
      count fun c => { c with foldersCreated := c.foldersCreated + 1 }
      record place .folder false
      log .success s!"Created folder: {name}" place.shown) := by
    refine ((adds_count counted_folder).bind fun _ => (adds_record _ _ _).bind fun _ =>
      adds_log _ _ _).balances ?_
    rw [tells_eq_zero (by simp) (by simp [LogEntry.IsSkip, toString])]
    simp [Column.ofItem]
  unfold makeFolder
  refine (balances_ask _).bind fun reply _ => ?_
  split
  · exact (balances_fail (by simp [LogEntry.IsSkip, toString])).bind fun _ _ =>
      keeps_pure isReal_none
  · simpa using hmade.bind fun _ _ => keeps_pure isReal_there

/-- Folders are planned only where that is all that a run does. -/
lemma enterFolder_balances {place : Cursor}
    (hplace : s.options.dryRun = false → place.isPlanned = false) (name : String) :
    Keeps anyReply (InBalance s.options.dryRun) (enterFolder s name place)
      (IsReal s.options.dryRun) := by
  have hblocked : ∀ details, Keeps anyReply (InBalance s.options.dryRun)
      (do fail s!"Failed to create folder: {name}" details; pure none)
      (IsReal s.options.dryRun) := fun _ =>
    (balances_fail (by simp [LogEntry.IsSkip, toString])).bind fun _ _ => keeps_pure isReal_none
  have hmissing : Keeps anyReply (InBalance s.options.dryRun)
      (if s.options.dryRun then planFolder name place else makeFolder name place)
      (IsReal s.options.dryRun) := by
    cases s.options.dryRun with
    | true => exact planFolder_balances _ _
    | false => exact makeFolder_balances _ _
  unfold enterFolder
  by_cases hplanned : place.isPlanned
  · have hdry : s.options.dryRun = true := by
      by_contra hreal
      simp [hplace (by simpa using hreal)] at hplanned
    rw [if_pos hplanned, hdry]
    exact planFolder_balances _ _
  rw [if_neg hplanned]
  refine (balances_ask _).bind fun found _ => ?_
  split
  · exact hblocked _
  · exact hmissing
  · split
    · exact (balances_log (by simp) (by simp [LogEntry.IsSkip, toString])).bind fun _ _ =>
        keeps_pure isReal_there
    · exact hblocked _

lemma not_isSkip_entry (isDry : Bool) (notice : Notice) : ¬ (notice.entry isDry).IsSkip := by
  cases notice with
  | rounds times name => cases isDry <;> simp [Notice.entry, LogEntry.IsSkip, toString]
  | tooDeep | invalidName | orphaned | invalidVariable | noRounds | invalidCount
  | tooManyRounds => simp [Notice.entry, LogEntry.IsSkip, toString]

/-- **Each visit** balances. -/
theorem visitor_balances : (visitor s).Advances anyReply
    (fun x y => InBalance s.options.dryRun x.1 y.1)
    (fun place _ => s.options.dryRun = false → place.isPlanned = false) where
  refl x := Std.Refl.refl x.1
  trans := IsTrans.trans _ _ _
  stays h _ := h
  report notice t st :=
    (balances_report (not_isSkip_entry _ notice) t st).mono fun _ _ _ h => h.2.1
  enterFolder name place t st hplace := by
    have hhere : s.options.dryRun = false → (place.descend name).isPlanned = false := hplace
    refine (enterFolder_balances hhere name t st).mono ?_
    rintro opened t' _ ⟨hreal, hbalance, -⟩
    refine ⟨hbalance, fun o isPlanned ho hdry => ?_⟩
    simp [hplace hdry, hreal hdry o isPlanned ho]
  leaveFolder _ _ t _ := ensures_pure.mpr (Std.Refl.refl t)
  file name f _ env t st _ := (balances_visitFile name f _ env t st).mono fun _ _ _ h => h.2.1
  group _ _ _ t _ := ensures_pure.mpr (Std.Refl.refl t)
  invalidName _ _ t _ := ensures_pure.mpr (Std.Refl.refl t)

/-! ### Commands -/

/-- The result of a command is kept. -/
lemma adds_result (result : CommandResult) :
    Adds isDry (modify fun c : Creation => { c with hookResults := c.hookResults.push result })
      (Pi.single .commands 1) 0 := by
  refine raises_modify fun c => Prod.ext ?_ (add_zero _).symm
  funext column
  cases column <;> simp [told]

/-- A command that fails is also counted and reported as an error. -/
lemma balances_reportCommand (command : String) (result : CommandResult) :
    Balances isDry (reportCommand command result) := by
  have hexecuted : ∀ c : Creation, counted isDry { c with summary := { c.summary with
      hooksExecuted := c.summary.hooksExecuted + 1 } } =
      counted isDry c + Pi.single .commands 1 := by
    intro c
    funext column
    cases column <;> simp [counted]
    omega
  have hfailed : ∀ c : Creation, counted isDry { c with summary := { c.summary with
      hooksFailed := c.summary.hooksFailed + 1 } } =
      counted isDry c + (Pi.single .errors 1 + Pi.single .commands 1) := by
    intro c
    funext column
    cases column <;> simp [counted, add_assoc]
  unfold reportCommand
  dsimp only
  split
  · refine ((adds_count hexecuted).bind fun _ => (adds_log _ _ _).bind fun _ =>
      adds_result result).balances ?_
    rw [tells_eq_zero (by simp) (by simp [LogEntry.IsSkip, toString])]
    simp
  · refine ((adds_count hfailed).bind fun _ => (adds_log _ _ _).bind fun _ =>
      adds_result result).balances ?_
    rw [tells_error rfl (by simp [LogEntry.IsSkip, toString])]
    simp

lemma commands_balance : CommandsKeep anyReply (InBalance isDry) where
  entry _ := balances_ask _
  command _ _ := balances_ask _
  report := balances_reportCommand
  would _ _ := balances_log (by simp) (by simp [LogEntry.IsSkip, toString])
  skipped _ := balances_log (by simp) (by simp [LogEntry.IsSkip])

/-- A run that creates balances. -/
lemma create_balances (schema : Schema) (output : String) (scope : Scope) :
    (create s schema output scope).Ensures anyReply
      (fun c _ => InBalance s.options.dryRun {} c) () := by
  rw [create, walk_eq_perform, ensures_run, ensures_bind]
  refine (visitor_balances.perform _ fun _ => rfl).mono fun _ c _ hwalk => ?_
  split_ifs
  · have hcommands : Balances s.options.dryRun _ :=
      commands_balance.run s schema output (scope.environment s.today)
    refine (hcommands c ()).mono ?_
    rintro _ c' _ ⟨-, hhooks, -⟩
    exact IsTrans.trans _ _ _ hwalk hhooks
  · exact ensures_pure.mpr hwalk

end

end Creation

/-- **A run counts what it tells.** Whatever the surroundings reply, a run that creates
counts as many errors and failed commands as its log tells of errors, and as many skipped
files as its log tells of; it keeps one result for each command that it counts. Unless it
is dry, it records one folder and one file for each that it counts. -/
theorem books_balance {σ : Type} (host : Host (StateM σ)) (s : CreateSettings) (schema : Schema)
    (output : String) (scope : Scope) (st : σ) :
    let c := ((create s schema output scope).on host st).1
    c.logs.toList.countP (·.kind = .error) = c.summary.errors + c.summary.hooksFailed ∧
    c.logs.toList.countP (·.IsSkip) = c.summary.skipped ∧
    c.hookResults.size = c.summary.hooksExecuted + c.summary.hooksFailed ∧
    (s.options.dryRun = false →
      c.items.toList.countP (·.kind = .folder) = c.summary.foldersCreated ∧
      c.items.toList.countP (·.kind = .file) =
        c.summary.filesCreated + c.summary.filesDownloaded + c.summary.filesGenerated) := by
  intro c
  have hany : host.Within (fun _ => ()) Creation.anyReply := fun _ _ => trivial
  obtain ⟨more, htold, hcounted⟩ :=
    hany.on (s := st) (Creation.create_balances (s := s) schema output scope)
  have hequal : ∀ column, Creation.told s.options.dryRun c column =
      Creation.counted s.options.dryRun c column := by
    intro column
    rw [htold, hcounted]
    cases column <;> simp [Creation.told, Creation.counted]
  refine ⟨hequal .errors, hequal .skipped, hequal .commands, fun hdry => ?_⟩
  have hfolders := hequal .folders
  have hfiles := hequal .files
  simp only [Creation.told, Creation.counted, hdry, Bool.false_eq_true, ↓reduceIte]
    at hfolders hfiles
  exact ⟨hfolders, hfiles⟩

/-- A folder and two files, one of which cannot be written, and a command that cannot be
run: what is made is counted and recorded, and the rest is counted and told. -/
theorem books_balance_of_failures :
    let s : CreateSettings :=
      { limits := {}, today := ⟨2024, 1, 1, by decide⟩, equipment := { canRunCommands := true },
        options := { runHooks := true } }
    let schema : Schema :=
      { root := .folder "a" [.file { name := "b", content := some "text" },
          .file { name := "c", content := some "text" }] ∅
        hooks := some ["make"] }
    let outside : Outside := { command := fun text _ => { command := text, success := false } }
    let faults : Faults := fun
      | .write => [components "out/a/b"]
      | _ => []
    let memory := (Memory.empty.makeFolder "out").2
    ∃ c after, (create s schema "out" default).on ((Memory.host outside).failing faults) memory =
        (c, after) ∧
      c.logs.toList.countP (·.kind = .error) = c.summary.errors + c.summary.hooksFailed ∧
      c.items.toList.countP (·.kind = .folder) = c.summary.foldersCreated ∧
      c.items.toList.countP (·.kind = .file) =
        c.summary.filesCreated + c.summary.filesDownloaded + c.summary.filesGenerated := by
  intro s schema outside faults memory
  obtain ⟨herrors, -, -, hitems⟩ := books_balance ((Memory.host outside).failing faults) s schema
    "out" default memory
  rcases hrun : (create s schema "out" default).on ((Memory.host outside).failing faults) memory
    with ⟨c, after⟩
  rw [hrun] at herrors hitems
  exact ⟨c, after, rfl, herrors, hitems rfl⟩

end Scaffold

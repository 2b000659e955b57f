import Mathlib.Tactic
import Scaffold.Creation
import Scaffold.Preview
import Scaffold.Proofs.Cut

/-!
The greatest depth prunes, and does nothing else.

* `Creation.Pruned`: one result of creating is another without the messages about nodes below
  the greatest depth, and without their errors;
* `Creation.Forgets`: a program does the same where such messages were left out. No step of
  creating reads what was logged or counted before, so each of them does;
* `createCounting`: creating, with the number of the nodes at some depth that the walk comes
  to. It goes as creating (`createCounting_creates`), and as creating what is cut at the
  greatest depth (`createCounting_prunes`);
* `Preview.Ignores`: the same of previews and their warnings;
* `depth_limit_only_prunes`: a schema is created and previewed as it is when cut.
-/

namespace Scaffold

open Variable

/-! ### Creating -/

namespace Creation

/-- One result is another without its messages about nodes below the greatest depth and
without their errors. There are `n` of these messages. -/
structure Pruned (n : ℕ) (c c' : Creation) : Prop where
  logs : c'.logs.toList = c.logs.toList.filter fun entry => !decide entry.IsTooDeep
  number : c.logs.toList.countP (fun entry => entry.IsTooDeep) = n
  summary : c.summary = { c'.summary with errors := c'.summary.errors + n }
  hookResults : c'.hookResults = c.hookResults
  items : c'.items = c.items

/-- A program does the same where some messages about the greatest depth were left out. -/
abbrev Forgets {α : Type} (x : CreateM α) : Prop :=
  ∀ n, Parallel (Pruned n) x x

section

variable {α : Type}

lemma forgets_pure (a : α) : Forgets (pure a : CreateM α) := fun _ => parallel_pure a

lemma Forgets.bind {β : Type} {x : CreateM α} {f : α → CreateM β} (hx : Forgets x)
    (hf : ∀ a, Forgets (f a)) : Forgets (x >>= f) := fun n => (hx n).bind fun a => hf a n

lemma forgets_ask (call : Call) : Forgets (ask call) := fun _ => parallel_call call

/-- A message about something else. -/
lemma forgets_entry {entry : LogEntry} (h : ¬ entry.IsTooDeep) :
    Forgets (log entry.kind entry.message entry.details) := by
  refine fun n => parallel_modify fun c c' hc => ?_
  exact
    { logs := by simp [hc.logs, h]
      number := by simpa [h] using hc.number
      summary := hc.summary
      hookResults := hc.hookResults
      items := hc.items }

lemma forgets_log {kind : LogKind} {message : String} {details : Option String}
    (h : message.toList.head? ≠ some 'M') : Forgets (log kind message details) :=
  @forgets_entry ⟨kind, message, details⟩ (LogEntry.not_isTooDeep h)

/-- What is counted does not depend on the number of errors. -/
lemma forgets_count {change : CreationSummary → CreationSummary}
    (h : ∀ summary n, change { summary with errors := summary.errors + n } =
      { change summary with errors := (change summary).errors + n }) : Forgets (count change) := by
  refine fun n => parallel_modify fun c c' hc => ?_
  exact
    { logs := hc.logs
      number := hc.number
      summary := by simp only [hc.summary, h]
      hookResults := hc.hookResults
      items := hc.items }

lemma forgets_record (place : Cursor) (kind : ItemKind) (preExisted : Bool) :
    Forgets (record place kind preExisted) :=
  fun _ => parallel_modify fun _ _ hc => { hc with items := by simp [hc.items] }

/-- Counting and reporting. -/
lemma forgets_note {change : CreationSummary → CreationSummary}
    (h : ∀ summary n, change { summary with errors := summary.errors + n } =
      { change summary with errors := (change summary).errors + n }) {kind : LogKind}
    {message : String} {details : Option String} (hmessage : message.toList.head? ≠ some 'M') :
    Forgets (do count change; log kind message details) :=
  (forgets_count h).bind fun _ => forgets_log hmessage

lemma forgets_countError : Forgets (count fun s => { s with errors := s.errors + 1 }) :=
  forgets_count fun _ _ => by simp [Nat.add_right_comm]

lemma forgets_fail {message details : String} (h : message.toList.head? ≠ some 'M') :
    Forgets (fail message details) :=
  forgets_countError.bind fun _ => forgets_log h

/-- A visit that goes wrong. -/
lemma forgets_giveUp {message details : String} (h : message.toList.head? ≠ some 'M') (a : α) :
    Forgets (do fail message details; pure a) :=
  (forgets_fail h).bind fun _ => forgets_pure a

lemma forgets_write (place : Cursor) (bytes : ByteArray) (preExisted : Bool) :
    Forgets (write place bytes preExisted) := by
  refine (forgets_ask _).bind fun reply => ?_
  match reply with
  | .error e => exact forgets_pure _
  | .ok () => exact (forgets_record _ _ _).bind fun _ => forgets_pure _

lemma forgets_prepareDownload (name : String) (env : Environment) (bytes : ByteArray) :
    Forgets (prepareDownload name env bytes) := by
  unfold prepareDownload
  split
  · exact forgets_pure _
  · split
    · exact forgets_pure _
    · exact (forgets_log (by simp [toString])).bind fun _ => forgets_pure _

lemma forgets_fetch (s : CreateSettings) (url : String) : Forgets (fetch s url) := by
  unfold fetch
  split_ifs
  · exact forgets_pure _
  · refine (forgets_ask _).bind fun reply => ?_
    split
    · exact forgets_pure _
    · split_ifs <;> exact forgets_pure _

lemma forgets_generateBytes (s : CreateSettings) (request : Request) :
    Forgets (generateBytes s request) := by
  unfold generateBytes
  split_ifs
  · exact forgets_pure _
  · exact forgets_ask _

lemma forgets_reportFault (name : String) (fault : Option TemplateError) :
    Forgets (reportFault name fault) := by
  cases fault with
  | none => exact forgets_pure _
  | some e => exact forgets_log (by simp [toString])

lemma forgets_look (place : Cursor) : Forgets (look place) := by
  unfold look
  split_ifs
  · exact forgets_pure _
  · exact forgets_ask _

/-! #### Files and folders -/

lemma forgets_download (s : CreateSettings) (name raw : String) (place : Cursor)
    (env : Environment) (preExisted : Bool) :
    Forgets (download s name raw place env preExisted) := by
  unfold download
  split
  · exact forgets_fail (by simp [toString])
  dsimp only
  split_ifs
  · exact forgets_note (fun _ _ => rfl) (by simp [toString])
  refine (forgets_fetch _ _).bind fun fetched => ?_
  split
  · exact forgets_fail (by simp [toString])
  refine (forgets_prepareDownload _ _ _).bind fun prepared => ?_
  refine (forgets_write _ _ _).bind fun written => ?_
  split
  · exact forgets_fail (by simp [toString])
  · refine forgets_note (fun _ _ => rfl) ?_
    cases prepared.2 <;> simp [toString]

lemma forgets_generate (s : CreateSettings) (name : String) (kind : GeneratorKind) (f : FileNode)
    (place : Cursor) (env : Environment) (preExisted : Bool) :
    Forgets (generate s name kind f place env preExisted) := by
  unfold generate
  split_ifs
  · exact forgets_note (fun _ _ => rfl) (by simp [toString])
  refine (forgets_generateBytes _ _).bind fun generated => ?_
  split
  · exact forgets_fail (by simp [toString])
  refine (forgets_write _ _ _).bind fun written => ?_
  split
  · exact forgets_fail (by simp [toString])
  · exact forgets_note (fun _ _ => rfl) (by simp [toString])

lemma forgets_writeInline (s : CreateSettings) (name : String) (f : FileNode) (place : Cursor)
    (env : Environment) (preExisted : Bool) :
    Forgets (writeInline s name f place env preExisted) := by
  unfold writeInline
  refine (forgets_reportFault _ _).bind fun _ => ?_
  unfold writeText
  split_ifs
  · exact forgets_note (fun _ _ => rfl) (by simp [toString])
  refine (forgets_write _ _ _).bind fun written => ?_
  split
  · exact forgets_fail (by simp [toString])
  · exact forgets_note (fun _ _ => rfl) (by simp [toString])

lemma forgets_writeFile (s : CreateSettings) (name : String) (f : FileNode) (place : Cursor)
    (env : Environment) (preExisted : Bool) :
    Forgets (writeFile s name f place env preExisted) := by
  unfold writeFile
  split
  · exact forgets_download _ _ _ _ _ _
  · exact forgets_generate _ _ _ _ _ _ _
  · exact forgets_writeInline _ _ _ _ _ _

lemma forgets_visitFile (s : CreateSettings) (name : String) (f : FileNode) (place : Cursor)
    (env : Environment) : Forgets (visitFile s name f place env) := by
  unfold visitFile
  refine (forgets_look _).bind fun found => ?_
  split
  · exact forgets_giveUp (by simp [toString]) _
  · exact (forgets_writeFile _ _ _ _ _ _).bind fun _ => forgets_pure _
  · split_ifs
    · exact forgets_giveUp (by simp [toString]) _
    · exact (forgets_writeFile _ _ _ _ _ _).bind fun _ => forgets_pure _
    · exact (forgets_count fun _ _ => rfl).bind fun _ =>
        (forgets_log (by simp [toString])).bind fun _ => forgets_pure _

lemma forgets_planFolder (name : String) (place : Cursor) : Forgets (planFolder name place) :=
  (forgets_count fun _ _ => rfl).bind fun _ =>
    (forgets_log (by simp [toString])).bind fun _ => forgets_pure _

lemma forgets_makeFolder (name : String) (place : Cursor) : Forgets (makeFolder name place) := by
  refine (forgets_ask _).bind fun reply => ?_
  match reply with
  | .error e => exact forgets_giveUp (by simp [toString]) _
  | .ok () =>
      exact (forgets_count fun _ _ => rfl).bind fun _ => (forgets_record _ _ _).bind fun _ =>
        (forgets_log (by simp [toString])).bind fun _ => forgets_pure _

lemma forgets_enterFolder (s : CreateSettings) (name : String) (place : Cursor) :
    Forgets (enterFolder s name place) := by
  unfold enterFolder
  split
  · exact forgets_planFolder _ _
  refine (forgets_ask _).bind fun reply => ?_
  split
  · exact forgets_giveUp (by simp [toString]) _
  · split_ifs
    · exact forgets_planFolder _ _
    · exact forgets_makeFolder _ _
  · split_ifs
    · exact (forgets_log (by simp [toString])).bind fun _ => forgets_pure _
    · exact forgets_giveUp (by simp [toString]) _

/-! #### Commands -/

lemma forgets_hookFolder (root : Node) (output : String) (env : Environment) :
    Forgets (hookFolder root output env) := by
  unfold hookFolder
  split
  · dsimp only
    split
    · exact forgets_pure _
    · refine (forgets_ask _).bind fun found => ?_
      split <;> exact forgets_pure _
  · exact forgets_pure _

lemma forgets_reportCommand (command : String) (result : CommandResult) :
    Forgets (reportCommand command result) := by
  have hresult : Forgets (modify fun c => { c with hookResults := c.hookResults.push result }) :=
    fun _ => parallel_modify fun _ _ hc => { hc with hookResults := by simp [hc.hookResults] }
  unfold reportCommand
  split_ifs
  · exact (forgets_count fun _ _ => rfl).bind fun _ =>
      (forgets_log (by simp [toString])).bind fun _ => hresult
  · exact (forgets_count fun _ _ => rfl).bind fun _ =>
      (forgets_log (by simp [toString])).bind fun _ => hresult

lemma forgets_runCommands (env : Environment) (folder : String) (commands : List String) :
    Forgets (runCommands env folder commands) := by
  induction commands with
  | nil => exact forgets_pure _
  | cons command rest ih =>
      refine (forgets_ask _).bind fun result => ?_
      exact (forgets_reportCommand _ _).bind fun _ => ih

lemma forgets_runHooks (s : CreateSettings) (commands : List String) (folder : String)
    (env : Environment) : Forgets (runHooks s commands folder env) := by
  unfold runHooks
  split_ifs
  · exact forgets_pure _
  · exact fun n => parallel_forM fun command => forgets_log (by simp [toString]) n
  · exact forgets_log (by simp)
  · exact forgets_runCommands _ _ _

end

/-! #### Runs -/

lemma forgets_report {entry : LogEntry} (h : ¬ entry.IsTooDeep) : Forgets (report entry) := by
  unfold report
  split_ifs
  · exact forgets_countError.bind fun _ => forgets_entry h
  · exact forgets_entry h

/-- One more node is counted. -/
def tick : StateT (Creation × ℕ) Run Unit :=
  modify fun t => (t.1, t.2 + 1)

/-- The visitor that creates, and counts the nodes below the greatest depth. -/
def countingVisitor (s : CreateSettings) : Visitor (StateT (Creation × ℕ) Run) Unit Unit :=
  (visitor s).framed.ticking tick

lemma countingVisitor_report_tooDeep (s : CreateSettings) (limit : ℕ) (shown : String)
    (t : Creation × ℕ) :
    let entry := (Notice.tooDeep limit shown).entry s.options.dryRun
    ((countingVisitor s).report entry).run t =
      .done ((), ({ t.1 with
        summary := { t.1.summary with errors := t.1.summary.errors + 1 }
        logs := t.1.logs.push entry }, t.2 + 1)) := by
  intro entry
  have hdeep : entry.IsTooDeep := rfl
  simp only [countingVisitor, Visitor.ticking, hdeep, ↓reduceIte]
  rfl

lemma countingVisitor_report (s : CreateSettings) {notice : Notice}
    (h : notice.isTooDeep = false) :
    (countingVisitor s).report (notice.entry s.options.dryRun) =
      framed (report (notice.entry s.options.dryRun)) :=
  Walk.ticking_report (visitor s).framed tick notice h

/-- Creating and counting goes as creating what is cut, without some reports. -/
lemma countingVisitor_prunes (s : CreateSettings) :
    (countingVisitor s).Mirrors (visitor s) (fun t c' => Pruned t.2 t.1 c') Notice.isTooDeep where
  report notice hnotice := by
    have hentry : ¬ (notice.entry s.options.dryRun).IsTooDeep := by
      simp [Notice.entry_isTooDeep, hnotice]
    exact countingVisitor_report s hnotice ▸ Parallel.framed (forgets_report hentry)
  mute notice hnotice := by
    cases notice with
    | tooDeep limit shown =>
        intro t c' hc
        have hrun := countingVisitor_report_tooDeep s limit shown t
        have hdeep : ((Notice.tooDeep limit shown).entry s.options.dryRun).IsTooDeep := rfl
        refine hrun ▸ .done ⟨rfl, ?_⟩
        exact
          { logs := by simp [hc.logs, hdeep]
            number := by simpa [hdeep] using hc.number
            summary := by simp [hc.summary, Nat.add_assoc]
            hookResults := hc.hookResults
            items := hc.items }
    | _ => simp [Notice.isTooDeep] at hnotice
  enterFolder name place := .framed (forgets_enterFolder s name place)
  leaveFolder _ _ := .framed (forgets_pure _)
  file name f place env := .framed (forgets_visitFile s name f place env)
  group _ _ _ := .framed (forgets_pure _)
  invalidName _ _ := .framed (forgets_pure _)

/-- Creating and counting goes as creating alone. -/
lemma countingVisitor_creates (s : CreateSettings) :
    (countingVisitor s).Mirrors (visitor s) (fun t c => c = t.1) fun _ => false where
  report notice _ := by
    cases hnotice : notice.isTooDeep with
    | false => exact countingVisitor_report s hnotice ▸ .framed fun _ => parallel_refl _
    | true =>
        cases notice with
        | tooDeep limit shown =>
            rintro t c rfl
            exact countingVisitor_report_tooDeep s limit shown t ▸ .done ⟨rfl, rfl⟩
        | _ => simp [Notice.isTooDeep] at hnotice
  mute _ hnotice := by simp at hnotice
  enterFolder _ _ := .framed fun _ => parallel_refl _
  leaveFolder _ _ := .framed fun _ => parallel_refl _
  file _ _ _ _ := .framed fun _ => parallel_refl _
  group _ _ _ := .framed fun _ => parallel_refl _
  invalidName _ _ := .framed fun _ => parallel_refl _

/-- What follows the walk: the commands, if asked for. -/
def conclude (s : CreateSettings) (schema : Schema) (output : String) (scope : Scope) :
    CreateM Unit := do
  if s.options.runHooks then
    let env := scope.environment s.today
    let folder ← hookFolder schema.root output env
    runHooks s schema.commands folder env

lemma forgets_conclude (s : CreateSettings) (schema : Schema) (output : String) (scope : Scope) :
    Forgets (conclude s schema output scope) := by
  unfold conclude
  split_ifs
  · exact (forgets_hookFolder _ _ _).bind fun folder => forgets_runHooks _ _ _ _
  · exact forgets_pure _

end Creation

/-- Creating a schema, with the number of the nodes at some depth that the walk comes to. A
node is counted as often as the walk comes to it. -/
def createCounting (s : CreateSettings) (level : ℕ) (schema : Schema) (output : String)
    (scope : Scope) : Run (Creation × ℕ) := do
  let program : StateT (Creation × ℕ) Run Unit := do
    let _ ← Walk.watchList s.toWalkSettings (Creation.visitor s).framed level Creation.tick
      [schema.root] { path := output } scope 0 none
    framed (Creation.conclude s schema output scope)
  return (← program.run ({}, 0)).2

/-- A schema without what lies below some depth. -/
def Schema.cut (depth : ℕ) (schema : Schema) : Schema :=
  { schema with root := schema.root.cut depth }

namespace Creation

variable {s : CreateSettings} {schema schema' : Schema} {output : String} {scope : Scope}

/-- Creating and counting goes as another run whose plan is the same but for some reports. -/
lemma createCounting_alike {R : Creation × ℕ → Creation → Prop} {muted : Notice → Bool}
    (hstart : R ({}, 0) {}) (hvisits : (countingVisitor s).Mirrors (visitor s) R muted)
    (hplan : Plan.ofRoot s.toWalkSettings schema'.root scope =
      (Plan.ofRoot s.toWalkSettings schema.root scope).mute muted)
    (hend : Parallel R (framed (conclude s schema output scope))
      (conclude s schema' output scope)) :
    Run.Alike R (createCounting s (s.limits.maxDepth + 1) schema output scope)
      (create s schema' output scope) := by
  have hwatch : Walk.watchList s.toWalkSettings (visitor s).framed (s.limits.maxDepth + 1) tick
      [schema.root] { path := output } scope 0 none =
      (Plan.ofRoot s.toWalkSettings schema.root scope).perform (countingVisitor s)
        { path := output } :=
    (Walk.watchList_eq _ _ _ (Nat.zero_le _) none).trans (Plan.walkList_eq_perform _ _ _ _ _)
  have hprogram : Parallel R
      (do let _ ← (Plan.ofRoot s.toWalkSettings schema.root scope).perform (countingVisitor s)
            { path := output }
          framed (conclude s schema output scope))
      (do let _ ← walk s.toWalkSettings (visitor s) schema'.root output scope
          conclude s schema' output scope) := by
    rw [walk_eq_perform, hplan]
    exact (hvisits.perform _ _).bind fun _ => hend
  rw [createCounting, hwatch]
  exact (hprogram _ _ hstart).bind fun p p' hp => .done hp.2

/-- The same commands run in the same folder. -/
lemma conclude_cut (s : CreateSettings) (depth : ℕ) (schema : Schema) (output : String)
    (scope : Scope) :
    conclude s (schema.cut depth) output scope = conclude s schema output scope := by
  have hfolder : ∀ env, hookFolder (schema.root.cut depth) output env =
      hookFolder schema.root output env := by
    intro env
    cases depth <;> cases schema.root <;> rfl
  simp only [conclude, Schema.cut, Schema.commands, hfolder]

/-- Creating and counting goes as creating what is cut. -/
lemma createCounting_prunes (s : CreateSettings) (schema : Schema) (output : String)
    (scope : Scope) :
    Run.Alike (fun p c' => Pruned p.2 p.1 c')
      (createCounting s (s.limits.maxDepth + 1) schema output scope)
      (create s (schema.cut s.limits.maxDepth) output scope) := by
  refine createCounting_alike ⟨rfl, rfl, rfl, rfl, rfl⟩ (countingVisitor_prunes s)
    (Plan.ofRoot_cut _ _ _) ?_
  rw [conclude_cut]
  exact .framed (forgets_conclude s schema output scope)

/-- Creating and counting goes as creating. -/
lemma createCounting_creates (s : CreateSettings) (schema : Schema) (output : String)
    (scope : Scope) :
    Run.Alike (fun p c => c = p.1) (createCounting s (s.limits.maxDepth + 1) schema output scope)
      (create s schema output scope) :=
  createCounting_alike rfl (countingVisitor_creates s) (Plan.mute_never _).symm
    (.framed fun _ => parallel_refl _)

end Creation

/-! ### Previewing -/

namespace Preview

/-- The counts of two previews are the same, but for their warnings. -/
def CountsAlike (t t' : PreviewSummary) : Prop :=
  ∃ warnings, t' = { t with warnings }

/-- A program does the same if there were other warnings. -/
abbrev Ignores {α : Type} (x : PreviewM α) : Prop :=
  Parallel CountsAlike x x

lemma ignores_pure {α : Type} (a : α) : Ignores (pure a : PreviewM α) := parallel_pure a

lemma ignores_warn (message : String) : Ignores (warn message) := by
  refine parallel_modify ?_
  rintro t _ ⟨warnings, rfl⟩
  exact ⟨_, rfl⟩

/-- A warning makes no other difference. -/
lemma parallel_warn_pure (message : String) : Parallel CountsAlike (warn message) (pure ()) := by
  refine parallel_modify_pure ?_
  rintro t _ ⟨warnings, rfl⟩
  exact ⟨warnings, rfl⟩

lemma ignores_report (entry : LogEntry) : Ignores (report entry) := by
  unfold report
  split
  · exact ignores_warn _
  · exact ignores_warn _
  · exact ignores_pure _
  · exact ignores_pure _

lemma ignores_count (action : PreviewAction) : Ignores (count action) := by
  refine parallel_modify ?_
  rintro t _ ⟨warnings, rfl⟩
  cases action <;> exact ⟨warnings, rfl⟩

lemma ignores_look (place : Cursor) : Ignores (look place) := by
  unfold look
  split_ifs
  · exact ignores_pure _
  · refine (parallel_call _).bind fun reply => ?_
    match reply with
    | .ok entry => exact ignores_pure _
    | .error e => exact (ignores_warn _).bind fun _ => ignores_pure _

lemma ignores_enterFolder (name : String) (place : Cursor) : Ignores (enterFolder name place) := by
  unfold enterFolder
  refine (ignores_look _).bind fun found => ?_
  split
  · exact ignores_pure _
  · split_ifs
    · exact ignores_pure _
    · exact (ignores_warn _).bind fun _ => ignores_pure _

lemma ignores_describe (s : Settings) (f : FileNode) (place : Cursor) (env : Environment)
    (node : PreviewNode) : Ignores (describe s f place env node) := by
  unfold describe
  split
  · dsimp only
    split
    · exact (ignores_warn _).bind fun _ => ignores_pure _
    · exact ignores_pure _
  · exact ignores_pure _
  · dsimp only
    split
    · exact (ignores_warn _).bind fun _ => ignores_pure _
    · exact ignores_pure _

lemma ignores_compare (s : Settings) (size : ℕ) (place : Cursor) (text : Option String)
    (node : PreviewNode) : Ignores (compare s size place text node) := by
  unfold compare
  split_ifs
  · exact ignores_pure _
  · refine (parallel_call _).bind fun reply => ?_
    split
    · exact (ignores_warn _).bind fun _ => ignores_pure _
    · split_ifs <;> exact ignores_pure _

lemma ignores_visitFile (s : Settings) (name : String) (f : FileNode) (place : Cursor)
    (env : Environment) : Ignores (visitFile s name f place env) := by
  unfold visitFile
  refine (ignores_look _).bind fun existing => ?_
  split_ifs
  · exact (ignores_warn _).bind fun _ => ignores_pure _
  refine Parallel.bind ?_ fun node => ignores_pure _
  refine (ignores_count _).bind fun _ => (ignores_describe _ _ _ _ _).bind fun filled => ?_
  dsimp only
  split
  · exact ignores_compare _ _ _ _ _
  · exact ignores_pure _

/-- Previewing goes as previewing what is cut, without some warnings. -/
lemma visitor_prunes (s : Settings) :
    (visitor s).Mirrors (visitor s) CountsAlike Notice.isTooDeep where
  report _ _ := ignores_report _
  mute notice hnotice := by
    cases notice with
    | tooDeep limit shown => exact parallel_warn_pure _
    | _ => simp [Notice.isTooDeep] at hnotice
  enterFolder name place := ignores_enterFolder name place
  leaveFolder _ _ := (ignores_count _).bind fun _ => ignores_pure _
  file name f place env := ignores_visitFile s name f place env
  group _ _ items := by
    dsimp only [visitor, group]
    split_ifs <;> exact ignores_pure _
  invalidName _ _ := ignores_pure _

end Preview

/-- A preview of what is cut has the same tree and the same counts. -/
lemma preview_prunes (s : Preview.Settings) (schema : Schema) (output : String) (scope : Scope) :
    Run.Alike (fun whole pruned => pruned.root = whole.root ∧
        Preview.CountsAlike whole.summary pruned.summary)
      (preview s schema output scope) (preview s (schema.cut s.limits.maxDepth) output scope) := by
  have hwalk : Parallel Preview.CountsAlike
      (walk s.toWalkSettings (Preview.visitor s) schema.root output scope)
      (walk s.toWalkSettings (Preview.visitor s) (schema.root.cut s.limits.maxDepth) output
        scope) := by
    rw [walk_eq_perform, walk_eq_perform, Plan.ofRoot_cut]
    exact (Preview.visitor_prunes s).perform _ _
  refine (hwalk {} {} ⟨#[], rfl⟩).bind ?_
  rintro ⟨nodes, summary⟩ ⟨nodes', summary'⟩ ⟨hnodes, hsummary⟩
  exact .done ⟨congrArg Preview.rootOf hnodes, hsummary⟩

/-- **The greatest depth prunes, and does nothing else.** A schema is created as it is when
all children of nodes at the greatest depth are taken away. On any host the same state is
left, and the same is recorded and comes of the commands. What differs are the messages
about nodes below that depth and the errors that are counted with them: one for each node
one level below it, as often as the walk comes to the node. A preview has the same tree and
the same counts; only its warnings differ. -/
theorem depth_limit_only_prunes (schema : Schema) (output : String) (scope : Scope) {σ : Type}
    (host : Host (StateM σ)) (before : σ) :
    (∀ s : CreateSettings,
      let whole := (create s schema output scope).on host before
      let pruned := (create s (schema.cut s.limits.maxDepth) output scope).on host before
      ∃ n, whole.1.Pruned n pruned.1 ∧ pruned.2 = whole.2 ∧
        (createCounting s (s.limits.maxDepth + 1) schema output scope).on host before =
          ((whole.1, n), whole.2)) ∧
    ∀ s : Preview.Settings,
      let whole := (preview s schema output scope).on host before
      let pruned := (preview s (schema.cut s.limits.maxDepth) output scope).on host before
      pruned.1.root = whole.1.root ∧ Preview.CountsAlike whole.1.summary pruned.1.summary ∧
        pruned.2 = whole.2 := by
  refine ⟨fun s => ?_, fun s => ?_⟩
  · intro whole pruned
    obtain ⟨hwhole, hafter⟩ := (Creation.createCounting_creates s schema output scope).on host before
    obtain ⟨hpruned, hafter'⟩ :=
      (Creation.createCounting_prunes s schema output scope).on host before
    exact ⟨_, hwhole ▸ hpruned, hafter'.trans hafter.symm,
      Prod.ext (Prod.ext hwhole.symm rfl) hafter.symm⟩
  · intro whole pruned
    obtain ⟨⟨hroot, hcounts⟩, hafter⟩ := (preview_prunes s schema output scope).on host before
    exact ⟨hroot, hcounts, hafter⟩

end Scaffold

import Mathlib.Tactic
import Scaffold.Creation
import Scaffold.Preview
import Scaffold.Proofs.Perform
import Scaffold.Undo

/-!
Which calls a run makes.

* `Creation.Admits`: a property holds of all that may be asked for a place: to look at it,
  and, unless the run is dry, to make or write it and to ask elsewhere for its bytes;
* `Creation.visitor_callsAt` and `Preview.visitor_callsAt`: the visit of a node asks
  nothing else, whatever is replied;
* `create_every`, `preview_every` and `undo_every`: so a property of all calls of a run is
  shown by one fact for each kind of call.
-/

namespace Scaffold

open Scaffold.Path Variable

variable {P : Call → Prop}

/-! ### Creating -/

namespace Creation

lemma everyCall_log (kind : LogKind) (message : String) (details : Option String) :
    EveryCall P (log kind message details) :=
  everyCall_modify _

lemma everyCall_record (place : Cursor) (kind : ItemKind) (preExisted : Bool) :
    EveryCall P (record place kind preExisted) :=
  everyCall_modify _

/-- Counting and reporting ask nothing. -/
lemma everyCall_note (change : CreationSummary → CreationSummary) (kind : LogKind)
    (message : String) (details : Option String) :
    EveryCall P (do count change; log kind message details) :=
  (everyCall_modify _).bind fun _ => everyCall_log _ _ _

lemma everyCall_fail (message details : String) : EveryCall P (fail message details) :=
  everyCall_note _ _ _ _

lemma everyCall_report (entry : LogEntry) : EveryCall P (report entry) := by
  unfold report
  split
  · exact (everyCall_modify _).bind fun _ => everyCall_log _ _ _
  · exact everyCall_log _ _ _

lemma everyCall_prepareDownload (name : String) (env : Environment) (bytes : ByteArray) :
    EveryCall P (prepareDownload name env bytes) := by
  unfold prepareDownload
  split
  · exact everyCall_pure _
  · split
    · exact everyCall_pure _
    · exact (everyCall_log _ _ _).bind fun _ => everyCall_pure _

/-- A property holds of all calls that may be made to write a file in a place. -/
structure AdmitsFile (s : CreateSettings) (P : Call → Prop) (place : Cursor) : Prop where
  write : s.options.dryRun = false → ∀ bytes, P (.write place.path bytes)
  fetch : s.options.dryRun = false → ∀ text u, Url.guard text = .ok u → P (.fetch u.text)
  generate : s.options.dryRun = false → ∀ request, P (.generate request)

/-- A property holds of all calls that may be made for a place. -/
structure Admits (s : CreateSettings) (P : Call → Prop) (place : Cursor) : Prop
    extends AdmitsFile s P place where
  entry : P (.entry place.path)
  makeFolder : s.options.dryRun = false → P (.makeFolder place.path)

section

variable {s : CreateSettings} {place : Cursor} {env : Environment}

lemma everyCall_write {bytes : ByteArray} (h : P (.write place.path bytes)) (preExisted : Bool) :
    EveryCall P (write place bytes preExisted) :=
  (everyCall_call h).bindResult (fun _ => everyCall_pure _) fun _ =>
    (everyCall_record _ _ _).bind fun _ => everyCall_pure _

lemma everyCall_fetch {url : String} (h : P (.fetch url)) : EveryCall P (fetch s url) := by
  unfold fetch
  split
  · exact everyCall_pure _
  · refine (everyCall_call h).bindResult (fun _ => everyCall_pure _) fun bytes => ?_
    dsimp only
    split <;> exact everyCall_pure _

lemma everyCall_generateBytes {request : Request} (h : P (.generate request)) :
    EveryCall P (generateBytes s request) := by
  unfold generateBytes
  split
  · exact everyCall_pure _
  · exact everyCall_call h

/-- A file is generated and then written. -/
lemma everyCall_generate (hgenerate : s.options.dryRun = false → ∀ request, P (.generate request))
    (hwrite : s.options.dryRun = false → ∀ bytes, P (.write place.path bytes)) (name : String)
    (kind : GeneratorKind) (f : FileNode) (preExisted : Bool) :
    EveryCall P (generate s name kind f place env preExisted) := by
  unfold generate
  split_ifs with hdry
  · exact everyCall_note _ _ _ _
  have hreal : s.options.dryRun = false := by simpa using hdry
  refine (everyCall_generateBytes (hgenerate hreal _)).bindResult (fun _ => everyCall_fail _ _)
    fun _ => ?_
  exact (everyCall_write (hwrite hreal _) _).bindResult (fun _ => everyCall_fail _ _) fun _ =>
    everyCall_note _ _ _ _

lemma everyCall_writeText (hwrite : s.options.dryRun = false → ∀ bytes, P (.write place.path bytes))
    (name text : String) (preExisted : Bool) :
    EveryCall P (writeText s name text place preExisted) := by
  unfold writeText
  split_ifs with hdry
  · exact everyCall_note _ _ _ _
  · have hreal : s.options.dryRun = false := by simpa using hdry
    exact (everyCall_write (hwrite hreal _) _).bindResult (fun _ => everyCall_fail _ _) fun _ =>
      everyCall_note _ _ _ _

/-- A file whose content is in the schema is only written. -/
lemma everyCall_writeInline
    (hwrite : s.options.dryRun = false → ∀ bytes, P (.write place.path bytes)) (name : String)
    (f : FileNode) (preExisted : Bool) :
    EveryCall P (writeInline s name f place env preExisted) := by
  unfold writeInline
  obtain ⟨text, fault⟩ := renderContent env f.isTemplate (f.content.getD "")
  refine EveryCall.bind ?_ fun _ => everyCall_writeText hwrite _ _ _
  cases fault with
  | none => exact everyCall_pure _
  | some e => exact everyCall_log _ _ _

/-- A folder is looked for, and then made. -/
lemma everyCall_enterFolder (hentry : P (.entry place.path))
    (hmake : s.options.dryRun = false → P (.makeFolder place.path)) (name : String) :
    EveryCall P (enterFolder s name place) := by
  have hplan : EveryCall P (planFolder name place) :=
    (everyCall_modify _).bind fun _ => (everyCall_log _ _ _).bind fun _ => everyCall_pure _
  unfold enterFolder
  split
  · exact hplan
  refine EveryCall.bind (everyCall_call hentry) fun found => ?_
  split
  · exact (everyCall_fail _ _).bind fun _ => everyCall_pure _
  · split_ifs with hdry
    · exact hplan
    · exact (everyCall_call (hmake (by simpa using hdry))).bindResult
        (fun _ => (everyCall_fail _ _).bind fun _ => everyCall_pure _)
        fun _ => (everyCall_modify _).bind fun _ => (everyCall_record _ _ _).bind fun _ =>
          (everyCall_log _ _ _).bind fun _ => everyCall_pure _
  · rename_i entry
    split_ifs
    · exact (everyCall_log _ _ _).bind fun _ => everyCall_pure _
    · exact (everyCall_fail _ _).bind fun _ => everyCall_pure _

/-- The folder of the commands is looked for below the output folder. -/
lemma everyCall_hookFolder {output : String}
    (h : ∀ name : AcceptedName, P (.entry (join output name))) (root : Node) :
    EveryCall P (hookFolder root output env) := by
  unfold hookFolder
  split
  · rename_i raw children attributes
    dsimp only
    split
    · exact everyCall_pure _
    · rename_i accepted hname
      have hcheck : Name.check (substitute env raw) = .ok (substitute env raw) := by
        rw [hname, (Name.check_eq_ok_iff.mp hname).2]
      refine EveryCall.bind (everyCall_call (h ⟨_, hcheck⟩)) fun found => ?_
      split <;> exact everyCall_pure _
  · exact everyCall_pure _

lemma everyCall_reportCommand (command : String) (result : CommandResult) :
    EveryCall P (reportCommand command result) := by
  unfold reportCommand
  split
  · exact (everyCall_modify _).bind fun _ => (everyCall_log _ _ _).bind fun _ =>
      everyCall_modify _
  · exact (everyCall_modify _).bind fun _ => (everyCall_log _ _ _).bind fun _ =>
      everyCall_modify _

lemma everyCall_runCommands (h : ∀ text folder, P (.command text folder)) (folder : String)
    (commands : List String) : EveryCall P (runCommands env folder commands) := by
  induction commands with
  | nil => exact everyCall_pure _
  | cons command rest ih =>
      refine EveryCall.bind (everyCall_call (h _ _)) fun result => ?_
      exact (everyCall_reportCommand _ _).bind fun _ => ih

/-- Commands are all that is asked for when commands are run, and a dry run does not. -/
lemma everyCall_runHooks (h : s.options.dryRun = false → ∀ text folder, P (.command text folder))
    (commands : List String) (folder : String) :
    EveryCall P (runHooks s commands folder env) := by
  unfold runHooks
  split_ifs with hempty hdry
  · exact everyCall_pure _
  · exact everyCall_forM fun command => everyCall_log _ _ _
  · exact everyCall_log _ _ _
  · exact everyCall_runCommands (h (by simpa using hdry)) folder commands

end

namespace AdmitsFile

variable {s : CreateSettings} {place : Cursor}

lemma download (h : AdmitsFile s P place) (name raw : String) (env : Environment)
    (preExisted : Bool) : EveryCall P (download s name raw place env preExisted) := by
  unfold Creation.download
  split
  · exact everyCall_fail _ _
  rename_i accepted hguard
  dsimp only
  split_ifs with hdry
  · exact everyCall_note _ _ _ _
  have hreal : s.options.dryRun = false := by simpa using hdry
  refine (everyCall_fetch (h.fetch hreal _ _ hguard)).bindResult (fun _ => everyCall_fail _ _)
    fun _ => ?_
  refine (everyCall_prepareDownload _ _ _).bind fun _ => ?_
  exact (everyCall_write (h.write hreal _) _).bindResult (fun _ => everyCall_fail _ _) fun _ =>
    everyCall_note _ _ _ _

/-- **A file is written** by no other calls than its place admits. -/
lemma writeFile (h : AdmitsFile s P place) (name : String) (f : FileNode) (env : Environment)
    (preExisted : Bool) : EveryCall P (writeFile s name f place env preExisted) := by
  unfold Creation.writeFile
  split
  · exact h.download _ _ _ _
  · exact everyCall_generate h.generate h.write _ _ _ _
  · exact everyCall_writeInline h.write _ _ _

end AdmitsFile

namespace Admits

variable {s : CreateSettings} {place : Cursor}

lemma look (h : Admits s P place) : EveryCall P (look place) := by
  unfold Creation.look
  split
  · exact everyCall_pure _
  · exact everyCall_call h.entry

/-- **The visit of a file** makes no other calls than its place admits. -/
theorem visitFile (h : Admits s P place) (name : String) (f : FileNode) (env : Environment) :
    EveryCall P (visitFile s name f place env) := by
  unfold Creation.visitFile
  refine h.look.bind fun found => ?_
  split
  · exact (everyCall_fail _ _).bind fun _ => everyCall_pure _
  · exact (h.writeFile _ _ _ _).bind fun _ => everyCall_pure _
  · rename_i entry
    split_ifs
    · exact (everyCall_fail _ _).bind fun _ => everyCall_pure _
    · exact (h.writeFile _ _ _ _).bind fun _ => everyCall_pure _
    · exact (everyCall_modify _).bind fun _ =>
        (everyCall_log _ _ _).bind fun _ => everyCall_pure _

end Admits

/-- **Creating** asks about places what they admit. -/
theorem visitor_callsAt {s : CreateSettings} {Outer Inner : Cursor → Prop}
    (hdescend : ∀ place (name : AcceptedName), Outer place → Inner (place.descend name))
    (hinside : ∀ place isPlanned, Inner place → Outer { place with isPlanned })
    (hadmits : ∀ place, Inner place → Admits s P place) :
    (visitor s).CallsAt P Outer Inner where
  descend := hdescend
  inside := hinside
  report entry := everyCall_report entry
  enterFolder name place hplace :=
    everyCall_enterFolder (hadmits place hplace).entry (hadmits place hplace).makeFolder name
  leaveFolder _ _ := everyCall_pure _
  file name f place env hplace := (hadmits place hplace).visitFile name f env
  group _ _ _ := everyCall_pure _
  invalidName _ _ := everyCall_pure _

end Creation

/-- **All calls of a run that creates** have a property if all have it that may be made for
the places below the output folder, and for commands. -/
theorem create_every {s : CreateSettings} (Outer Inner : Cursor → Prop)
    (hdescend : ∀ place (name : AcceptedName), Outer place → Inner (place.descend name))
    (hinside : ∀ place isPlanned, Inner place → Outer { place with isPlanned })
    (hadmits : ∀ place, Inner place → Creation.Admits s P place)
    (hcommand : s.options.dryRun = false → ∀ text folder, P (.command text folder))
    (schema : Schema) {output : String} (houtput : Outer { path := output }) (scope : Scope) :
    (create s schema output scope).Every P := by
  rw [create]
  refine (EveryCall.run ?_ _).bind fun _ => trivial
  rw [walk_eq_perform]
  refine ((Creation.visitor_callsAt hdescend hinside hadmits).perform _ houtput).bind fun _ => ?_
  split_ifs
  · have hentry : ∀ name : AcceptedName, P (.entry (join output name)) := fun name =>
      (hadmits _ (hdescend _ name houtput)).entry
    refine (Creation.everyCall_hookFolder hentry _).bind fun folder => ?_
    exact Creation.everyCall_runHooks hcommand _ _
  · exact everyCall_pure _

/-! ### Previewing -/

namespace Preview

variable {place : Cursor} (s : Settings)

lemma everyCall_warn (message : String) : EveryCall P (warn message) :=
  everyCall_modify _

lemma everyCall_report (entry : LogEntry) : EveryCall P (report entry) := by
  unfold report
  split
  · exact everyCall_warn _
  · exact everyCall_warn _
  · exact everyCall_pure _
  · exact everyCall_pure _

lemma everyCall_look (h : P (.entry place.path)) : EveryCall P (look place) := by
  unfold look
  split_ifs
  · exact everyCall_pure _
  · exact EveryCall.bindResult (everyCall_call h)
      (fun _ => (everyCall_warn _).bind fun _ => everyCall_pure _) fun _ => everyCall_pure _

lemma everyCall_enterFolder (h : P (.entry place.path)) (name : String) :
    EveryCall P (enterFolder name place) := by
  unfold enterFolder
  refine (everyCall_look h).bind fun found => ?_
  split
  · exact everyCall_pure _
  · split_ifs
    · exact everyCall_pure _
    · exact (everyCall_warn _).bind fun _ => everyCall_pure _

lemma everyCall_describe (f : FileNode) (env : Environment) (node : PreviewNode) :
    EveryCall P (describe s f place env node) := by
  unfold describe
  split
  · dsimp only
    split
    · exact (everyCall_warn _).bind fun _ => everyCall_pure _
    · exact everyCall_pure _
  · exact everyCall_pure _
  · dsimp only
    split
    · exact (everyCall_warn _).bind fun _ => everyCall_pure _
    · exact everyCall_pure _

lemma everyCall_compare (h : P (.read place.path)) (size : Nat) (text : Option String)
    (node : PreviewNode) : EveryCall P (compare s size place text node) := by
  unfold compare
  split_ifs
  · exact everyCall_pure _
  · refine EveryCall.bindResult (everyCall_call h)
      (fun _ => (everyCall_warn _).bind fun _ => everyCall_pure _) fun bytes => ?_
    dsimp only
    split <;> exact everyCall_pure _

lemma everyCall_judgeFile (h : P (.read place.path)) (name : String) (f : FileNode)
    (env : Environment) (existing : Option Entry) :
    EveryCall P (judgeFile s name f place env existing) := by
  unfold judgeFile
  refine (everyCall_modify _).bind fun _ => (everyCall_describe s f env _).bind fun _ => ?_
  dsimp only
  split
  · exact everyCall_compare s h _ _ _
  · exact everyCall_pure _

lemma everyCall_visitFile (hentry : P (.entry place.path)) (hread : P (.read place.path))
    (name : String) (f : FileNode) (env : Environment) :
    EveryCall P (visitFile s name f place env) := by
  unfold visitFile
  refine (everyCall_look hentry).bind fun existing => ?_
  split_ifs
  · exact (everyCall_warn _).bind fun _ => everyCall_pure _
  · exact (everyCall_judgeFile s hread name f env existing).bind fun _ => everyCall_pure _

/-- **Previewing** looks at places and reads what is there. -/
theorem visitor_callsAt {Outer Inner : Cursor → Prop}
    (hdescend : ∀ place (name : AcceptedName), Outer place → Inner (place.descend name))
    (hinside : ∀ place isPlanned, Inner place → Outer { place with isPlanned })
    (hlook : ∀ place, Inner place → P (.entry place.path) ∧ P (.read place.path)) :
    (visitor s).CallsAt P Outer Inner where
  descend := hdescend
  inside := hinside
  report entry := everyCall_report entry
  enterFolder name place hplace := everyCall_enterFolder (hlook place hplace).1 name
  leaveFolder _ _ := (everyCall_modify _).bind fun _ => everyCall_pure _
  file name f place env hplace :=
    everyCall_visitFile s (hlook place hplace).1 (hlook place hplace).2 name f env
  group label _ items := by
    dsimp only [visitor, group]
    split_ifs <;> exact everyCall_pure _
  invalidName _ _ := everyCall_pure _

end Preview

/-- **All calls of a preview** have a property if it holds of looking at the places below
the output folder and of reading them. -/
theorem preview_every (s : Preview.Settings) (Outer Inner : Cursor → Prop)
    (hdescend : ∀ place (name : AcceptedName), Outer place → Inner (place.descend name))
    (hinside : ∀ place isPlanned, Inner place → Outer { place with isPlanned })
    (hlook : ∀ place, Inner place → P (.entry place.path) ∧ P (.read place.path))
    (schema : Schema) {output : String} (houtput : Outer { path := output }) (scope : Scope) :
    (preview s schema output scope).Every P := by
  rw [preview, walk_eq_perform]
  exact (((Preview.visitor_callsAt s hdescend hinside hlook).perform _ houtput).run _).bind
    fun _ => trivial

/-! ### Undoing -/

namespace Undo

lemma everyCall_skip (message : String) (details : Option String) :
    EveryCall P (skip message details) :=
  (everyCall_modify _).bind fun _ => everyCall_modify _

lemma everyCall_fail (message : String) (e : Failure) : EveryCall P (fail message e) :=
  (everyCall_modify _).bind fun _ => everyCall_modify _

lemma everyCall_noteGone (kind : ItemKind) (path : String) (logKind : LogKind) (verb : String) :
    EveryCall P (noteGone kind path logKind verb) :=
  (everyCall_modify _).bind fun _ => (everyCall_modify _).bind fun _ => everyCall_modify _

section

variable {s : Settings} {path : String}

lemma everyCall_delete (hfile : s.dryRun = false → P (.removeFile path))
    (hfolder : s.dryRun = false → P (.removeFolder path)) (kind : ItemKind) :
    EveryCall P (delete s kind path) := by
  unfold delete
  split_ifs with hdry
  · exact everyCall_noteGone _ _ _ _
  have hreal : s.dryRun = false := by simpa using hdry
  cases kind with
  | file =>
      exact (everyCall_call (hfile hreal)).bindResult (fun _ => everyCall_fail _ _)
        fun _ => everyCall_noteGone _ _ _ _
  | folder =>
      exact (everyCall_call (hfolder hreal)).bindResult (fun _ => everyCall_fail _ _)
        fun _ => everyCall_noteGone _ _ _ _

lemma everyCall_undoFile (hentry : P (.entry path))
    (hdelete : EveryCall P (delete s .file path)) : EveryCall P (undoFile s path) := by
  unfold undoFile
  refine EveryCall.bind (everyCall_call hentry) fun found => ?_
  split
  · exact everyCall_fail _ _
  · exact everyCall_skip _ _
  · split_ifs
    · exact hdelete
    · exact everyCall_skip _ _

lemma everyCall_undoFolder (hentry : P (.entry path)) (hlist : P (.list path))
    (hdelete : EveryCall P (delete s .folder path)) : EveryCall P (undoFolder s path) := by
  unfold undoFolder
  refine EveryCall.bind (everyCall_call hentry) fun found => ?_
  split
  · exact everyCall_fail _ _
  · exact everyCall_skip _ _
  · split_ifs
    · exact everyCall_skip _ _
    refine (everyCall_call hlist).bindResult (fun _ => everyCall_fail _ _) fun names => ?_
    refine everyCall_get.bind fun progress => ?_
    dsimp only
    split_ifs
    · exact hdelete
    · exact everyCall_skip _ _

end

end Undo

/-- **All calls of a run that undoes** have a property if it holds of looking at paths and
listing them and, unless the run is dry, of removing what is there. -/
theorem undo_every {s : Undo.Settings} (hentry : ∀ path, P (.entry path))
    (hlist : ∀ path, P (.list path)) (hfile : s.dryRun = false → ∀ path, P (.removeFile path))
    (hfolder : s.dryRun = false → ∀ path, P (.removeFolder path)) (items : List CreatedItem) :
    (undo s items).Every P := by
  have hdelete : ∀ kind path, EveryCall P (Undo.delete s kind path) := fun kind path =>
    Undo.everyCall_delete (fun hreal => hfile hreal path) (fun hreal => hfolder hreal path) kind
  rw [undo]
  split_ifs
  · trivial
  refine (EveryCall.run ?_ _).bind fun _ => trivial
  refine EveryCall.bind (everyCall_forM fun item => Undo.everyCall_skip _ _) fun _ => ?_
  refine EveryCall.bind (everyCall_forM fun path =>
    Undo.everyCall_undoFile (hentry path) (hdelete _ path)) fun _ => ?_
  exact everyCall_forM fun path =>
    Undo.everyCall_undoFolder (hentry path) (hlist path) (hdelete _ path)

end Scaffold

import Mathlib.Tactic
import Scaffold.Creation
import Scaffold.Proofs.Memory

/-!
What the visit of a node does when it is created.

* `Creation.Wrote`: a file was written, and recorded as what it was;
* `Creation.FileVisit` and `Creation.FolderVisit` list what a visit can do: write or make
  something that is then recorded, find something that is kept, or leave all as it is;
* `visitFile_ensures` and `enterFolder_ensures`: a visit does one of these. If calls may
  fail then a visit may leave all as it is (`mayFail`); if they do not fail, and what is
  fetched or generated is there, then it does not.
-/

namespace Scaffold

open Scaffold.Path Variable

/-- Whether a message says that a folder was there before. -/
def LogEntry.IsFolderFound (entry : LogEntry) : Prop :=
  "Folder exists: ".toList <+: entry.message.toList

instance (entry : LogEntry) : Decidable entry.IsFolderFound :=
  inferInstanceAs (Decidable (_ <+: _))

namespace Creation

/-- How many folders were there before, as far as it is reported. -/
def foldersFound (c : Creation) : Nat :=
  c.logs.toList.countP (·.IsFolderFound)

/-- Nothing was recorded, skipped or found in between. -/
structure Same (c c' : Creation) : Prop where
  items : c'.items = c.items
  skipped : c'.summary.skipped = c.summary.skipped
  found : c'.foldersFound = c.foldersFound

lemma Same.refl (c : Creation) : c.Same c := ⟨rfl, rfl, rfl⟩

lemma Same.trans {c c' c'' : Creation} (h : c.Same c') (h' : c'.Same c'') : c.Same c'' where
  items := h'.items.trans h.items
  skipped := h'.skipped.trans h.skipped
  found := h'.found.trans h.found

instance : Std.Refl Same := ⟨Same.refl⟩

instance : IsTrans Creation Same := ⟨fun _ _ _ => Same.trans⟩

/-- A file was written at a place, and was recorded. -/
structure Wrote (place : Cursor) (preExisted : Bool) (bytes : ByteArray)
    (x y : Creation × Memory) : Prop where
  items : y.1.items = x.1.items.push ⟨place.path, .file, preExisted⟩
  skipped : y.1.summary.skipped = x.1.summary.skipped
  found : y.1.foldersFound = x.1.foldersFound
  tidy : y.2.Tidy
  free : x.2.slot? (components place.path) ≠ some .folder
  slot : ∃ spelling, y.2 = x.2.set (components place.path) (.file spelling bytes) ∧
    ∀ old b, x.2.slot? (components place.path) = some (.file old b) → spelling = old

section

variable {place : Cursor} {preExisted : Bool} {bytes : ByteArray} {c c' : Creation}
  {fs gs : Memory}

lemma Wrote.same {c'' : Creation} (h : Wrote place preExisted bytes (c, fs) (c', gs))
    (hsame : c'.Same c'') : Wrote place preExisted bytes (c, fs) (c'', gs) where
  items := hsame.items.trans h.items
  skipped := hsame.skipped.trans h.skipped
  found := hsame.found.trans h.found
  tidy := h.tidy
  free := h.free
  slot := h.slot

lemma Same.wrote {c'' : Creation} (hsame : c.Same c')
    (h : Wrote place preExisted bytes (c', fs) (c'', gs)) :
    Wrote place preExisted bytes (c, fs) (c'', gs) where
  items := h.items.trans (by rw [hsame.items])
  skipped := h.skipped.trans hsame.skipped
  found := h.found.trans hsame.found
  tidy := h.tidy
  free := h.free
  slot := h.slot

end

/-! ### Programs that only ask and report -/

/-- A program leaves files alone and records nothing; its result has some property. -/
abbrev Quiet {α : Type} (rule : Run.Rule Memory) (x : CreateM α) (Q : α → Prop) : Prop :=
  Keeps rule Same x Q

section Quiet

variable {rule : Run.Rule Memory}

lemma quiet_count {change : CreationSummary → CreationSummary}
    (h : ∀ s, (change s).skipped = s.skipped) : Quiet rule (count change) fun _ => True :=
  keeps_modify fun _ => ⟨rfl, h _, rfl⟩

lemma quiet_log {kind : LogKind} {message : String} {details : Option String}
    (h : ¬ LogEntry.IsFolderFound ⟨kind, message, details⟩) :
    Quiet rule (log kind message details) fun _ => True := by
  refine keeps_modify fun c => ⟨rfl, rfl, ?_⟩
  simp [foldersFound, h]

lemma quiet_note {change : CreationSummary → CreationSummary} {kind : LogKind}
    {message : String} {details : Option String} (hskipped : ∀ s, (change s).skipped = s.skipped)
    (hmessage : ¬ LogEntry.IsFolderFound ⟨kind, message, details⟩) :
    Quiet rule (do count change; log kind message details) fun _ => True :=
  (quiet_count hskipped).bind fun _ _ => quiet_log hmessage

lemma quiet_fail {message details : String}
    (h : ¬ LogEntry.IsFolderFound ⟨.error, message, details⟩) :
    Quiet rule (fail message details) fun _ => True :=
  quiet_note (fun _ => rfl) h

/-- A visit that goes wrong is reported and has no result. -/
lemma quiet_giveUp {γ : Type} {message details : String}
    (h : ¬ LogEntry.IsFolderFound ⟨.error, message, details⟩) :
    Quiet rule (do fail message details; pure (none : Option γ)) (· = none) :=
  (quiet_fail h).bind fun _ _ => keeps_pure rfl

lemma quiet_report {entry : LogEntry} (h : ¬ entry.IsFolderFound) :
    Quiet rule (report entry) fun _ => True := by
  unfold report
  split_ifs
  · exact quiet_note (fun _ => rfl) h
  · exact quiet_log h

end Quiet

/-! ### Files -/

/-- Whether there is a source of the bytes of a file: an address that is accepted can be
fetched, and a file that is generated can be. -/
def Supplies (s : CreateSettings) (f : FileNode) (env : Environment) : Prop :=
  match f.source with
  | .url raw => s.equipment.canFetch ∧ ∃ accepted, Url.guard (substitute env raw) = .ok accepted
  | .generated _ _ => s.equipment.canGenerate
  | .inline _ => True

/-- What the bytes of a file are, if they are a text of the schema. -/
def IsContent (f : FileNode) (env : Environment) (bytes : ByteArray) : Prop :=
  ∀ content, f.source = .inline content →
    bytes = (renderContent env f.isTemplate (f.content.getD "")).1.toUTF8

/-- A file can be written at a place, unless calls fail. -/
structure Writable (mayFail : Prop) (place : Cursor) (fs : Memory) : Prop where
  tidy : fs.Tidy
  free : fs.slot? (components place.path) ≠ some .folder
  parent : ¬ mayFail → fs.hasParent (components place.path)

/-- A program writes a file at a place and records it, or, if it may, leaves all as it
is. -/
def MayWrite {α : Type} (mayFail : Prop) (cap : Nat) (place : Cursor) (preExisted : Bool)
    (content : ByteArray → Prop) (fs : Memory) (x : CreateM α) : Prop :=
  ∀ c, Ensures (Memory.serving mayFail cap) x c fs fun _ c' fs' =>
    (∃ bytes, content bytes ∧ Wrote place preExisted bytes (c, fs) (c', fs')) ∨
      (mayFail ∧ c.Same c' ∧ fs' = fs)

section Files

variable {α β : Type} {mayFail : Prop} {cap : Nat} {place : Cursor} {preExisted : Bool}
  {content : ByteArray → Prop} {fs : Memory} {s : CreateSettings}

lemma Quiet.mayWrite {x : CreateM α} {Q : α → Prop}
    (hx : Quiet (Memory.serving mayFail cap) x Q) (hmay : mayFail) :
    MayWrite mayFail cap place preExisted content fs x :=
  fun c => (hx c fs).mono fun _ _ _ ⟨_, hsame⟩ => .inr ⟨hmay, hsame⟩

lemma Quiet.bind_mayWrite {x : CreateM α} {f : α → CreateM β} {Q : α → Prop}
    (hx : Quiet (Memory.serving mayFail cap) x Q)
    (hf : ∀ a, Q a → MayWrite mayFail cap place preExisted content fs (f a)) :
    MayWrite mayFail cap place preExisted content fs (x >>= f) := by
  intro c
  rw [ensures_bind]
  refine (hx c fs).mono ?_
  rintro a c' fs' ⟨ha, hsame, hfs⟩
  subst hfs
  refine (hf a ha c').mono fun b c'' fs'' hwrite => ?_
  rcases hwrite with ⟨bytes, hbytes, hwrote⟩ | ⟨hmay, hsame', hfs'⟩
  · exact .inl ⟨bytes, hbytes, hsame.wrote hwrote⟩
  · exact .inr ⟨hmay, hsame.trans hsame', hfs'⟩

/-- Writing fails only if calls may fail: there is no folder at the place, and there is
one above it. -/
lemma write_ensures (h : Writable mayFail place fs) (bytes : ByteArray) (c : Creation) :
    Ensures (Memory.serving mayFail cap) (write place bytes preExisted) c fs fun r c' fs' =>
      (r = .ok () ∧ Wrote place preExisted bytes (c, fs) (c', fs')) ∨
        (mayFail ∧ (∃ e, r = .error e) ∧ c' = c ∧ fs' = fs) := by
  rw [write, ensures_bind, ask, ensures_call]
  intro reply fs' hserve
  rcases Memory.serving_cases (by simp [Call.path?]) hserve with
    ⟨rfl, rfl⟩ | ⟨hmay, rfl, e, he⟩
  · rcases Memory.write_cases h.tidy place.path bytes with
      ⟨e, hrun⟩ | ⟨spelling, hrun, hset, -, hold⟩
    · have hmay : mayFail := by
        by_contra hno
        obtain ⟨spelling, hok, -⟩ := Memory.write_of_hasParent bytes h.free (h.parent hno)
        simp [hok] at hrun
      simp only [Memory.answer, hrun]
      exact ensures_pure.mpr (.inr ⟨hmay, ⟨e, rfl⟩, rfl, rfl⟩)
    · simp only [Memory.answer, hrun, record, ensures_bind, ensures_modify, ensures_pure]
      exact .inl ⟨trivial, rfl, rfl, rfl, hset, h.free, spelling, rfl, hold⟩
  · obtain rfl : .error e = reply := Option.some.inj he
    exact ensures_pure.mpr (.inr ⟨hmay, ⟨e, rfl⟩, rfl, rfl⟩)

/-- Writing is followed by a report of how it went. -/
lemma mayWrite_of_write (h : Writable mayFail place fs) {bytes : ByteArray}
    (hbytes : content bytes) {f : Except Failure Unit → CreateM β}
    (herror : ∀ e, Quiet (Memory.serving mayFail cap) (f (.error e)) fun _ => True)
    (hok : Quiet (Memory.serving mayFail cap) (f (.ok ())) fun _ => True) :
    MayWrite mayFail cap place preExisted content fs (write place bytes preExisted >>= f) := by
  intro c
  rw [ensures_bind]
  refine (write_ensures h bytes c).mono fun r c' fs' hwrite => ?_
  rcases hwrite with ⟨rfl, hwrote⟩ | ⟨hmay, ⟨e, rfl⟩, rfl, rfl⟩
  · refine (hok c' fs').mono ?_
    rintro _ c'' fs'' ⟨_, hsame, hfs⟩
    subst hfs
    exact .inl ⟨bytes, hbytes, hwrote.same hsame⟩
  · refine (herror e c' fs').mono ?_
    rintro _ c'' fs'' ⟨_, hsame⟩
    exact .inr ⟨hmay, hsame⟩

lemma quiet_prepareDownload {rule : Run.Rule Memory} (name : String) (env : Environment)
    (bytes : ByteArray) : Quiet rule (prepareDownload name env bytes) fun _ => True := by
  unfold prepareDownload
  split
  · exact keeps_pure trivial
  · split
    · exact keeps_pure trivial
    · exact (quiet_log (by simp [LogEntry.IsFolderFound, toString])).bind
        fun _ _ => keeps_pure trivial

/-- What can be fetched is, unless calls may fail. -/
lemma quiet_fetch (hcan : ¬ mayFail → s.equipment.canFetch) (url : String) :
    Quiet (Memory.serving mayFail s.limits.maxDownloadBytes) (fetch s url)
      fun r => (∃ bytes, r = .ok bytes) ∨ mayFail := by
  intro c fs
  unfold fetch
  split_ifs with hno
  · have hmay : mayFail := by
      by_contra hmay
      simp [hcan hmay] at hno
    exact ensures_pure.mpr ⟨.inr hmay, .refl c, rfl⟩
  rw [ensures_bind, ask, ensures_call]
  intro reply fs' hserve
  obtain rfl := Memory.serving_outside rfl hserve
  by_cases hmay : mayFail
  · cases reply with
    | error e => exact ensures_pure.mpr ⟨.inr hmay, .refl c, rfl⟩
    | ok bytes =>
        dsimp only
        split_ifs <;> exact ensures_pure.mpr ⟨.inr hmay, .refl c, rfl⟩
  · obtain ⟨-, bytes, rfl, hsize⟩ := hserve.2 hmay
    simp only [Nat.not_lt.mpr hsize, ↓reduceIte]
    exact ensures_pure.mpr ⟨.inl ⟨bytes, rfl⟩, .refl c, rfl⟩

/-- What can be generated is, unless calls may fail. -/
lemma quiet_generateBytes (hcan : ¬ mayFail → s.equipment.canGenerate) (request : Request) :
    Quiet (Memory.serving mayFail cap) (generateBytes s request)
      fun r => (∃ bytes, r = .ok bytes) ∨ mayFail := by
  intro c fs
  unfold generateBytes
  split_ifs with hno
  · have hmay : mayFail := by
      by_contra hmay
      simp [hcan hmay] at hno
    exact ensures_pure.mpr ⟨.inr hmay, .refl c, rfl⟩
  rw [ask, ensures_call]
  intro reply fs' hserve
  obtain rfl := Memory.serving_outside rfl hserve
  by_cases hmay : mayFail
  · exact ⟨.inr hmay, .refl c, rfl⟩
  · obtain ⟨-, bytes, rfl⟩ := hserve.2 hmay
    exact ⟨.inl ⟨bytes, rfl⟩, .refl c, rfl⟩

variable {name : String} {f : FileNode} {env : Environment}

lemma download_mayWrite (hdry : s.options.dryRun = false) (h : Writable mayFail place fs) {raw : String}
    (hcan : ¬ mayFail → s.equipment.canFetch ∧
      ∃ accepted, Url.guard (substitute env raw) = .ok accepted) :
    MayWrite mayFail s.limits.maxDownloadBytes place preExisted (fun _ => True) fs
      (download s name raw place env preExisted) := by
  unfold download
  split
  · rename_i fault hguard
    have hmay : mayFail := by
      by_contra hmay
      obtain ⟨-, accepted, hok⟩ := hcan hmay
      simp [hok] at hguard
    exact (quiet_fail (by simp [LogEntry.IsFolderFound, toString])).mayWrite hmay
  simp only [hdry, Bool.false_eq_true, ↓reduceIte]
  refine (quiet_fetch (fun hmay => (hcan hmay).1) _).bind_mayWrite fun fetched hfetched => ?_
  rcases fetched with e | bytes
  · have hmay : mayFail := hfetched.resolve_left (by simp)
    exact (quiet_fail (by simp [LogEntry.IsFolderFound, toString])).mayWrite hmay
  refine (quiet_prepareDownload _ _ _).bind_mayWrite fun prepared _ => ?_
  refine mayWrite_of_write h trivial (fun e => ?_) ?_
  · exact quiet_fail (by simp [LogEntry.IsFolderFound, toString])
  · refine quiet_note (fun _ => rfl) ?_
    cases prepared.2 <;> simp [LogEntry.IsFolderFound, toString]

lemma generate_mayWrite (hdry : s.options.dryRun = false) (h : Writable mayFail place fs)
    (hcan : ¬ mayFail → s.equipment.canGenerate) {kind : GeneratorKind} :
    MayWrite mayFail cap place preExisted (fun _ => True) fs
      (generate s name kind f place env preExisted) := by
  unfold generate
  simp only [hdry, Bool.false_eq_true, ↓reduceIte]
  refine (quiet_generateBytes hcan _).bind_mayWrite fun generated hgenerated => ?_
  rcases generated with e | bytes
  · have hmay : mayFail := hgenerated.resolve_left (by simp)
    exact (quiet_fail (by simp [LogEntry.IsFolderFound, toString])).mayWrite hmay
  refine mayWrite_of_write h trivial (fun e => ?_) ?_
  · exact quiet_fail (by simp [LogEntry.IsFolderFound, toString])
  · exact quiet_note (fun _ => rfl) (by simp [LogEntry.IsFolderFound, toString])

lemma quiet_reportFault {rule : Run.Rule Memory} (name : String) (fault : Option TemplateError) :
    Quiet rule (reportFault name fault) fun _ => True := by
  cases fault with
  | none => exact keeps_pure trivial
  | some e => exact quiet_log (by simp [LogEntry.IsFolderFound, toString])

lemma writeInline_mayWrite (hdry : s.options.dryRun = false) (h : Writable mayFail place fs) :
    MayWrite mayFail cap place preExisted (IsContent f env) fs
      (writeInline s name f place env preExisted) := by
  unfold writeInline writeText
  simp only [hdry, Bool.false_eq_true, ↓reduceIte]
  refine (quiet_reportFault _ _).bind_mayWrite fun _ _ => ?_
  refine mayWrite_of_write h (fun _ _ => rfl) (fun e => ?_) ?_
  · exact quiet_fail (by simp [LogEntry.IsFolderFound, toString])
  · exact quiet_note (fun _ => rfl) (by simp [LogEntry.IsFolderFound, toString])

lemma MayWrite.mono {x : CreateM α} {content' : ByteArray → Prop}
    (hx : MayWrite mayFail cap place preExisted content fs x) (h : ∀ b, content b → content' b) :
    MayWrite mayFail cap place preExisted content' fs x :=
  fun c => (hx c).mono fun _ _ _ hwrite =>
    hwrite.imp_left fun ⟨bytes, hbytes, hwrote⟩ => ⟨bytes, h bytes hbytes, hwrote⟩

/-- A file is written from its source, if there is one. -/
lemma writeFile_mayWrite (hdry : s.options.dryRun = false) (h : Writable mayFail place fs)
    (hcan : ¬ mayFail → Supplies s f env) :
    MayWrite mayFail s.limits.maxDownloadBytes place preExisted (IsContent f env) fs
      (writeFile s name f place env preExisted) := by
  unfold writeFile
  unfold Supplies at hcan
  split
  · rename_i raw hsource
    rw [hsource] at hcan
    refine (download_mayWrite hdry h hcan).mono fun bytes _ content hc => ?_
    simp [hsource] at hc
  · rename_i kind config hsource
    rw [hsource] at hcan
    refine (generate_mayWrite hdry h hcan).mono fun bytes _ content hc => ?_
    simp [hsource] at hc
  · exact writeInline_mayWrite hdry h

/-- What the visit of a file does. -/
inductive FileVisit (mayFail : Prop) (s : CreateSettings) (f : FileNode) (env : Environment)
    (place : Cursor) : Creation × Memory → Creation × Memory → Prop
  | wrote {x y : Creation × Memory} (preExisted : Bool) (bytes : ByteArray) :
      (preExisted ↔ x.2.HasFile (components place.path)) →
      (preExisted → s.options.overwrite) → IsContent f env bytes →
      Wrote place preExisted bytes x y → FileVisit mayFail s f env place x y
  | kept {c c' : Creation} {fs : Memory} : fs.HasFile (components place.path) →
      s.options.overwrite = false → c'.items = c.items →
      c'.summary.skipped = c.summary.skipped + 1 → c'.foldersFound = c.foldersFound →
      FileVisit mayFail s f env place (c, fs) (c', fs)
  /-- A folder is at the place. -/
  | blocked {c c' : Creation} {fs : Memory} :
      fs.slot? (components place.path) = some .folder → c.Same c' →
      FileVisit mayFail s f env place (c, fs) (c', fs)
  | failed {c c' : Creation} {fs : Memory} : mayFail → c.Same c' →
      FileVisit mayFail s f env place (c, fs) (c', fs)

/-- A file that is not kept is written, or cannot be. -/
lemma fileVisit_of_mayWrite (hpre : preExisted ↔ fs.HasFile (components place.path))
    (hoverwrite : preExisted → s.options.overwrite) {x : CreateM Unit}
    (hx : MayWrite mayFail s.limits.maxDownloadBytes place preExisted (IsContent f env) fs x)
    (c : Creation) :
    Ensures (Memory.serving mayFail s.limits.maxDownloadBytes) x c fs fun _ c' fs' =>
      FileVisit mayFail s f env place (c, fs) (c', fs') := by
  refine (hx c).mono fun _ c' fs' hwrite => ?_
  rcases hwrite with ⟨bytes, hbytes, hwrote⟩ | ⟨hmay, hsame, rfl⟩
  · exact .wrote preExisted bytes hpre hoverwrite hbytes hwrote
  · exact .failed hmay hsame

/-- **The visit of a file** writes it, finds it, or leaves all as it is. -/
theorem visitFile_ensures (hdry : s.options.dryRun = false) (hplanned : place.isPlanned = false)
    (htidy : fs.Tidy) (hparent : ¬ mayFail → fs.hasParent (components place.path))
    (hcan : ¬ mayFail → Supplies s f env) (c : Creation) :
    Ensures (Memory.serving mayFail s.limits.maxDownloadBytes) (visitFile s name f place env) c fs
      fun _ c' fs' => FileVisit mayFail s f env place (c, fs) (c', fs') := by
  have hwrite : ∀ preExisted : Bool, (preExisted ↔ fs.HasFile (components place.path)) →
      (preExisted → s.options.overwrite) → fs.slot? (components place.path) ≠ some .folder →
      Ensures (Memory.serving mayFail s.limits.maxDownloadBytes)
        (do writeFile s name f place env preExisted; pure (none : Option Unit)) c fs
        fun _ c' fs' => FileVisit mayFail s f env place (c, fs) (c', fs') := by
    intro preExisted hpre hoverwrite hfree
    rw [ensures_bind]
    refine (fileVisit_of_mayWrite hpre hoverwrite
      (writeFile_mayWrite hdry ⟨htidy, hfree, hparent⟩ hcan) c).mono fun _ _ _ h => ?_
    exact ensures_pure.mpr h
  rw [visitFile, ensures_bind, look, hplanned, if_neg (by simp), ask, ensures_call]
  intro reply fs' hserve
  rcases Memory.serving_cases (by simp [Call.path?]) hserve with
    ⟨rfl, rfl⟩ | ⟨hmay, rfl, e, he⟩
  · rcases fs'.slot?_trichotomy (components place.path) with hs | hs | hs
    · simp only [Memory.answer, Memory.entry_of_none hs]
      exact hwrite false (by simpa using fun h => h.ne_none hs) (by simp) (by simp [hs])
    · obtain ⟨size, hentry⟩ := Memory.entry_of_hasFile hs
      simp only [Memory.answer, hentry, Entry.isFolder, reduceCtorEq, decide_false,
        Bool.false_eq_true, ↓reduceIte]
      split_ifs with hoverwrite
      · exact hwrite true (by simpa using hs) (fun _ => hoverwrite) hs.ne_folder
      · simp only [count, log, ensures_bind, ensures_modify, ensures_pure]
        refine .kept hs (by simpa using hoverwrite) rfl rfl ?_
        simp [foldersFound, LogEntry.IsFolderFound, toString]
    · simp only [Memory.answer, Memory.entry_of_folder hs, Entry.isFolder, decide_true, ↓reduceIte]
      refine (quiet_giveUp (by simp [LogEntry.IsFolderFound, toString]) c fs').mono ?_
      rintro _ c' fs'' ⟨-, hsame, rfl⟩
      exact .blocked hs hsame
  · obtain rfl : .error e = reply := Option.some.inj he
    refine (quiet_giveUp (by simp [LogEntry.IsFolderFound, toString]) c fs').mono ?_
    rintro _ c' fs'' ⟨-, hsame, rfl⟩
    exact .failed hmay hsame

end Files

/-! ### Folders -/

/-- What the visit of a folder does. -/
inductive FolderVisit (mayFail : Prop) (place : Cursor) :
    Creation × Memory → Option (Unit × Bool) → Creation × Memory → Prop
  | made {c c' : Creation} {fs gs : Memory} : fs.slot? (components place.path) = none →
      c'.items = c.items.push ⟨place.path, .folder, false⟩ →
      c'.summary.skipped = c.summary.skipped → c'.foldersFound = c.foldersFound → gs.Tidy →
      (∀ k, k ≠ [] → k <+: components place.path → gs.slot? k = some .folder ∧ ¬ fs.HasFile k) →
      (∀ k, (k = [] ∨ ¬ k <+: components place.path) → gs.slot? k = fs.slot? k) →
      FolderVisit mayFail place (c, fs) (some ((), false)) (c', gs)
  | entered {c c' : Creation} {fs : Memory} :
      fs.slot? (components place.path) = some .folder → c'.items = c.items →
      c'.summary.skipped = c.summary.skipped → c'.foldersFound = c.foldersFound + 1 →
      FolderVisit mayFail place (c, fs) (some ((), false)) (c', fs)
  /-- A file is at the place. -/
  | blocked {c c' : Creation} {fs : Memory} : fs.HasFile (components place.path) → c.Same c' →
      FolderVisit mayFail place (c, fs) none (c', fs)
  | failed {c c' : Creation} {fs : Memory} : mayFail → c.Same c' →
      FolderVisit mayFail place (c, fs) none (c', fs)

section Folders

variable {mayFail : Prop} {cap : Nat} {place : Cursor} {fs : Memory} {s : CreateSettings}
  {name : String}

lemma makeFolder_ensures (htidy : fs.Tidy) (hnone : fs.slot? (components place.path) = none)
    (hparent : ¬ mayFail → fs.hasParent (components place.path)) (c : Creation) :
    Ensures (Memory.serving mayFail cap) (makeFolder name place) c fs fun opened c' fs' =>
      FolderVisit mayFail place (c, fs) opened (c', fs') := by
  have hfail : ∀ (e : Failure) (fs : Memory), mayFail →
      Ensures (Memory.serving mayFail cap)
        (do fail s!"Failed to create folder: {name}" e.message; pure (none : Option (Unit × Bool)))
        c fs fun opened c' fs' => FolderVisit mayFail place (c, fs) opened (c', fs') := by
    intro e fs hmay
    refine (quiet_giveUp (by simp [LogEntry.IsFolderFound, toString]) c fs).mono ?_
    rintro opened c' fs' ⟨rfl, hsame, rfl⟩
    exact .failed hmay hsame
  rw [makeFolder, ensures_bind, ask, ensures_call]
  intro reply fs' hserve
  rcases Memory.serving_cases (by simp [Call.path?]) hserve with
    ⟨rfl, rfl⟩ | ⟨hmay, rfl, e, he⟩
  · rcases Memory.makeFolder_cases htidy place.path with
      ⟨e, k, hrun, -⟩ | ⟨gs, hrun, hgs, hmade, hkept⟩
    · have hmay : mayFail := by
        by_contra hno
        obtain ⟨gs, hok, -⟩ := Memory.makeFolder_of_hasParent htidy hnone (hparent hno)
        simp [hok] at hrun
      simp only [Memory.answer, hrun]
      exact hfail e fs hmay
    · simp only [Memory.answer, hrun, count, record, log, ensures_bind, ensures_modify,
        ensures_pure]
      refine .made hnone rfl rfl ?_ hgs hmade hkept
      simp [foldersFound, LogEntry.IsFolderFound, toString]
  · obtain rfl : .error e = reply := Option.some.inj he
    exact hfail e fs' hmay

/-- **The visit of a folder** makes it, finds it, or leaves all as it is. -/
theorem enterFolder_ensures (hdry : s.options.dryRun = false) (hplanned : place.isPlanned = false)
    (htidy : fs.Tidy) (hparent : ¬ mayFail → fs.hasParent (components place.path))
    (c : Creation) :
    Ensures (Memory.serving mayFail cap) (enterFolder s name place) c fs fun opened c' fs' =>
      FolderVisit mayFail place (c, fs) opened (c', fs') := by
  rw [enterFolder, hplanned, if_neg (by simp), ensures_bind, ask, ensures_call]
  intro reply fs' hserve
  rcases Memory.serving_cases (by simp [Call.path?]) hserve with
    ⟨rfl, rfl⟩ | ⟨hmay, rfl, e, he⟩
  · rcases fs'.slot?_trichotomy (components place.path) with hs | hs | hs
    · simp only [Memory.answer, Memory.entry_of_none hs, hdry, Bool.false_eq_true, ↓reduceIte]
      exact makeFolder_ensures htidy hs hparent c
    · obtain ⟨size, hentry⟩ := Memory.entry_of_hasFile hs
      simp only [Memory.answer, hentry, Entry.isFolder, reduceCtorEq, decide_false,
        Bool.false_eq_true, ↓reduceIte]
      refine (quiet_giveUp (by simp [LogEntry.IsFolderFound, toString]) c fs').mono ?_
      rintro opened c' fs'' ⟨rfl, hsame, rfl⟩
      exact .blocked hs hsame
    · simp only [Memory.answer, Memory.entry_of_folder hs, Entry.isFolder, decide_true, ↓reduceIte,
        log, ensures_bind, ensures_modify, ensures_pure]
      refine .entered hs rfl rfl ?_
      simp [foldersFound, LogEntry.IsFolderFound, toString]
  · obtain rfl : .error e = reply := Option.some.inj he
    refine (quiet_giveUp (by simp [LogEntry.IsFolderFound, toString]) c fs').mono ?_
    rintro opened c' fs'' ⟨rfl, hsame, rfl⟩
    exact .failed hmay hsame

end Folders

end Creation

end Scaffold

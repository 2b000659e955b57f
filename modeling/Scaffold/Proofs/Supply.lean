import Mathlib.Tactic
import Scaffold.Creation
import Scaffold.Proofs.Run

/-!
Where the bytes of a file come from, and how a run counts.

* `Tally` is what a run has counted and recorded; tallies are added;
* `Outside.Serves`: what is fetched or generated is what some surroundings give;
* `Creation.supply?` is what the bytes of a file then are, if there are any: they do not
  depend on the files that are there;
* `Creation.Delivery` is what comes of a file that is written from its supply. Without one
  the visit fails; otherwise just these bytes are written and recorded, unless writing
  fails. `writeFile_delivers`: so it is with each source of a file.
-/

namespace Scaffold

open Variable

/-! ### Tallies -/

/-- What a run has counted, and what it has recorded. -/
@[ext]
structure Tally where
  folders : Nat := 0
  files : Nat := 0
  skipped : Nat := 0
  errors : Nat := 0
  items : List CreatedItem := []

namespace Tally

instance : Zero Tally := ⟨{}⟩

instance : Add Tally := ⟨fun a b => ⟨a.folders + b.folders, a.files + b.files,
  a.skipped + b.skipped, a.errors + b.errors, a.items ++ b.items⟩⟩

@[simp] lemma folders_zero : (0 : Tally).folders = 0 := rfl

@[simp] lemma files_zero : (0 : Tally).files = 0 := rfl

@[simp] lemma skipped_zero : (0 : Tally).skipped = 0 := rfl

@[simp] lemma errors_zero : (0 : Tally).errors = 0 := rfl

@[simp] lemma items_zero : (0 : Tally).items = [] := rfl

@[simp] lemma folders_add (a b : Tally) : (a + b).folders = a.folders + b.folders := rfl

@[simp] lemma files_add (a b : Tally) : (a + b).files = a.files + b.files := rfl

@[simp] lemma skipped_add (a b : Tally) : (a + b).skipped = a.skipped + b.skipped := rfl

@[simp] lemma errors_add (a b : Tally) : (a + b).errors = a.errors + b.errors := rfl

@[simp] lemma items_add (a b : Tally) : (a + b).items = a.items ++ b.items := rfl

instance : AddMonoid Tally where
  add_assoc a b c := by ext1 <;> simp [Nat.add_assoc]
  zero_add a := by ext1 <;> simp
  add_zero a := by ext1 <;> simp
  nsmul := nsmulRec

end Tally

/-! ### Supplies -/

/-- What comes from outside of the files is what some surroundings give. -/
def Outside.Gives (outside : Outside) : (c : Call) → c.Reply → Prop
  | .fetch url, reply => reply = outside.fetch url
  | .generate request, reply => reply = outside.generate request
  | _, _ => True

/-- Under a rule, what is fetched or generated is what some surroundings give, and asking
for it changes nothing. -/
def Outside.Serves {σ : Type} (outside : Outside) (rule : Run.Rule σ) : Prop :=
  ∀ s c reply s', rule s c reply s' → c.path? = none → s' = s ∧ outside.Gives c reply

namespace Creation

/-- What a run has counted and recorded. -/
def tally (c : Creation) : Tally where
  folders := c.summary.foldersCreated
  files := c.summary.filesCreated + c.summary.filesDownloaded + c.summary.filesGenerated
  skipped := c.summary.skipped
  errors := c.summary.errors
  items := c.items.toList

/-- What is saved of a download, and whether it is a rebuilt archive. -/
def prepared (name : String) (env : Environment) (bytes : ByteArray) : ByteArray × Bool :=
  match Archive.Kind.ofName? name with
  | none => (substituteBytes env bytes, false)
  | some kind =>
    match Archive.rebuild kind env bytes with
    | .ok rebuilt => (rebuilt, true)
    | .error _ => (bytes, false)

/-- What is fetched, if it can be, arrives and fits the limit. -/
def fetched? (s : CreateSettings) (outside : Outside) (url : String) : Option ByteArray := do
  guard s.equipment.canFetch
  let bytes ← (outside.fetch url).toOption
  guard (bytes.size ≤ s.limits.maxDownloadBytes)
  return bytes

/-- What a download is saved as, if its address is accepted and it is fetched. -/
def downloaded? (s : CreateSettings) (outside : Outside) (name raw : String)
    (env : Environment) : Option ByteArray := do
  let accepted ← (Url.guard (substitute env raw)).toOption
  let bytes ← fetched? s outside accepted.text
  return (prepared name env bytes).1

/-- What is generated, if it can be. -/
def generated? (s : CreateSettings) (outside : Outside) (request : Request) :
    Option ByteArray := do
  guard s.equipment.canGenerate
  (outside.generate request).toOption

/-- The bytes of a file, if there are any. -/
def supply? (s : CreateSettings) (outside : Outside) (name : String) (f : FileNode)
    (env : Environment) : Option ByteArray :=
  match f.source with
  | .url raw => downloaded? s outside name raw env
  | .generated kind _ => generated? s outside ⟨kind, name, f.generateConfig.map (substitute env),
      f.content.map (substitute env)⟩
  | .inline _ => some (renderContent env f.isTemplate (f.content.getD "")).1.toUTF8

/-- Nothing was counted or recorded in between. -/
def Uncounted (c c' : Creation) : Prop := c'.tally = c.tally

instance : Std.Refl Uncounted := ⟨fun _ => rfl⟩

instance : IsTrans Creation Uncounted := ⟨fun _ _ _ h h' => Eq.trans h' h⟩

/-- A program counts something, and leaves its surroundings alone. -/
def Counts {α σ : Type} (rule : Run.Rule σ) (x : CreateM α) (added : Tally) : Prop :=
  ∀ c s, Ensures rule x c s fun _ c' s' => s' = s ∧ c'.tally = c.tally + added

/-- What comes of a file that is written from its supply of bytes. -/
inductive Delivery {σ : Type} (rule : Run.Rule σ) (place : Cursor) (preExisted : Bool) :
    Option ByteArray → Creation × σ → Creation × σ → Prop
  | missing {c c' : Creation} {s : σ} : c'.tally = c.tally + { errors := 1 } →
      Delivery rule place preExisted none (c, s) (c', s)
  | saved {c c' : Creation} {s s' : σ} {bytes : ByteArray} :
      rule s (.write place.path bytes) (.ok ()) s' →
      c'.tally = c.tally + { files := 1, items := [⟨place.path, .file, preExisted⟩] } →
      Delivery rule place preExisted (some bytes) (c, s) (c', s')
  | unsaved {c c' : Creation} {s s' : σ} {bytes : ByteArray} (e : Failure) :
      rule s (.write place.path bytes) (.error e) s' → c'.tally = c.tally + { errors := 1 } →
      Delivery rule place preExisted (some bytes) (c, s) (c', s')

/-- A program writes a file from its supply of bytes. -/
def Delivers {α σ : Type} (rule : Run.Rule σ) (place : Cursor) (preExisted : Bool)
    (supply : Option ByteArray) (x : CreateM α) : Prop :=
  ∀ c s, Ensures rule x c s fun _ c' s' => Delivery rule place preExisted supply (c, s) (c', s')

section

variable {α β σ : Type} {rule : Run.Rule σ} {place : Cursor} {preExisted : Bool}
  {supply : Option ByteArray}

/-! ### Counting -/

/-- Adding to the log counts nothing. -/
lemma uncounted_log (kind : LogKind) (message : String) (details : Option String) :
    Keeps rule Uncounted (log kind message details) fun _ => True :=
  keeps_modify fun _ => rfl

lemma counts_note {change : CreationSummary → CreationSummary} {kind : LogKind}
    {message : String} {details : Option String} {added : Tally}
    (h : ∀ c : Creation, tally { c with summary := change c.summary } = c.tally + added) :
    Counts rule (do count change; log kind message details) added := by
  intro c s
  rw [ensures_bind, count, ensures_modify, log, ensures_modify]
  exact ⟨rfl, h c⟩

lemma counts_fail (message details : String) :
    Counts rule (fail message details) { errors := 1 } :=
  counts_note fun c => by ext1 <;> simp [tally]

/-- One more file is counted, however it came. -/
lemma tally_file (c : Creation) {created downloaded generated : Nat}
    (h : created + downloaded + generated = c.summary.filesCreated + c.summary.filesDownloaded +
      c.summary.filesGenerated + 1) :
    tally { c with summary := { c.summary with
      filesCreated := created, filesDownloaded := downloaded, filesGenerated := generated } } =
      c.tally + { files := 1 } := by
  ext1 <;> simp [tally, h]

/-! ### Deliveries -/

lemma delivers_fail (message details : String) :
    Delivers rule place preExisted none (fail message details) := by
  intro c s
  refine (counts_fail message details c s).mono ?_
  rintro _ c' s' ⟨rfl, htally⟩
  exact .missing htally

/-- What goes before counts nothing. -/
lemma Delivers.after {x : CreateM α} {f : α → CreateM β} {Q : α → Prop}
    (hx : Keeps rule Uncounted x Q) (hf : ∀ a, Q a → Delivers rule place preExisted supply (f a)) :
    Delivers rule place preExisted supply (x >>= f) := by
  intro c s
  rw [ensures_bind]
  refine (hx c s).mono ?_
  rintro a c' s' ⟨ha, htally, rfl⟩
  refine (hf a ha c' s').mono fun b c'' s'' hdelivery => ?_
  cases hdelivery with
  | missing hmore => exact .missing (by rw [hmore, htally])
  | saved hwrite hmore => exact .saved hwrite (by rw [hmore, htally])
  | unsaved e hwrite hmore => exact .unsaved e hwrite (by rw [hmore, htally])

/-- The bytes are written, and it is counted how that went. -/
lemma delivers_write {bytes : ByteArray} {f : Except Failure Unit → CreateM β}
    (herror : ∀ e, Counts rule (f (.error e)) { errors := 1 })
    (hok : Counts rule (f (.ok ())) { files := 1 }) :
    Delivers rule place preExisted (some bytes) (write place bytes preExisted >>= f) := by
  intro c s
  rw [ensures_bind, write, ensures_bind, ask, ensures_call]
  intro reply s' hwrite
  rcases reply with e | ⟨⟩
  · simp only [ensures_pure]
    refine (herror e c s').mono ?_
    rintro _ c' s'' ⟨rfl, htally⟩
    exact .unsaved e hwrite htally
  · simp only [ensures_bind, record, ensures_modify, ensures_pure]
    refine (hok _ s').mono ?_
    rintro _ c' s'' ⟨rfl, htally⟩
    refine .saved hwrite (htally.trans ?_)
    ext1 <;> simp [tally]

lemma prepareDownload_uncounted (name : String) (env : Environment) (bytes : ByteArray) :
    Keeps rule Uncounted (prepareDownload name env bytes) (· = prepared name env bytes) := by
  unfold prepareDownload
  split
  · rename_i hkind
    exact keeps_pure (by rw [prepared, hkind])
  · rename_i kind hkind
    split
    · rename_i rebuilt hrebuilt
      exact keeps_pure (by simp only [prepared, hkind, hrebuilt])
    · rename_i fault hfault
      exact (uncounted_log _ _ _).bind fun _ _ =>
        keeps_pure (by simp only [prepared, hkind, hfault])

variable {s : CreateSettings} {outside : Outside}

lemma fetch_uncounted (hrule : outside.Serves rule) (url : String) :
    Keeps rule Uncounted (fetch s url) fun r => r.toOption = fetched? s outside url := by
  intro c st
  unfold fetch fetched?
  split_ifs with hno
  · have hcannot : s.equipment.canFetch = false := by simpa using hno
    exact ensures_pure.mpr ⟨by simp [hcannot, Except.toOption], rfl, rfl⟩
  rw [ensures_bind, ask, ensures_call]
  intro reply st' hserve
  obtain ⟨rfl, rfl⟩ := hrule _ _ _ _ hserve rfl
  have hcan : s.equipment.canFetch = true := by simpa using hno
  rcases hfetched : outside.fetch url with e | bytes
  · exact ensures_pure.mpr ⟨by simp [hcan, Except.toOption], rfl, rfl⟩
  · dsimp only
    split_ifs with hsize
    · exact ensures_pure.mpr ⟨by simp [hcan, Except.toOption, Nat.not_le.mpr hsize], rfl, rfl⟩
    · exact ensures_pure.mpr ⟨by simp [hcan, Except.toOption, Nat.le_of_not_lt hsize], rfl, rfl⟩

lemma generateBytes_uncounted (hrule : outside.Serves rule) (request : Request) :
    Keeps rule Uncounted (generateBytes s request)
      fun r => r.toOption = generated? s outside request := by
  intro c st
  unfold generateBytes generated?
  split_ifs with hno
  · have hcannot : s.equipment.canGenerate = false := by simpa using hno
    exact ensures_pure.mpr ⟨by simp [hcannot, Except.toOption], rfl, rfl⟩
  rw [ask, ensures_call]
  intro reply st' hserve
  obtain ⟨rfl, rfl⟩ := hrule _ _ _ _ hserve rfl
  have hcan : s.equipment.canGenerate = true := by simpa using hno
  exact ⟨by simp [hcan], rfl, rfl⟩

lemma reportFault_uncounted (name : String) (fault : Option TemplateError) :
    Keeps rule Uncounted (reportFault name fault) fun _ => True := by
  cases fault with
  | none => exact keeps_pure trivial
  | some e => exact uncounted_log _ _ _

variable {name : String} {f : FileNode} {env : Environment}

section Files

variable (hdry : s.options.dryRun = false) (hrule : outside.Serves rule)

include hdry hrule

lemma download_delivers (raw : String) :
    Delivers rule place preExisted (downloaded? s outside name raw env)
      (download s name raw place env preExisted) := by
  unfold download downloaded?
  rcases Url.guard (substitute env raw) with fault | accepted
  · exact delivers_fail _ _
  simp only [hdry, Bool.false_eq_true, ↓reduceIte, Except.toOption]
  refine Delivers.after (fetch_uncounted hrule _) fun r hr => ?_
  rw [Option.bind_eq_bind, Option.bind_some, ← hr]
  rcases r with e | bytes
  · exact delivers_fail _ _
  refine Delivers.after (prepareDownload_uncounted _ _ _) ?_
  rintro _ rfl
  exact delivers_write (fun _ => counts_fail _ _) (counts_note fun c => tally_file c (by omega))

lemma generate_delivers (kind : GeneratorKind) :
    Delivers rule place preExisted (generated? s outside ⟨kind, name,
      f.generateConfig.map (substitute env), f.content.map (substitute env)⟩)
      (generate s name kind f place env preExisted) := by
  unfold generate
  simp only [hdry, Bool.false_eq_true, ↓reduceIte]
  refine Delivers.after (generateBytes_uncounted hrule _) fun r hr => ?_
  rw [← hr]
  rcases r with e | bytes
  · exact delivers_fail _ _
  · exact delivers_write (fun _ => counts_fail _ _) (counts_note fun c => tally_file c (by omega))

omit hrule in
lemma writeInline_delivers :
    Delivers rule place preExisted
      (some (renderContent env f.isTemplate (f.content.getD "")).1.toUTF8)
      (writeInline s name f place env preExisted) := by
  simp only [writeInline, writeText, hdry, Bool.false_eq_true, ↓reduceIte]
  refine Delivers.after (reportFault_uncounted _ _) fun _ _ => ?_
  exact delivers_write (fun _ => counts_fail _ _) (counts_note fun c => tally_file c (by omega))

/-- **A file is written from its supply**, whatever its source is. -/
theorem writeFile_delivers :
    Delivers rule place preExisted (supply? s outside name f env)
      (writeFile s name f place env preExisted) := by
  unfold writeFile supply?
  cases f.source with
  | url raw => exact download_delivers hdry hrule raw
  | generated kind config => exact generate_delivers hdry hrule kind
  | inline content => exact writeInline_delivers hdry

end Files

end

end Creation

end Scaffold

import Mathlib.Tactic
import Scaffold.Proofs.Containment
import Scaffold.Proofs.Trace

/-!
What a run that creates cannot see: the bytes of the files that are there.

* `Blind`: from two related states of a host, a program gives the same result, and leaves
  related states. Which states are related may depend on the program's own state;
* `Visitor.Blind`: so it is for each visit. Then so it is for a plan (`Blind.perform`);
* `Memory.SamePaths`: two file systems with the same folders, and with files at the same
  paths;
* `Creation.Twins`: what is kept along two runs side by side. The files that are recorded
  hold the same, and each of the others holds what it held before;
* `create_blind_to_bytes`: creating leads from the same paths to the same paths, with the
  same result.
-/

namespace Scaffold

open Scaffold.Path Variable

variable {α β ρ σ : Type}

/-! ### Programs -/

/-- Carried out from two related states of a host, a program gives the same result and ends
in the same state of its own, and the states of the host are related again. -/
def Blind (host : Host (StateM σ)) (R : ρ → σ → σ → Prop) (x : StateT ρ Run α) : Prop :=
  ∀ t s s', R t s s' → ∃ a t₁ s₁ s₁', carryOut host x (t, s) = (a, t₁, s₁) ∧
    carryOut host x (t, s') = (a, t₁, s₁') ∧ R t₁ s₁ s₁'

section Programs

variable {host : Host (StateM σ)} {R : ρ → σ → σ → Prop}

lemma carryOut_bind (x : StateT ρ Run α) (f : α → StateT ρ Run β) (s : ρ × σ) :
    carryOut host (x >>= f) s = carryOut host (f (carryOut host x s).1) (carryOut host x s).2 := by
  rw [carryOut, StateT.run_bind, Run.on_bind]
  rfl

lemma blind_pure (a : α) : Blind host R (pure a) :=
  fun t s s' h => ⟨a, t, s, s', rfl, rfl, h⟩

/-- A change of the program's own state that does not count for the relation. -/
lemma blind_modify {change : ρ → ρ} (h : ∀ t s s', R t s s' → R (change t) s s') :
    Blind host R (modify change) :=
  fun t s s' hR => ⟨⟨⟩, change t, s, s', rfl, rfl, h t s s' hR⟩

/-- A call that is answered alike in related states. -/
lemma blind_call {c : Call} (h : ∀ t s s', R t s s' →
    (host c s).1 = (host c s').1 ∧ R t (host c s).2 (host c s').2) :
    Blind host R (liftM (Run.call c)) := by
  intro t s s' hR
  obtain ⟨hreply, hstate⟩ := h t s s' hR
  refine ⟨(host c s).1, t, (host c s).2, (host c s').2, rfl, ?_, hstate⟩
  rw [hreply]
  rfl

lemma Blind.bind {x : StateT ρ Run α} {f : α → StateT ρ Run β} (hx : Blind host R x)
    (hf : ∀ a, Blind host R (f a)) : Blind host R (x >>= f) := by
  intro t s s' hR
  obtain ⟨a, t₁, s₁, s₁', hfirst, hfirst', hR₁⟩ := hx t s s' hR
  obtain ⟨b, t₂, s₂, s₂', hsecond, hsecond', hR₂⟩ := hf a t₁ s₁ s₁' hR₁
  refine ⟨b, t₂, s₂, s₂', ?_, ?_, hR₂⟩
  · rw [carryOut_bind, hfirst, hsecond]
  · rw [carryOut_bind, hfirst', hsecond']

/-- The same where the first part may fail. -/
lemma Blind.bindResult {ε : Type} {x : StateT ρ Run (Except ε α)}
    {f : Except ε α → StateT ρ Run β} (hx : Blind host R x)
    (herror : ∀ e, Blind host R (f (.error e))) (hok : ∀ a, Blind host R (f (.ok a))) :
    Blind host R (x >>= f) :=
  hx.bind fun result => match result with
    | .error e => herror e
    | .ok a => hok a

end Programs

/-! ### Plans -/

variable {Item Opened : Type}

/-- Each visit is blind to what related states differ in. -/
structure Visitor.Blind (v : Visitor (StateT ρ Run) Item Opened) (host : Host (StateM σ))
    (R : ρ → σ → σ → Prop) : Prop where
  report : ∀ entry, Scaffold.Blind host R (v.report entry)
  enterFolder : ∀ name place, Scaffold.Blind host R (v.enterFolder name place)
  leaveFolder : ∀ opened items, Scaffold.Blind host R (v.leaveFolder opened items)
  file : ∀ name f place env, Scaffold.Blind host R (v.file name f place env)
  group : ∀ label place items, Scaffold.Blind host R (v.group label place items)
  invalidName : ∀ kind place, Scaffold.Blind host R (v.invalidName kind place)

namespace Visitor.Blind

variable {v : Visitor (StateT ρ Run) Item Opened} {host : Host (StateM σ)} {R : ρ → σ → σ → Prop}

lemma openFolder (hv : v.Blind host R) (name : String) (place : Cursor)
    {walkChildren : Cursor → StateT ρ Run (List Item)}
    (hinside : ∀ inner, Scaffold.Blind host R (walkChildren inner)) :
    Scaffold.Blind host R (Plan.openFolder v name place walkChildren) := by
  refine (hv.enterFolder _ _).bind fun opened => ?_
  cases opened with
  | none => exact blind_pure _
  | some opened => exact (hinside _).bind fun items => hv.leaveFolder _ _

/-- **A plan is blind** to what each of its visits is blind to. -/
theorem perform (hv : v.Blind host R) (p : Plan) (place : Cursor) :
    Scaffold.Blind host R (p.perform v place) := by
  induction p generalizing place with
  | done => exact blind_pure _
  | report notice next ih => exact (hv.report _).bind fun _ => ih place
  | refused kind next ih =>
      refine (hv.invalidName kind place).bind fun item => ?_
      exact (ih place).bind fun items => blind_pure _
  | file name f env next ih =>
      refine (hv.file name f _ env).bind fun item => ?_
      exact (ih place).bind fun items => blind_pure _
  | folder name inside next ihInside ih =>
      refine (hv.openFolder name place ihInside).bind fun item => ?_
      exact (ih place).bind fun items => blind_pure _
  | group label inside next ihInside ih =>
      refine (ihInside place).bind fun children => ?_
      refine (hv.group label place children).bind fun item => ?_
      exact (ih place).bind fun items => blind_pure _

end Visitor.Blind

/-! ### File systems with the same paths -/

namespace Memory

/-- The same folders, and files at the same paths, whatever these hold. -/
structure SamePaths (fs gs : Memory) : Prop where
  file : ∀ key, fs.HasFile key ↔ gs.HasFile key
  folder : ∀ key, fs.slot? key = some .folder ↔ gs.slot? key = some .folder

/-- Setting a file gives its path bytes, and leaves alone those of the others. -/
lemma bytes?_set_file (fs : Memory) (path old other : String) (bytes : ByteArray) :
    (fs.set (components path) (.file old bytes)).bytes? other =
      if components other = components path then some bytes else fs.bytes? other := by
  split_ifs with h
  · rw [bytes?, h, slot?_set_self]
  · rw [bytes?, slot?_set_of_ne _ _ h, bytes?]

/-- Making folders leaves the bytes of files alone. -/
lemma makeFolder_bytes? (fs : Memory) (made path : String) :
    (fs.makeFolder made).2.bytes? path = fs.bytes? path := by
  have hiff : ∀ {fs : Memory} {bytes}, fs.bytes? path = some bytes ↔
      ∃ old, fs.slot? (components path) = some (.file old bytes) := by
    intro fs bytes
    rcases hs : fs.slot? (components path) with _ | ⟨old, b⟩ | _ <;> simp [bytes?, hs]
  refine Option.ext fun bytes => ?_
  rw [hiff, hiff]
  exact exists_congr fun old => makeFolders_file_iff fs [] _ _ old bytes

namespace SamePaths

variable {fs gs : Memory}

lemma refl (fs : Memory) : fs.SamePaths fs := ⟨fun _ => Iff.rfl, fun _ => Iff.rfl⟩

lemma none (h : fs.SamePaths gs) {key : Key} (hs : fs.slot? key = none) :
    gs.slot? key = none := by
  rcases gs.slot?_trichotomy key with hg | hg | hg
  · exact hg
  · exact absurd hs ((h.file key).mpr hg).ne_none
  · exact absurd hs (by simp [(h.folder key).mpr hg])

/-- What is at a path is of the same kind. -/
lemma entry_kind (h : fs.SamePaths gs) (path : String) :
    (fs.entry path).map Entry.kind = (gs.entry path).map Entry.kind := by
  rcases fs.slot?_trichotomy (components path) with hs | hs | hs
  · rw [entry_of_none hs, entry_of_none (h.none hs)]
  · obtain ⟨size, hentry⟩ := entry_of_hasFile hs
    obtain ⟨size', hentry'⟩ := entry_of_hasFile ((h.file _).mp hs)
    rw [hentry, hentry']
    rfl
  · rw [entry_of_folder hs, entry_of_folder ((h.folder _).mp hs)]

lemma hasParent_eq (h : fs.SamePaths gs) (key : Key) : fs.hasParent key = gs.hasParent key := by
  unfold hasParent
  split
  · rfl
  · rfl
  · rename_i parent hne hparent
    exact decide_eq_decide.mpr (h.folder parent)

/-- A file is set, or a folder is, in both. -/
lemma set (h : fs.SamePaths gs) (key : Key) {slot slot' : Slot}
    (hkind : slot = .folder ↔ slot' = .folder) :
    (fs.set key slot).SamePaths (gs.set key slot') := by
  have hfile : ∀ {fs : Memory} {slot : Slot},
      (fs.set key slot).HasFile key ↔ slot ≠ .folder := by
    intro fs slot
    cases slot <;> simp [HasFile]
  refine ⟨fun k => ?_, fun k => ?_⟩
  · by_cases hk : k = key
    · rw [hk, hfile, hfile, Ne, Ne, hkind]
    · have hk' := h.file k
      rwa [HasFile, HasFile, slot?_set_of_ne _ _ hk, slot?_set_of_ne _ _ hk]
  · by_cases hk : k = key
    · rw [hk, slot?_set_self, slot?_set_self, Option.some.injEq, Option.some.injEq, hkind]
    · rw [slot?_set_of_ne _ _ hk, slot?_set_of_ne _ _ hk]
      exact h.folder k

/-- Folders are made alike. -/
lemma makeFolders (h : fs.SamePaths gs) (done rest : Key) :
    (fs.makeFolders done rest).1 = (gs.makeFolders done rest).1 ∧
      (fs.makeFolders done rest).2.SamePaths (gs.makeFolders done rest).2 := by
  induction rest generalizing fs gs done with
  | nil => exact ⟨rfl, h⟩
  | cons component rest ih =>
      simp only [Memory.makeFolders]
      rcases fs.slot?_trichotomy (done ++ [component]) with hs | hs | hs
      · rw [hs, h.none hs]
        exact ih (h.set _ Iff.rfl) _
      · obtain ⟨old', b', hs'⟩ := (h.file _).mp hs
        obtain ⟨old, b, hs⟩ := hs
        rw [hs, hs']
        exact ⟨rfl, h⟩
      · rw [hs, (h.folder _).mp hs]
        exact ih h _

/-- A file is written in both, or in none of them for the same reason. -/
lemma write (h : fs.SamePaths gs) (path : String) (bytes : ByteArray) :
    (∃ e, fs.write path bytes = (.error e, fs) ∧ gs.write path bytes = (.error e, gs)) ∨
    ∃ old old', fs.write path bytes = (.ok (), fs.set (components path) (.file old bytes)) ∧
      gs.write path bytes = (.ok (), gs.set (components path) (.file old' bytes)) := by
  by_cases hslot : fs.slot? (components path) = some .folder
  · refine .inl ⟨.filesystem path "A directory with this name already exists", ?_, ?_⟩
    · rw [Memory.write, hslot]
    · rw [Memory.write, (h.folder _).mp hslot]
  have hslot' : gs.slot? (components path) ≠ some .folder := fun hg => hslot ((h.folder _).mpr hg)
  by_cases hparent : fs.hasParent (components path)
  · have hparent' : gs.hasParent (components path) := h.hasParent_eq _ ▸ hparent
    exact .inr ⟨_, _, write_eq_set bytes hslot hparent, write_eq_set bytes hslot' hparent'⟩
  · have hparent' : ¬ gs.hasParent (components path) := h.hasParent_eq _ ▸ hparent
    have hfails : ∀ {fs : Memory}, fs.slot? (components path) ≠ some .folder →
        ¬ fs.hasParent (components path) →
        fs.write path bytes =
          (.error (.filesystem path "Parent directory does not exist"), fs) := by
      intro fs hslot hparent
      rcases hs : fs.slot? (components path) with _ | ⟨old, b⟩ | _
      · simp [Memory.write, hs, hparent]
      · simp [Memory.write, hs, hparent]
      · exact absurd hs hslot
    exact .inl ⟨_, hfails hslot hparent, hfails hslot' hparent'⟩

end SamePaths

end Memory

/-! ### Creating -/

namespace Creation

/-- A file of a path is recorded. -/
def RecordsFile (c : Creation) (path : String) : Prop :=
  ∃ item ∈ c.items, item.kind = .file ∧ components item.path = components path

/-- Two runs side by side, which began with file systems of the same paths: they still have
the same paths, the files that are recorded hold the same, and each of the others holds what
it held before. -/
structure Twins (before before' : Memory) (c : Creation) (fs gs : Memory) : Prop where
  paths : fs.SamePaths gs
  recorded : ∀ path, c.RecordsFile path →
    ∃ bytes, fs.bytes? path = some bytes ∧ gs.bytes? path = some bytes
  kept : ∀ path, ¬ c.RecordsFile path →
    fs.bytes? path = before.bytes? path ∧ gs.bytes? path = before'.bytes? path

namespace Twins

variable {before before' fs gs fs' gs' : Memory} {c c' : Creation}

lemma start (h : before.SamePaths before') : Twins before before' {} before before' where
  paths := h
  recorded path hrec := by simp [RecordsFile] at hrec
  kept _ _ := ⟨rfl, rfl⟩

/-- Nothing has become of the files, and no other file is recorded. -/
lemma stays (h : Twins before before' c fs gs) (hpaths : fs'.SamePaths gs')
    (hitems : ∀ path, c'.RecordsFile path ↔ c.RecordsFile path)
    (hbytes : ∀ path, fs'.bytes? path = fs.bytes? path ∧ gs'.bytes? path = gs.bytes? path) :
    Twins before before' c' fs' gs' where
  paths := hpaths
  recorded path hrec := by
    rw [(hbytes path).1, (hbytes path).2]
    exact h.recorded path ((hitems path).mp hrec)
  kept path hrec := by
    rw [(hbytes path).1, (hbytes path).2]
    exact h.kept path fun hold => hrec ((hitems path).mpr hold)

/-- A file is written in both file systems, and recorded. -/
lemma write (h : Twins before before' c fs gs) (path old old' : String) (bytes : ByteArray)
    (preExisted : Bool) :
    Twins before before' { c with items := c.items.push ⟨path, .file, preExisted⟩ }
      (fs.set (components path) (.file old bytes))
      (gs.set (components path) (.file old' bytes)) := by
  have hitems : ∀ other,
      RecordsFile { c with items := c.items.push ⟨path, .file, preExisted⟩ } other ↔
        c.RecordsFile other ∨ components path = components other := by
    intro other
    simp [RecordsFile, or_and_right, exists_or]
  refine ⟨h.paths.set _ (by simp), fun other hrec => ?_, fun other hrec => ?_⟩
  · rw [Memory.bytes?_set_file, Memory.bytes?_set_file]
    split_ifs with hother
    · exact ⟨bytes, rfl, rfl⟩
    · exact h.recorded other (((hitems other).mp hrec).resolve_right (Ne.symm hother))
  · rw [hitems, not_or] at hrec
    rw [Memory.bytes?_set_file, Memory.bytes?_set_file, if_neg (Ne.symm hrec.2),
      if_neg (Ne.symm hrec.2)]
    exact h.kept other hrec.1

end Twins

section

variable {outside : Outside} {before before' : Memory} {s : CreateSettings} {place : Cursor}
  {env : Environment}

/-- Two runs side by side on a host that keeps its files in memory. -/
abbrev BlindToBytes {α : Type} (outside : Outside) (before before' : Memory) (x : CreateM α) :
    Prop :=
  Blind (Memory.host outside) (Twins before before') x

lemma blind_note {change : Creation → Creation} (h : ∀ c, (change c).items = c.items) :
    BlindToBytes outside before before' (modify change) :=
  blind_modify fun c _ _ hR =>
    hR.stays hR.paths (fun _ => by simp only [RecordsFile, h c]) fun _ => ⟨rfl, rfl⟩

lemma blind_count (change : CreationSummary → CreationSummary) :
    BlindToBytes outside before before' (count change) :=
  blind_note fun _ => rfl

lemma blind_log (kind : LogKind) (message : String) (details : Option String) :
    BlindToBytes outside before before' (log kind message details) :=
  blind_note fun _ => rfl

lemma blind_fail (message details : String) :
    BlindToBytes outside before before' (fail message details) :=
  (blind_count _).bind fun _ => blind_log _ _ _

lemma blind_report (entry : LogEntry) : BlindToBytes outside before before' (report entry) := by
  unfold report
  split
  · exact (blind_count _).bind fun _ => blind_log _ _ _
  · exact blind_log _ _ _

/-- Other calls than to the file system are answered alike. -/
lemma blind_outside {c : Call} (hc : c.path? = none) :
    BlindToBytes outside before before' (ask c) := by
  refine blind_call fun t fs gs hR => ?_
  cases c with
  | fetch _ | generate _ | command _ _ => exact ⟨rfl, hR⟩
  | entry _ | makeFolder _ | write _ _ | read _ | list _ | removeFile _ | removeFolder _ =>
      simp [Call.path?] at hc

/-- What is at a path may differ in size, where the size does not count for what follows. -/
lemma blind_entry {α : Type} {path : String} {f : Except Failure (Option Entry) → CreateM α}
    (hsize : ∀ kind size size', f (.ok (some ⟨kind, size⟩)) = f (.ok (some ⟨kind, size'⟩)))
    (hf : ∀ reply, BlindToBytes outside before before' (f reply)) :
    BlindToBytes outside before before' (ask (.entry path) >>= f) := by
  intro c fs gs hR
  have hgoes : f (.ok (fs.entry path)) = f (.ok (gs.entry path)) := by
    have hkind := hR.paths.entry_kind path
    rcases hfs : fs.entry path with _ | ⟨kind, size⟩ <;>
      rcases hgs : gs.entry path with _ | ⟨kind', size'⟩ <;> simp [hfs, hgs] at hkind
    · rfl
    · rw [hkind, hsize]
  obtain ⟨a, c₁, fs₁, gs₁, hrun, hrun', hR₁⟩ := hf (.ok (fs.entry path)) c fs gs hR
  rw [hgoes] at hrun'
  exact ⟨a, c₁, fs₁, gs₁, (carryOut_bind _ f _).trans hrun, (carryOut_bind _ f _).trans hrun', hR₁⟩

/-- A file that is written is recorded at once. -/
lemma blind_write (bytes : ByteArray) (preExisted : Bool) :
    BlindToBytes outside before before' (write place bytes preExisted) := by
  have hcall : ∀ c fs, carryOut (Memory.host outside) (ask (.write place.path bytes)) (c, fs) =
      ((fs.write place.path bytes).1, c, (fs.write place.path bytes).2) := fun _ _ => rfl
  intro c fs gs hR
  rcases hR.paths.write place.path bytes with ⟨e, hfs, hgs⟩ | ⟨old, old', hfs, hgs⟩
  · have hgo : ∀ fs : Memory, fs.write place.path bytes = (.error e, fs) →
        carryOut (Memory.host outside) (write place bytes preExisted) (c, fs) =
          (.error e, c, fs) := by
      intro fs hrun
      rw [write, carryOut_bind, hcall, hrun]
      rfl
    exact ⟨_, _, _, _, hgo fs hfs, hgo gs hgs, hR⟩
  · have hgo : ∀ fs fs' : Memory, fs.write place.path bytes = (.ok (), fs') →
        carryOut (Memory.host outside) (write place bytes preExisted) (c, fs) =
          (.ok (), { c with items := c.items.push ⟨place.path, .file, preExisted⟩ }, fs') := by
      intro fs fs' hrun
      rw [write, carryOut_bind, hcall, hrun]
      rfl
    exact ⟨_, _, _, _, hgo fs _ hfs, hgo gs _ hgs,
      hR.write place.path old old' bytes preExisted⟩

lemma blind_prepareDownload (name : String) (bytes : ByteArray) :
    BlindToBytes outside before before' (prepareDownload name env bytes) := by
  unfold prepareDownload
  split
  · exact blind_pure _
  · split
    · exact blind_pure _
    · exact (blind_log _ _ _).bind fun _ => blind_pure _

lemma blind_fetch (url : String) : BlindToBytes outside before before' (fetch s url) := by
  unfold fetch
  split
  · exact blind_pure _
  · refine Blind.bindResult (blind_outside rfl) (fun _ => blind_pure _) fun bytes => ?_
    dsimp only
    split <;> exact blind_pure _

lemma blind_download (name raw : String) (preExisted : Bool) :
    BlindToBytes outside before before' (download s name raw place env preExisted) := by
  unfold download
  split
  · exact blind_fail _ _
  · dsimp only
    split_ifs
    · exact (blind_count _).bind fun _ => blind_log _ _ _
    · refine (blind_fetch _).bindResult (fun _ => blind_fail _ _) fun fetched => ?_
      refine (blind_prepareDownload _ _).bind fun prepared => ?_
      refine (blind_write _ _).bindResult (fun _ => blind_fail _ _) fun _ => ?_
      exact (blind_count _).bind fun _ => blind_log _ _ _

lemma blind_generateBytes (request : Request) :
    BlindToBytes outside before before' (generateBytes s request) := by
  unfold generateBytes
  split
  · exact blind_pure _
  · exact blind_outside rfl

lemma blind_generate (name : String) (kind : GeneratorKind) (f : FileNode) (preExisted : Bool) :
    BlindToBytes outside before before' (generate s name kind f place env preExisted) := by
  unfold generate
  split_ifs
  · exact (blind_count _).bind fun _ => blind_log _ _ _
  · refine (blind_generateBytes _).bindResult (fun _ => blind_fail _ _) fun bytes => ?_
    refine (blind_write _ _).bindResult (fun _ => blind_fail _ _) fun _ => ?_
    exact (blind_count _).bind fun _ => blind_log _ _ _

lemma blind_writeInline (name : String) (f : FileNode) (preExisted : Bool) :
    BlindToBytes outside before before' (writeInline s name f place env preExisted) := by
  unfold writeInline
  obtain ⟨text, fault⟩ := renderContent env f.isTemplate (f.content.getD "")
  have hfault : BlindToBytes outside before before' (reportFault name fault) := by
    cases fault with
    | none => exact blind_pure _
    | some e => exact blind_log _ _ _
  refine hfault.bind fun _ => ?_
  unfold writeText
  split_ifs
  · exact (blind_count _).bind fun _ => blind_log _ _ _
  · refine (blind_write _ _).bindResult (fun _ => blind_fail _ _) fun _ => ?_
    exact (blind_count _).bind fun _ => blind_log _ _ _

lemma blind_writeFile (name : String) (f : FileNode) (preExisted : Bool) :
    BlindToBytes outside before before' (writeFile s name f place env preExisted) := by
  unfold writeFile
  split
  · exact blind_download _ _ _
  · exact blind_generate _ _ _ _
  · exact blind_writeInline _ _ _

/-- **The visit of a file** tells a file from a folder, and reads neither. -/
theorem blind_visitFile (name : String) (f : FileNode) :
    BlindToBytes outside before before' (visitFile s name f place env) := by
  unfold visitFile look
  split
  · exact (blind_writeFile _ _ _).bind fun _ => blind_pure _
  · refine blind_entry (fun _ _ _ => rfl) fun found => ?_
    split
    · exact (blind_fail _ _).bind fun _ => blind_pure _
    · exact (blind_writeFile _ _ _).bind fun _ => blind_pure _
    · rename_i entry
      split_ifs
      · exact (blind_fail _ _).bind fun _ => blind_pure _
      · exact (blind_writeFile _ _ _).bind fun _ => blind_pure _
      · exact (blind_count _).bind fun _ => (blind_log _ _ _).bind fun _ => blind_pure _

lemma blind_planFolder (name : String) :
    BlindToBytes outside before before' (planFolder name place) :=
  (blind_count _).bind fun _ => (blind_log _ _ _).bind fun _ => blind_pure _

/-- A folder that is made is no file. -/
lemma blind_makeFolder (name : String) :
    BlindToBytes outside before before' (makeFolder name place) := by
  have hmake : BlindToBytes outside before before' (ask (.makeFolder place.path)) := by
    refine blind_call fun c fs gs hR => ?_
    obtain ⟨hreply, hpaths⟩ := hR.paths.makeFolders [] (components place.path)
    refine ⟨hreply, hR.stays hpaths (fun _ => Iff.rfl) fun path => ?_⟩
    exact ⟨fs.makeFolder_bytes? _ path, gs.makeFolder_bytes? _ path⟩
  have hrecord : BlindToBytes outside before before' (record place .folder false) :=
    blind_modify fun c fs gs hR => hR.stays hR.paths
      (fun path => by simp [RecordsFile, or_and_right, exists_or]) fun _ => ⟨rfl, rfl⟩
  unfold makeFolder
  refine hmake.bindResult (fun _ => (blind_fail _ _).bind fun _ => blind_pure _) fun _ => ?_
  exact (blind_count _).bind fun _ => hrecord.bind fun _ =>
    (blind_log _ _ _).bind fun _ => blind_pure _

/-- **The visit of a folder** tells a file from a folder. -/
theorem blind_enterFolder (name : String) :
    BlindToBytes outside before before' (enterFolder s name place) := by
  unfold enterFolder
  split
  · exact blind_planFolder _
  · refine blind_entry (fun _ _ _ => rfl) fun found => ?_
    split
    · exact (blind_fail _ _).bind fun _ => blind_pure _
    · split_ifs
      · exact blind_planFolder _
      · exact blind_makeFolder _
    · rename_i entry
      split_ifs
      · exact (blind_log _ _ _).bind fun _ => blind_pure _
      · exact (blind_fail _ _).bind fun _ => blind_pure _

/-- Each visit of a run that creates is blind to the bytes of files. -/
lemma visitor_blind : (visitor s).Blind (Memory.host outside) (Twins before before') where
  report := blind_report
  enterFolder name _ := blind_enterFolder name
  leaveFolder _ _ := blind_pure _
  file name f _ _ := blind_visitFile name f
  group _ _ _ := blind_pure _
  invalidName _ _ := blind_pure _

end

end Creation

/-- Without commands, creating is what its walk does. -/
lemma create_on_eq_carryOut {s : CreateSettings} (hhooks : s.options.runHooks = false)
    (host : Host (StateM σ)) (schema : Schema) (output : String) (scope : Scope) (st : σ) :
    (create s schema output scope).on host st =
      (carryOut host ((Plan.ofRoot s.toWalkSettings schema.root scope).perform
        (Creation.visitor s) { path := output }) ({}, st)).2 := by
  rw [create, hhooks, walk_eq_perform]
  simp
  rfl

/-- **Existing bytes do not influence a create.** From two file systems in memory with the
same folders and with files at the same paths, creating without commands leads to the same
result, and to file systems which again have the same paths. Each file that is recorded holds
the same in both, and each other file holds what it held before. -/
theorem create_blind_to_bytes (s : CreateSettings) (hhooks : s.options.runHooks = false)
    (outside : Outside) (schema : Schema) (output : String) (scope : Scope)
    {before before' : Memory} (hbefore : before.SamePaths before') :
    ∃ c after after', (create s schema output scope).on (Memory.host outside) before = (c, after) ∧
      (create s schema output scope).on (Memory.host outside) before' = (c, after') ∧
      after.SamePaths after' ∧
      (∀ item ∈ c.items, item.kind = .file → ∃ bytes,
        after.bytes? item.path = some bytes ∧ after'.bytes? item.path = some bytes) ∧
      ∀ path, (∀ item ∈ c.items, item.kind = .file → components item.path ≠ components path) →
        after.bytes? path = before.bytes? path ∧ after'.bytes? path = before'.bytes? path := by
  have hvisitor : (Creation.visitor s).Blind (Memory.host outside)
      (Creation.Twins before before') := Creation.visitor_blind
  have hwalk := hvisitor.perform (Plan.ofRoot s.toWalkSettings schema.root scope)
    { path := output }
  obtain ⟨items, c, after, after', hrun, hrun', htwins⟩ := hwalk {} before before' (.start hbefore)
  refine ⟨c, after, after', ?_, ?_, htwins.paths, ?_, ?_⟩
  · rw [create_on_eq_carryOut hhooks, hrun]
  · rw [create_on_eq_carryOut hhooks, hrun']
  · exact fun item hitem hkind => htwins.recorded _ ⟨item, hitem, hkind, rfl⟩
  · refine fun path hpath => htwins.kept path ?_
    rintro ⟨item, hitem, hkind, hsame⟩
    exact hpath item hitem hkind hsame

/-- A file that is overwritten holds the same, whatever it held; the one beside it keeps its
own bytes. -/
theorem create_blind_to_bytes_of_overwritten :
    let s : CreateSettings :=
      { limits := {}, today := ⟨2024, 1, 1, by decide⟩, equipment := {},
        options := { overwrite := true } }
    let schema : Schema := { root := .file { name := "a", content := some "new" } }
    let filled (a b : ByteArray) : Memory :=
      ((Memory.empty.set (components "out") .folder).set (components "out/a")
        (.file "out/a" a)).set (components "out/b") (.file "out/b" b)
    s.options.runHooks = false ∧ (filled ⟨#[1]⟩ ⟨#[2]⟩).SamePaths (filled ⟨#[3, 4]⟩ ⟨#[]⟩) ∧
    ∃ c after after',
      (create s schema "out" default).on (Memory.host {}) (filled ⟨#[1]⟩ ⟨#[2]⟩) = (c, after) ∧
      (create s schema "out" default).on (Memory.host {}) (filled ⟨#[3, 4]⟩ ⟨#[]⟩) = (c, after') ∧
      (∃ bytes, after.bytes? "out/a" = some bytes ∧ after'.bytes? "out/a" = some bytes) ∧
      after.bytes? "out/b" = some ⟨#[2]⟩ ∧ after'.bytes? "out/b" = some ⟨#[]⟩ := by
  intro s schema filled
  have hpaths : (filled ⟨#[1]⟩ ⟨#[2]⟩).SamePaths (filled ⟨#[3, 4]⟩ ⟨#[]⟩) :=
    (((Memory.SamePaths.refl _).set _ Iff.rfl).set _ (by simp)).set _ (by simp)
  obtain ⟨c, after, after', hrun, hrun', -, hrec, hkept⟩ :=
    create_blind_to_bytes s rfl {} schema "out" default hpaths
  have hitems : c.items = #[⟨"out/a", .file, true⟩] := by
    have hcreate : ((create s schema "out" default).on (Memory.host {})
        (filled ⟨#[1]⟩ ⟨#[2]⟩)).1.items = #[⟨"out/a", .file, true⟩] := by decide +kernel
    rwa [hrun] at hcreate
  have hbeside := hkept "out/b" (by rw [hitems]; decide)
  exact ⟨rfl, hpaths, c, after, after', hrun, hrun',
    hrec ⟨"out/a", .file, true⟩ (by simp [hitems]) rfl, hbeside.1.trans (by decide),
    hbeside.2.trans (by decide)⟩

end Scaffold

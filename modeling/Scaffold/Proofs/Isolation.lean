import Mathlib.Tactic
import Scaffold.Proofs.Fidelity
import Scaffold.Proofs.Repetition

/-!
A run some of whose calls fail.

* `Memory.disrupted`: files are kept in memory, but writing fails at some keys, and making
  a folder at others;
* `Visit.IsCut`: these failures keep a visit from what it would do. Its file cannot be
  written, or a new folder that it needs cannot be made;
* `Visit.result?`: what is at the key of another visit afterwards. This depends on the
  visit and on what was at its key before the run, and on nothing else;
* `Creation.Lands`: between two states of a run some visits have come to their ends, and
  nothing else is changed. So it is for a plan (`perform_reaches`), by induction on the
  plan: a folder that cannot be made cuts off the visits below it, and no others;
* `failures_are_isolated`: hence two runs, one with and one without failures, end alike
  except where calls fail and below folders that are not made.
-/

namespace Scaffold

open Scaffold.Path Variable

namespace Memory

/-- A folder is there that was not there before. -/
def NewFolder (before after : Memory) (key : Key) : Prop :=
  before.slot? key ≠ some .folder ∧ after.slot? key = some .folder

/-- The calls that fail: writing at some keys, and making a folder at others. -/
def Breaks (writes folders : Set Key) : Call → Prop
  | .write path _ => components path ∈ writes
  | .makeFolder path => components path ∈ folders
  | _ => False

/-- Files are kept in memory, but some calls fail; those do nothing. What is fetched or
generated depends on what is asked for alone. -/
def disrupted (outside : Outside) (writes folders : Set Key) : Run.Rule Memory :=
  fun fs c reply fs' =>
    (Breaks writes folders c ∧ fs' = fs ∧ ∃ e, failing? e c = some reply) ∨
      (¬ Breaks writes folders c ∧ steady outside fs c reply fs')

section Disrupted

variable {outside : Outside} {writes folders : Set Key} {fs fs' : Memory}

/-- Where nothing fails all calls go through. -/
lemma disrupted_of_steady {c : Call} {reply : c.Reply} (h : steady outside fs c reply fs') :
    disrupted outside ∅ ∅ fs c reply fs' :=
  .inr ⟨by cases c <;> simp [Breaks], h⟩

lemma disrupted_serves : outside.Serves (disrupted outside writes folders) := by
  rintro fs c reply fs' (⟨hbreaks, -⟩ | ⟨-, hsteady⟩) hpath
  · cases c with
    | write _ _ | makeFolder _ => simp [Call.path?] at hpath
    | _ => exact absurd hbreaks (by simp [Breaks])
  · exact steady_serves outside fs c reply fs' hsteady hpath

/-- Looking at a path does not fail. -/
lemma disrupted_entry {path : String} {reply : (Call.entry path).Reply}
    (h : disrupted outside writes folders fs (.entry path) reply fs') :
    fs' = fs ∧ reply = .ok (fs.entry path) := by
  rcases h with ⟨hbreaks, -⟩ | ⟨-, ⟨hfs, hreply⟩, -⟩
  · exact absurd hbreaks (by simp [Breaks])
  · exact ⟨hfs, hreply (by simp [Call.path?])⟩

/-- Writing fails at some keys, and making a folder at others. -/
def disrupting (writes folders : List Key) : Faults
  | .write => writes
  | .makeFolder => folders
  | .read | .entry | .list | .removeFile | .removeFolder => []

/-- A host that keeps its files in memory may be made to fail just so. -/
lemma failing_disrupted (outside : Outside) (writes folders : List Key) :
    ((Memory.host outside).failing (disrupting writes folders)).Within id
      (disrupted outside {k | k ∈ writes} {k | k ∈ folders}) := by
  intro c fs
  have hbreaks : Breaks {k | k ∈ writes} {k | k ∈ folders} c ↔
      (disrupting writes folders).reply? c ≠ none := by
    cases c with
    | write path bytes =>
        by_cases hk : components path ∈ writes <;>
          simp [Breaks, disrupting, Faults.reply?, Faults.failure?, hk]
    | makeFolder path =>
        by_cases hk : components path ∈ folders <;>
          simp [Breaks, disrupting, Faults.reply?, Faults.failure?, hk]
    | _ => simp [Breaks, disrupting, Faults.reply?, Faults.failure?]
  rcases failing_cases outside (disrupting writes folders) c fs with
    ⟨hnone, hgo⟩ | ⟨hsome, hfs, hfail⟩
  · rw [hgo]
    exact .inr ⟨by simp [hbreaks, hnone], host_steady outside c fs⟩
  · exact .inl ⟨hbreaks.mpr hsome, hfs, hfail⟩

end Disrupted

/-- No folder can be made at a key where nothing is. -/
structure Unmade (folders : Set Key) (before : Memory) (key : Key) : Prop where
  fails : key ∈ folders
  ne_nil : key ≠ []
  new : before.slot? key = none

/-- Nothing is at a key where no folder can be made, or below it. -/
lemma Unmade.slot?_of_prefix {folders : Set Key} {before : Memory} {m key : Key}
    (h : Unmade folders before m) (hbefore : before.Tidy) (hpre : m <+: key) :
    before.slot? key = none := by
  obtain ⟨below, rfl⟩ := hpre
  by_cases hbelow : below = []
  · rw [hbelow, List.append_nil, h.new]
  · exact hbefore.below_eq_none h.ne_nil hbelow (by simp [h.new])

/-- None of the folders on the way to a key is one that cannot be made. -/
def Accessible (folders : Set Key) (before : Memory) (key : Key) : Prop :=
  ∀ m, Unmade folders before m → ¬ m <+: key

/-- A folder that is there before can be reached. -/
lemma Tidy.accessible {folders : Set Key} {before : Memory} {key : Key} (h : before.Tidy)
    (hkey : before.slot? key = some .folder) : Accessible folders before key :=
  fun m hm hpre => by simp [hm.slot?_of_prefix h hpre] at hkey

/-- On the way to a child there is the child itself, and what is on the way to its folder. -/
lemma Accessible.eq_of_prefix {folders : Set Key} {before : Memory} {place : Cursor}
    (h : Accessible folders before (components place.path)) {name : AcceptedName} {m : Key}
    (hm : Unmade folders before m) (hpre : m <+: components (place.descend name).path) :
    m = components (place.descend name).path := by
  rw [Cursor.components_descend] at hpre ⊢
  exact (List.prefix_concat_iff.mp hpre).resolve_right (h m hm)

end Memory

/-! ### The ends of visits -/

namespace Visit

/-- The name of a folder or a file that is visited. -/
def name (v : Visit) : String :=
  match v.key.getLast? with
  | some (.name text) => text
  | _ => ""

/-- What is at the key of a visit after a run, from what was there before. -/
def result? (s : CreateSettings) (outside : Outside) (before : Memory) (v : Visit) :
    Option Memory.Slot :=
  if v.isChange s.options.overwrite before then
    match v.file with
    | none => some .folder
    | some (f, env) =>
      match Creation.supply? s outside v.name f env with
      | none => before.slot? v.key
      | some bytes => some (.file (Memory.spelling v.path (before.slot? v.key)) bytes)
  else before.slot? v.key

/-- Failures keep a visit from what it would do. -/
inductive IsCut (writes folders : Set Key) (before : Memory) (v : Visit) : Prop
  | unwritten : v.file ≠ none → v.key ∈ writes → IsCut writes folders before v
  | unmade : v.file = none → Memory.Unmade folders before v.key → IsCut writes folders before v
  /-- A folder above is not made. -/
  | below (m : Key) : Memory.Unmade folders before m → m <+: v.key → m ≠ v.key →
      IsCut writes folders before v

open Classical in
/-- What is at the key of a visit after a run in which some calls may fail. -/
noncomputable def outcome? (s : CreateSettings) (outside : Outside) (writes folders : Set Key)
    (before : Memory) (v : Visit) : Option Memory.Slot :=
  if v.IsCut writes folders before then before.slot? v.key else v.result? s outside before

section Outcome

variable {s : CreateSettings} {outside : Outside} {writes folders : Set Key} {before : Memory}
  {v : Visit} {path shown : String} {f : FileNode} {env : Environment}

lemma name_descend (place : Cursor) (name : AcceptedName) (shown : String)
    (file : Option (FileNode × Environment)) :
    Visit.name ⟨(place.descend name).path, shown, file⟩ = name := by
  simp [Visit.name, key, Cursor.components_descend]

lemma outcome?_of_isCut (h : v.IsCut writes folders before) :
    v.outcome? s outside writes folders before = before.slot? v.key :=
  if_pos h

lemma outcome?_of_not_isCut (h : ¬ v.IsCut writes folders before) :
    v.outcome? s outside writes folders before = v.result? s outside before :=
  if_neg h

lemma isChange_of_none {overwrite : Bool} (h : before.slot? v.key = none) :
    v.isChange overwrite before := by
  simp [isChange, action_of_none h]

/-- A folder is not changed, whatever is visited there. -/
lemma isChange_of_folder {overwrite : Bool} (h : before.slot? v.key = some .folder) :
    v.isChange overwrite before = false := by
  rcases hfile : v.file with _ | p <;> simp [isChange, action, hfile, h]

/-- A file is changed if a file is visited there and files are overwritten. -/
lemma isChange_of_hasFile {overwrite : Bool} (h : before.HasFile v.key) :
    v.isChange overwrite before = (v.file.isSome && overwrite) := by
  obtain ⟨spelling, bytes, hs⟩ := h
  rcases hfile : v.file with _ | p
  · simp [isChange, action, hfile, hs]
  · cases overwrite <;> simp [isChange, action, hfile, hs]

/-- What is not changed stays. -/
lemma result?_of_not_isChange (h : v.isChange s.options.overwrite before = false) :
    v.result? s outside before = before.slot? v.key := by
  rw [result?, if_neg (by simp [h])]

lemma outcome?_of_not_isChange (h : v.isChange s.options.overwrite before = false) :
    v.outcome? s outside writes folders before = before.slot? v.key := by
  by_cases hcut : v.IsCut writes folders before
  · exact outcome?_of_isCut hcut
  · rw [outcome?_of_not_isCut hcut, result?_of_not_isChange h]

/-- A new folder is there afterwards. -/
lemma result?_folder (hfile : v.file = none) (h : before.slot? v.key = none) :
    v.result? s outside before = some .folder := by
  rw [result?, if_pos (isChange_of_none h), hfile]

/-- What is at the key of a file that can be written is what it is written from. -/
lemma result?_file (hfile : v.file = some (f, env))
    (hchange : v.isChange s.options.overwrite before) :
    v.result? s outside before = ((Creation.supply? s outside v.name f env).map
      (.file (Memory.spelling v.path (before.slot? v.key)))).or (before.slot? v.key) := by
  rw [result?, if_pos hchange, hfile]
  dsimp only
  cases Creation.supply? s outside v.name f env <;> rfl

/-- Only the visit of a folder makes a folder, where nothing was. -/
lemma eq_none_of_result?_folder (h : v.result? s outside before = some .folder)
    (hbefore : before.slot? v.key ≠ some .folder) : v.file = none ∧ before.slot? v.key = none := by
  by_cases hchange : v.isChange s.options.overwrite before
  · rw [result?, if_pos hchange] at h
    rcases hfile : v.file with _ | ⟨f, env⟩
    · rcases before.slot?_trichotomy v.key with hs | hs | hs
      · exact ⟨rfl, hs⟩
      · simp [isChange_of_hasFile hs, hfile] at hchange
      · exact absurd hs hbefore
    · simp only [hfile] at h
      split at h
      · exact absurd h hbefore
      · simp at h
  · exact absurd (result?_of_not_isChange (by simpa using hchange) ▸ h) hbefore

/-- Without failures no visit is cut off. -/
lemma not_isCut_empty : ¬ v.IsCut ∅ ∅ before := by
  rintro (⟨-, hkey⟩ | ⟨-, hunmade⟩ | ⟨m, hunmade, -⟩)
  · exact hkey
  · exact hunmade.fails
  · exact hunmade.fails

end Outcome

end Visit

namespace Creation

/-- Between two states some visits have come to their ends, and nothing else is changed. -/
structure Lands (ends : Visit → Option Memory.Slot) (visits : List Visit) (fs gs : Memory) :
    Prop where
  tidy : gs.Tidy
  kept : ∀ k, k ∉ visits.map Visit.key → gs.slot? k = fs.slot? k
  landed : ∀ v ∈ visits, gs.slot? v.key = ends v

/-- A walk is in a folder that is there and can be reached. The visits that are ahead come to
different keys, and find there what was there before. -/
structure Ahead (folders : Set Key) (before : Memory) (visits : List Visit) (place : Cursor)
    (fs : Memory) : Prop extends Inside place fs where
  accessible : Memory.Accessible folders before (components place.path)
  agrees : ∀ v ∈ visits, fs.slot? v.key = before.slot? v.key
  distinct : (visits.map Visit.key).Nodup

section Lands

variable {ends : Visit → Option Memory.Slot} {visits visits' : List Visit}
  {folders : Set Key} {before fs gs hs : Memory} {place : Cursor}

lemma Lands.append (h : Lands ends visits fs gs) (h' : Lands ends visits' gs hs)
    (hdistinct : ((visits ++ visits').map Visit.key).Nodup) :
    Lands ends (visits ++ visits') fs hs where
  tidy := h'.tidy
  kept k hk := by
    rw [List.map_append, List.mem_append, not_or] at hk
    exact (h'.kept k hk.2).trans (h.kept k hk.1)
  landed v hv := by
    rcases List.mem_append.mp hv with hv | hv
    · -- what comes later comes to other keys
      obtain ⟨-, -, hlater, -⟩ := Visit.apart_of_nodup hdistinct
      exact (h'.kept _ (hlater v hv)).trans (h.landed v hv)
    · exact h'.landed v hv

/-- Nothing is done, where all that is ahead ends as it was before. -/
lemma Ahead.lands (h : Ahead folders before visits place fs)
    (hends : ∀ v ∈ visits, ends v = before.slot? v.key) : Lands ends visits fs fs where
  tidy := h.tidy
  kept _ _ := rfl
  landed v hv := (h.agrees v hv).trans (hends v hv).symm

lemma Ahead.left (h : Ahead folders before (visits ++ visits') place fs) :
    Ahead folders before visits place fs where
  toInside := h.toInside
  accessible := h.accessible
  agrees v hv := h.agrees v (List.mem_append_left _ hv)
  distinct := (Visit.apart_of_nodup h.distinct).1

/-- Visits that have been made leave alone what the others still have ahead, wherever that is
walked from. -/
lemma Ahead.right {inner : Cursor} (h : Ahead folders before (visits ++ visits') place fs)
    (hdone : Lands ends visits fs gs) (hinner : Inside inner gs)
    (haccess : Memory.Accessible folders before (components inner.path)) :
    Ahead folders before visits' inner gs where
  toInside := hinner
  accessible := haccess
  agrees v hv := by
    obtain ⟨-, -, -, hearlier⟩ := Visit.apart_of_nodup h.distinct
    exact (hdone.kept _ (hearlier v hv)).trans (h.agrees v (List.mem_append_right _ hv))
  distinct := (Visit.apart_of_nodup h.distinct).2.1

end Lands

/-! ### Visits -/

section Visits

variable {s : CreateSettings} {outside : Outside} {writes folders : Set Key}
  {before fs gs : Memory} {place : Cursor} {name : AcceptedName} {f : FileNode}
  {env : Environment} {shown : String}

/-- In a folder that is there, a file is cut off only if it cannot be written, and a folder
only if it cannot be made. -/
lemma isCut_descend_iff
    (haccess : Memory.Accessible folders before (components place.path)) (writes : Set Key)
    (name : AcceptedName) (shown : String) (file : Option (FileNode × Environment)) :
    Visit.IsCut writes folders before ⟨(place.descend name).path, shown, file⟩ ↔
      (file ≠ none ∧ components (place.descend name).path ∈ writes) ∨
        (file = none ∧ Memory.Unmade folders before (components (place.descend name).path)) := by
  constructor
  · rintro (⟨hfile, hwrites⟩ | ⟨hfile, hunmade⟩ | ⟨m, hunmade, hpre, hne⟩)
    · exact .inl ⟨hfile, hwrites⟩
    · exact .inr ⟨hfile, hunmade⟩
    · exact absurd (haccess.eq_of_prefix hunmade hpre) hne
  · rintro (⟨hfile, hwrites⟩ | ⟨hfile, hunmade⟩)
    · exact .unwritten hfile hwrites
    · exact .unmade hfile hunmade

/-- A visit has come to its end when nothing is done, if that is its end. -/
lemma Lands.stay {ends : Visit → Option Memory.Slot} {v : Visit} (hfs : fs.Tidy)
    (h : fs.slot? v.key = ends v) : Lands ends [v] fs fs where
  tidy := hfs
  kept _ _ := rfl
  landed v' hv' := by
    obtain rfl := List.mem_singleton.mp hv'
    exact h

/-- So has one whose file is set to its end. -/
lemma Lands.setFile {ends : Visit → Option Memory.Slot} {v : Visit} {spelling : String}
    {bytes : ByteArray} (hfs : fs.Tidy) (hparent : fs.hasParent v.key)
    (hfree : fs.slot? v.key ≠ some .folder) (h : ends v = some (.file spelling bytes)) :
    Lands ends [v] fs (fs.set v.key (.file spelling bytes)) where
  tidy := by
    have hproper : v.key.Proper := components_proper v.path
    exact hfs.set hproper ((Memory.hasParent_iff hproper).mp hparent) (by simp)
      fun hfolder => absurd hfolder hfree
  kept k hk := Memory.slot?_set_of_ne _ _ (by simpa using hk)
  landed v' hv' := by
    obtain rfl := List.mem_singleton.mp hv'
    rw [Memory.slot?_set_self, h]

/-- A file is written from its supply where no folder is, in a folder that is there, unless
writing fails. -/
lemma Delivery.lands {here : Cursor} {preExisted : Bool} {c c' : Creation} {v : Visit}
    (h : Delivery (Memory.disrupted outside writes folders) here preExisted
      (supply? s outside v.name f env) (c, fs) (c', gs))
    (hpath : v.path = here.path) (hfile : v.file = some (f, env))
    (hcut : v.IsCut writes folders before ↔ v.key ∈ writes) (hfs : fs.Tidy)
    (hseen : fs.slot? v.key = before.slot? v.key) (hparent : fs.hasParent v.key)
    (hfree : fs.slot? v.key ≠ some .folder) (hchange : v.isChange s.options.overwrite before) :
    Lands (Visit.outcome? s outside writes folders before) [v] fs gs := by
  have hkey : components here.path = v.key := by rw [← hpath]; rfl
  have hresult : v.result? s outside before = _ := Visit.result?_file hfile hchange
  generalize supply? s outside v.name f env = supply at h hresult
  cases h with
  | missing htally =>
      refine .stay hfs ?_
      by_cases hwrites : v.key ∈ writes
      · rw [Visit.outcome?_of_isCut (hcut.mpr hwrites), hseen]
      · rw [Visit.outcome?_of_not_isCut (mt hcut.mp hwrites), hresult, hseen]
        rfl
  | saved hwrite htally =>
      rename_i bytes
      obtain ⟨-, -, e, he⟩ | ⟨hwrites, ⟨rfl, -⟩, -⟩ := hwrite
      · simp [Memory.failing?] at he
      rw [Memory.Breaks, hkey] at hwrites
      have hrun : fs.write here.path bytes =
          (.ok (), fs.set v.key (.file (Memory.spelling here.path (fs.slot? v.key)) bytes)) := by
        rw [Memory.write_eq_set bytes (by rwa [hkey]) (by rwa [hkey]), hkey]
      rw [Memory.answer, hrun]
      refine .setFile hfs hparent hfree ?_
      rw [Visit.outcome?_of_not_isCut (mt hcut.mp hwrites), hresult, hseen, hpath]
      rfl
  | unsaved e hwrite htally =>
      rename_i bytes
      obtain ⟨hwrites, rfl, -⟩ | ⟨-, ⟨-, hreply⟩, -⟩ := hwrite
      · rw [Memory.Breaks, hkey] at hwrites
        refine .stay hfs ?_
        rw [Visit.outcome?_of_isCut (hcut.mpr hwrites), hseen]
      · -- otherwise the file can be written
        have hok := hreply (by simp [Call.path?])
        rw [Memory.answer, Memory.write_eq_set bytes (by rwa [hkey]) (by rwa [hkey])] at hok
        simp at hok

/-- Started on a file system, a program brings some visits to their ends. -/
def Reaches {α : Type} (rule : Run.Rule Memory) (ends : Visit → Option Memory.Slot)
    (visits : List Visit) (fs : Memory) (x : CreateM α) : Prop :=
  ∀ c, Ensures rule x c fs fun _ _ fs' => Lands ends visits fs fs'

/-- **The visit of a file** comes to its end. -/
theorem visitFile_reaches (hdry : s.options.dryRun = false)
    (h : Ahead folders before [⟨(place.descend name).path, shown, some (f, env)⟩] place fs) :
    Reaches (Memory.disrupted outside writes folders)
      (Visit.outcome? s outside writes folders before)
      [⟨(place.descend name).path, shown, some (f, env)⟩] fs
      (visitFile s name f (place.descend name) env) := by
  intro c
  have hparent := h.hasParent name
  have hseen := h.agrees _ List.mem_cons_self
  have hreal : (place.descend name).isPlanned = false := h.real
  have hcut := isCut_descend_iff h.accessible writes name shown (some (f, env))
  have hname := Visit.name_descend place name shown (some (f, env))
  generalize hv : (⟨(place.descend name).path, shown, some (f, env)⟩ : Visit) = v at *
  have hpath : v.path = (place.descend name).path := by rw [← hv]
  have hfile : v.file = some (f, env) := by rw [← hv]
  have hkey : components (place.descend name).path = v.key := by rw [← hpath]; rfl
  generalize place.descend name = here at *
  have hwrite : ∀ preExisted : Bool, fs.slot? v.key ≠ some .folder →
      v.isChange s.options.overwrite before →
      Ensures (Memory.disrupted outside writes folders)
        (do writeFile s name f here env preExisted; pure (none : Option Unit)) c fs
        fun _ _ fs' => Lands (Visit.outcome? s outside writes folders before) [v] fs fs' := by
    intro preExisted hfree hchange
    rw [ensures_bind]
    refine (writeFile_delivers hdry Memory.disrupted_serves c fs).mono fun _ c' gs hdelivery => ?_
    rw [← hname] at hdelivery
    exact ensures_pure.mpr (hdelivery.lands hpath hfile (by simpa [hkey] using hcut) h.tidy hseen
      (hkey ▸ hparent) hfree hchange)
  have hstay : v.isChange s.options.overwrite before = false →
      Lands (Visit.outcome? s outside writes folders before) [v] fs fs := fun hchange =>
    .stay h.tidy (hseen.trans (Visit.outcome?_of_not_isChange hchange).symm)
  rw [visitFile, ensures_bind, look, hreal, if_neg (by simp), ask, ensures_call]
  intro reply fs' hreply
  obtain ⟨rfl, rfl⟩ := Memory.disrupted_entry hreply
  rcases fs'.slot?_trichotomy v.key with hs | hs | hs
  · simp only [Memory.entry_of_none (hkey ▸ hs)]
    exact hwrite false (by simp [hs]) (Visit.isChange_of_none (hseen ▸ hs))
  · have hbefore : before.HasFile v.key := by simpa only [Memory.HasFile, hseen] using hs
    obtain ⟨size, hentry⟩ := Memory.entry_of_hasFile (hkey ▸ hs)
    simp only [hentry, Entry.isFolder, reduceCtorEq, decide_false, Bool.false_eq_true, ↓reduceIte]
    split_ifs with hoverwrite
    · exact hwrite true hs.ne_folder
        (by simp [Visit.isChange_of_hasFile hbefore, hfile, hoverwrite])
    · simp only [count, log, ensures_bind, ensures_modify, ensures_pure]
      exact hstay (by simp [Visit.isChange_of_hasFile hbefore, hoverwrite])
  · simp only [Memory.entry_of_folder (hkey ▸ hs), Entry.isFolder, decide_true, ↓reduceIte, fail,
      count, log, ensures_bind, ensures_modify, ensures_pure]
    exact hstay (Visit.isChange_of_folder (hseen ▸ hs))

/-- What becomes of the visit of a folder: it is there afterwards, unless a file is in its
place or it cannot be made. -/
inductive Entering (ends : Visit → Option Memory.Slot) (folders : Set Key) (before : Memory)
    (v : Visit) : Option (Unit × Bool) → Memory → Memory → Prop
  | opened {fs gs : Memory} : ¬ before.HasFile v.key → ¬ Memory.Unmade folders before v.key →
      Lands ends [v] fs gs → gs.slot? v.key = some .folder →
      Entering ends folders before v (some ((), false)) fs gs
  | blocked {fs : Memory} : before.HasFile v.key → Lands ends [v] fs fs →
      Entering ends folders before v none fs fs
  | unmade {fs : Memory} : Memory.Unmade folders before v.key →
      Entering ends folders before v none fs fs

/-- Where nothing is, in a folder that is there, a folder is made, unless that fails. -/
lemma makeFolder_enters {here : Cursor} {v : Visit} (h : Inside place fs)
    (hpath : v.path = here.path) (hfile : v.file = none)
    (hkey : components here.path = components place.path ++ [.name name])
    (hcut : v.IsCut writes folders before ↔ Memory.Unmade folders before v.key)
    (hseen : fs.slot? v.key = before.slot? v.key) (hnone : before.slot? v.key = none)
    (shown : String) (c : Creation) :
    Ensures (Memory.disrupted outside writes folders) (makeFolder shown here) c fs
      fun opened _ fs' => Entering (Visit.outcome? s outside writes folders before) folders before v
        opened fs fs' := by
  have hv : components here.path = v.key := by rw [← hpath]; rfl
  have hne : components here.path ≠ [] := by simp [hkey]
  have hfree : fs.slot? (components here.path) = none := by rw [hv, hseen, hnone]
  have hparent : fs.hasParent (components here.path) := by
    have hproper := components_proper here.path
    rw [hkey] at hproper ⊢
    exact Memory.hasParent_concat hproper h.here
  rw [makeFolder, ensures_bind, ask, ensures_call]
  rintro reply gs (⟨hfails, rfl, e, he⟩ | ⟨hworks, ⟨rfl, hreply⟩, -⟩)
  · obtain rfl : .error e = reply := Option.some.inj he
    simp only [fail, count, log, ensures_bind, ensures_modify, ensures_pure]
    exact .unmade ⟨hv ▸ hfails, hv ▸ hne, hnone⟩
  · rw [hreply (by simp [Call.path?])]
    obtain ⟨gs, hrun, hgs, hmakes, hkept⟩ :=
      Memory.makeFolder_of_hasParent h.tidy hfree hparent
    simp only [Memory.answer, hrun, count, record, log, ensures_bind, ensures_modify, ensures_pure]
    have hunmade : ¬ Memory.Unmade folders before v.key := fun hunmade =>
      hworks (by rw [Memory.Breaks, hv]; exact hunmade.fails)
    have hfolder : gs.slot? v.key = some .folder := by
      rw [← hv]
      exact (hmakes _ hne (List.prefix_refl _)).1
    refine .opened (fun hfile => hfile.ne_none hnone) hunmade ⟨hgs, fun k hk => ?_, ?_⟩ hfolder
    · rw [hkey] at hmakes hkept
      refine h.tidy.slot?_of_made h.here hmakes hkept ?_
      rw [← hkey, hv]
      simpa using hk
    · intro v' hv'
      obtain rfl := List.mem_singleton.mp hv'
      rw [Visit.outcome?_of_not_isCut (mt hcut.mp hunmade), hfolder,
        Visit.result?_folder hfile hnone]

/-- **The visit of a folder** comes to its end. -/
theorem enterFolder_enters (hdry : s.options.dryRun = false) (h : Inside place fs)
    (haccess : Memory.Accessible folders before (components place.path)) (name : AcceptedName)
    (shown : String)
    (hseen : fs.slot? (Visit.key ⟨(place.descend name).path, shown, none⟩) =
      before.slot? (Visit.key ⟨(place.descend name).path, shown, none⟩)) (c : Creation) :
    Ensures (Memory.disrupted outside writes folders) (enterFolder s name (place.descend name)) c fs
      fun opened _ fs' => Entering (Visit.outcome? s outside writes folders before) folders before
        ⟨(place.descend name).path, shown, none⟩ opened fs fs' := by
  have hreal : (place.descend name).isPlanned = false := h.real
  have hdescend := Cursor.components_descend place name
  have hcut := isCut_descend_iff haccess writes name shown none
  generalize hv : (⟨(place.descend name).path, shown, none⟩ : Visit) = v at *
  have hpath : v.path = (place.descend name).path := by rw [← hv]
  have hfile : v.file = none := by rw [← hv]
  have hkey : components (place.descend name).path = v.key := by rw [← hpath]; rfl
  generalize place.descend name = here at *
  rw [hkey] at hcut
  have hstay : v.isChange s.options.overwrite before = false →
      Lands (Visit.outcome? s outside writes folders before) [v] fs fs := fun hchange =>
    .stay h.tidy (hseen.trans (Visit.outcome?_of_not_isChange hchange).symm)
  rw [enterFolder, hreal, if_neg (by simp), ensures_bind, ask, ensures_call]
  intro reply fs' hreply
  obtain ⟨rfl, rfl⟩ := Memory.disrupted_entry hreply
  rcases fs'.slot?_trichotomy v.key with hs | hs | hs
  · simp only [Memory.entry_of_none (hkey ▸ hs), hdry, Bool.false_eq_true, ↓reduceIte]
    exact makeFolder_enters h hpath hfile hdescend (by simpa using hcut) hseen (hseen ▸ hs) _ c
  · have hbefore : before.HasFile v.key := by simpa only [Memory.HasFile, hseen] using hs
    obtain ⟨size, hentry⟩ := Memory.entry_of_hasFile (hkey ▸ hs)
    simp only [hentry, Entry.isFolder, reduceCtorEq, decide_false, Bool.false_eq_true, ↓reduceIte,
      fail, count, log, ensures_bind, ensures_modify, ensures_pure]
    exact .blocked hbefore (hstay (by simp [Visit.isChange_of_hasFile hbefore, hfile]))
  · have hbefore : before.slot? v.key = some .folder := hseen ▸ hs
    simp only [Memory.entry_of_folder (hkey ▸ hs), Entry.isFolder, decide_true, ↓reduceIte, log,
      ensures_bind, ensures_modify, ensures_pure]
    refine .opened (fun hfile => hfile.ne_folder hbefore) (fun hunmade => ?_)
      (hstay (Visit.isChange_of_folder hbefore)) hs
    simp [hunmade.new] at hbefore

end Visits

/-! ### Plans -/

section Plans

variable {α β : Type} {s : CreateSettings} {outside : Outside} {writes folders : Set Key}
  {rule : Run.Rule Memory} {ends : Visit → Option Memory.Slot} {before fs : Memory}
  {visits visits' : List Visit} {place : Cursor}

/-- One program and then another bring the visits of both to their ends. -/
lemma Reaches.bind {x : CreateM α} {rest : α → CreateM β} (hx : Reaches rule ends visits fs x)
    (h : Ahead folders before (visits ++ visits') place fs)
    (hplace : components place.path ∉ visits.map Visit.key)
    (hrest : ∀ a fs', Ahead folders before visits' place fs' →
      Reaches rule ends visits' fs' (rest a)) :
    Reaches rule ends (visits ++ visits') fs (x >>= rest) := by
  intro c
  rw [ensures_bind]
  refine (hx c).mono fun a c' fs' hdone => ?_
  have hhere : Inside place fs' := ⟨hdone.tidy, h.real, (hdone.kept _ hplace).trans h.here⟩
  refine (hrest a fs' (h.right hdone hhere h.accessible) c').mono fun _ _ _ hmore => ?_
  exact hdone.append hmore h.distinct

/-- What is made of the results changes nothing. -/
lemma Reaches.map {x : CreateM α} {f : α → β} (hx : Reaches rule ends visits fs x) :
    Reaches rule ends visits fs (do let a ← x; pure (f a)) :=
  fun c => (hx c).map f

/-- A report leaves the files alone. -/
lemma report_bind_reaches {rest : CreateM α} (entry : LogEntry)
    (hrest : Reaches rule ends visits fs rest) :
    Reaches rule ends visits fs (do report entry; rest) := by
  intro c
  unfold report
  split_ifs
  · simp only [count, log, bind_assoc, ensures_bind, ensures_modify]
    exact hrest _
  · simp only [log, ensures_bind, ensures_modify]
    exact hrest _

/-- **A folder with what is in it.** If it cannot be made, then all visits below are cut off. -/
theorem openFolder_reaches (hdry : s.options.dryRun = false) {name : AcceptedName} {inside : Plan}
    (h : Ahead folders before
      ((Plan.folder name inside .done).visits before place.path place.relative) place fs)
    {walkChildren : Cursor → CreateM (List Unit)}
    (hinside : ∀ inner fs,
      Ahead folders before (inside.visits before inner.path inner.relative) inner fs →
      Reaches (Memory.disrupted outside writes folders)
        (Visit.outcome? s outside writes folders before)
        (inside.visits before inner.path inner.relative) fs (walkChildren inner)) :
    Reaches (Memory.disrupted outside writes folders)
      (Visit.outcome? s outside writes folders before)
      ((Plan.folder name inside .done).visits before place.path place.relative) fs
      (Plan.openFolder (visitor s) name place walkChildren) := by
  intro c
  have hseen := h.agrees _ (Plan.mem_visits_folder before place name inside .done)
  rw [Plan.openFolder, ensures_bind]
  refine (enterFolder_enters hdry h.toInside h.accessible name _ hseen c).mono
    fun opened c' fs' hentering => ?_
  cases hentering with
  | opened hnofile hunmade hdone hfolder =>
      rw [Plan.visits_folder_done hnofile] at h ⊢
      have haccess : Memory.Accessible folders before (components (place.descend name).path) := by
        intro m hm hpre
        obtain rfl := h.accessible.eq_of_prefix hm hpre
        exact hunmade hm
      have hnext : Ahead folders before (inside.visits before (place.descend name).path
          (place.descend name).relative) { place.descend name with
            isPlanned := (place.descend name).isPlanned || false } fs' :=
        h.right hdone ⟨hdone.tidy, Bool.or_eq_false_iff.mpr ⟨h.real, rfl⟩, hfolder⟩ haccess
      dsimp only
      rw [ensures_bind]
      refine (hinside _ fs' hnext c').mono fun _ _ _ hmore => ?_
      exact ensures_pure.mpr (hdone.append hmore h.distinct)
  | blocked hfile hdone =>
      rw [Plan.visits_folder_of_hasFile hfile]
      exact ensures_pure.mpr hdone
  | unmade hunmade =>
      refine ensures_pure.mpr (h.lands fun v hv => Visit.outcome?_of_isCut ?_)
      rw [Plan.visits_folder_done fun hfile => hfile.ne_none hunmade.new] at hv
      rcases List.mem_append.mp hv with hv | hv
      · obtain rfl := List.mem_singleton.mp hv
        exact .unmade rfl hunmade
      · obtain ⟨below, hbelow, hkey⟩ := Plan.key_of_mem_visits hv
        refine .below _ hunmade ⟨below, hkey.symm⟩ fun heq => hbelow ?_
        rw [hkey] at heq
        exact List.append_right_eq_self.mp heq.symm

/-- **A plan that is performed** brings its visits to their ends. -/
theorem perform_reaches (hdry : s.options.dryRun = false) (p : Plan) {place : Cursor}
    (h : Ahead folders before (p.visits before place.path place.relative) place fs) :
    Reaches (Memory.disrupted outside writes folders)
      (Visit.outcome? s outside writes folders before)
      (p.visits before place.path place.relative) fs (p.perform (visitor s) place) := by
  induction p generalizing place fs with
  | done => exact fun c => ensures_pure.mpr (h.lands (by simp))
  | report notice next ih => exact report_bind_reaches _ (ih h)
  | refused kind next ih => exact (ih h).map
  | file name f env next ih =>
      rw [Plan.visits_file_append] at h ⊢
      have hfile : Reaches (Memory.disrupted outside writes folders)
          (Visit.outcome? s outside writes folders before)
          ((Plan.file name f env .done).visits before place.path place.relative) fs
          (visitFile s name f (place.descend name) env) := visitFile_reaches hdry h.left
      exact hfile.bind h Plan.place_not_mem_visits fun _ fs' hahead => (ih hahead).map
  | folder name inside next ihInside ih =>
      rw [Plan.visits_folder_append] at h ⊢
      refine (openFolder_reaches hdry h.left fun inner fs' hinner => ihInside hinner).bind h
        Plan.place_not_mem_visits ?_
      exact fun _ fs' hahead => (ih hahead).map
  | group label inside next ihInside ih =>
      refine (ihInside h.left).bind h Plan.place_not_mem_visits fun children fs' hahead => ?_
      exact (ih hahead).map

/-- A run that creates in a folder that is there brings its visits to their ends. -/
theorem create_ensures_lands (hdry : s.options.dryRun = false)
    (hhooks : s.options.runHooks = false) {schema : Schema} {output : String} {scope : Scope}
    (hfs : fs.Tidy) (houtput : fs.slot? (components output) = some .folder)
    (hdistinct : ((s.visits schema output scope fs).map Visit.key).Nodup) :
    (create s schema output scope).Ensures (Memory.disrupted outside writes folders)
      (fun _ gs => Lands (Visit.outcome? s outside writes folders fs)
        (s.visits schema output scope fs) fs gs) fs := by
  have hahead : Ahead folders fs (s.visits schema output scope fs) { path := output } fs :=
    ⟨⟨hfs, rfl, houtput⟩, hfs.accessible houtput, fun _ _ => rfl, hdistinct⟩
  rw [create, walk_eq_perform, ensures_run, ensures_bind]
  refine (perform_reaches hdry _ hahead {}).mono fun _ c gs hdone => ?_
  rw [if_neg (by simp [hhooks])]
  exact ensures_pure.mpr hdone

/-- So does a host that carries it out. -/
theorem create_lands {σ : Type} {host : Host (StateM σ)} {view : σ → Memory}
    (hhost : host.Within view (Memory.disrupted outside writes folders))
    (hdry : s.options.dryRun = false) (hhooks : s.options.runHooks = false) (schema : Schema)
    (output : String) (scope : Scope) {start : σ} (hstart : (view start).Reachable)
    (houtput : (view start).isFolder output)
    (hdistinct : ((s.visits schema output scope (view start)).map Visit.key).Nodup) :
    Lands (Visit.outcome? s outside writes folders (view start))
      (s.visits schema output scope (view start)) (view start)
      (view ((create s schema output scope).on host start).2) :=
  hhost.on (create_ensures_lands hdry hhooks hstart.tidy (of_decide_eq_true houtput) hdistinct)

end Plans

/-! ### Two runs -/

section Compare

variable {s : CreateSettings} {outside : Outside} {writes folders : Set Key}
  {visits : List Visit} {before gs hs : Memory} {k m : Key}

/-- A new folder is made by the visit of a folder, where nothing was. -/
lemma Lands.of_newFolder (hgood : Lands (Visit.outcome? s outside ∅ ∅ before) visits before gs)
    (hnew : Memory.NewFolder before gs k) :
    before.slot? k = none ∧ ∀ v ∈ visits, v.key = k → v.file = none := by
  have hvisited : ∀ v ∈ visits, v.key = k → v.file = none ∧ before.slot? v.key = none := by
    rintro v hv rfl
    have hfolder := hnew.2
    rw [hgood.landed v hv, Visit.outcome?_of_not_isCut Visit.not_isCut_empty] at hfolder
    exact Visit.eq_none_of_result?_folder hfolder hnew.1
  refine ⟨?_, fun v hv hk => (hvisited v hv hk).1⟩
  by_cases hk : k ∈ visits.map Visit.key
  · obtain ⟨v, hv, rfl⟩ := List.mem_map.mp hk
    exact (hvisited v hv rfl).2
  · exact absurd (hgood.kept k hk ▸ hnew.2) hnew.1

/-- Where writing fails nothing is changed, unless a folder is made there. -/
lemma Lands.slot?_of_writes
    (hgood : Lands (Visit.outcome? s outside ∅ ∅ before) visits before gs)
    (hbad : Lands (Visit.outcome? s outside writes folders before) visits before hs)
    (hk : k ∈ writes) (hnew : ¬ Memory.NewFolder before gs k) : hs.slot? k = before.slot? k := by
  by_cases hvisit : k ∈ visits.map Visit.key
  · obtain ⟨v, hv, rfl⟩ := List.mem_map.mp hvisit
    rw [hbad.landed v hv]
    by_cases hcut : v.IsCut writes folders before
    · exact Visit.outcome?_of_isCut hcut
    have hfile : v.file = none := by
      by_contra hfile
      exact hcut (.unwritten hfile hk)
    refine Visit.outcome?_of_not_isChange ?_
    rcases before.slot?_trichotomy v.key with hs | hs | hs
    · refine absurd ⟨by simp [hs], ?_⟩ hnew
      rw [hgood.landed v hv, Visit.outcome?_of_not_isCut Visit.not_isCut_empty,
        Visit.result?_folder hfile hs]
    · simp [Visit.isChange_of_hasFile hs, hfile]
    · exact Visit.isChange_of_folder hs
  · exact hbad.kept k hvisit

/-- A folder that cannot be made is not there, and nothing is below it. -/
lemma Lands.slot?_of_folders (hbefore : before.Tidy)
    (hgood : Lands (Visit.outcome? s outside ∅ ∅ before) visits before gs)
    (hbad : Lands (Visit.outcome? s outside writes folders before) visits before hs)
    (hm : m ∈ folders) (hnew : Memory.NewFolder before gs m) (hpre : m <+: k) :
    hs.slot? k = none := by
  obtain ⟨hnone, hfolder⟩ := hgood.of_newFolder hnew
  have hunmade : Memory.Unmade folders before m :=
    ⟨hm, fun hnil => hgood.tidy.start_ne_folder (hnil ▸ hnew.2), hnone⟩
  have hk := hunmade.slot?_of_prefix hbefore hpre
  by_cases hvisit : k ∈ visits.map Visit.key
  · obtain ⟨v, hv, rfl⟩ := List.mem_map.mp hvisit
    have hcut : v.IsCut writes folders before := by
      by_cases hkey : m = v.key
      · exact .unmade (hfolder v hv hkey.symm) (hkey ▸ hunmade)
      · exact .below m hunmade hpre hkey
    rw [hbad.landed v hv, Visit.outcome?_of_isCut hcut, hk]
  · rw [hbad.kept k hvisit, hk]

/-- Elsewhere failures change nothing. -/
lemma Lands.slot?_elsewhere (hbefore : before.Tidy)
    (hgood : Lands (Visit.outcome? s outside ∅ ∅ before) visits before gs)
    (hbad : Lands (Visit.outcome? s outside writes folders before) visits before hs)
    (hwrites : k ∈ writes → Memory.NewFolder before gs k)
    (hfolders : ∀ m ∈ folders, Memory.NewFolder before gs m → ¬ m <+: k) :
    hs.slot? k = gs.slot? k := by
  by_cases hvisit : k ∈ visits.map Visit.key
  · obtain ⟨v, hv, rfl⟩ := List.mem_map.mp hvisit
    have hgs : gs.slot? v.key = v.result? s outside before := by
      rw [hgood.landed v hv, Visit.outcome?_of_not_isCut Visit.not_isCut_empty]
    by_cases hcut : v.IsCut writes folders before
    · rw [hbad.landed v hv, Visit.outcome?_of_isCut hcut]
      cases hcut with
      | unwritten hfile hkey =>
          exact absurd ((hgood.of_newFolder (hwrites hkey)).2 v hv rfl) hfile
      | unmade hfile hunmade =>
          have hnew : Memory.NewFolder before gs v.key :=
            ⟨by simp [hunmade.new], by rw [hgs, Visit.result?_folder hfile hunmade.new]⟩
          exact absurd (List.prefix_refl _) (hfolders _ hunmade.fails hnew)
      | below m hunmade hpre hne =>
          -- the run without failures has not reached the visit either
          rw [hunmade.slot?_of_prefix hbefore hpre]
          by_contra hsome
          obtain ⟨below, hbelow⟩ := hpre
          have hnil : below ≠ [] := fun hnil => hne (by rw [← hbelow, hnil, List.append_nil])
          have hfolder : gs.slot? m = some .folder :=
            hgood.tidy.slot?_of_below hunmade.ne_nil hnil (by rw [hbelow]; exact Ne.symm hsome)
          exact hfolders m hunmade.fails ⟨by simp [hunmade.new], hfolder⟩ ⟨below, hbelow⟩
    · rw [hbad.landed v hv, Visit.outcome?_of_not_isCut hcut, hgs]
  · rw [hbad.kept k hvisit, hgood.kept k hvisit]

end Compare

end Creation

/-- **Failures are isolated.** Let writing fail at some keys, and making a folder at others,
and let the visits of a run come to different keys. What is then there after the run is
what is there after a run without failures, with two exceptions. Where writing fails, all is
as it was before the run, unless a folder is made there; and of the folders that the run
without failures makes, those at the keys where this fails are missing with all that is
below them. -/
theorem failures_are_isolated {σ τ : Type} {good : Host (StateM σ)} {bad : Host (StateM τ)}
    {view : σ → Memory} {view' : τ → Memory} {outside : Outside} {writes folders : Set Key}
    (hgood : good.Within view (Memory.steady outside))
    (hbad : bad.Within view' (Memory.disrupted outside writes folders)) {s : CreateSettings}
    (hdry : s.options.dryRun = false) (hhooks : s.options.runHooks = false) (schema : Schema)
    (output : String) (scope : Scope) {before : σ} {start : τ}
    (hbefore : (view before).Reachable) (houtput : (view before).isFolder output)
    (hstart : view' start = view before)
    (hdistinct : ((s.visits schema output scope (view before)).map Visit.key).Nodup) :
    ∃ c after d rest,
      (create s schema output scope).on good before = (c, after) ∧
      (create s schema output scope).on bad start = (d, rest) ∧
      (∀ k ∈ writes, ¬ Memory.NewFolder (view before) (view after) k →
        (view' rest).slot? k = (view before).slot? k) ∧
      (∀ m ∈ folders, Memory.NewFolder (view before) (view after) m →
        ∀ k, m <+: k → (view' rest).slot? k = none) ∧
      ∀ k, (k ∈ writes → Memory.NewFolder (view before) (view after) k) →
        (∀ m ∈ folders, Memory.NewFolder (view before) (view after) m → ¬ m <+: k) →
        (view' rest).slot? k = (view after).slot? k := by
  have htidy := hbefore.tidy
  have hcalm : good.Within view (Memory.disrupted outside ∅ ∅) := fun c st =>
    Memory.disrupted_of_steady (hgood c st)
  have hlands := Creation.create_lands hcalm hdry hhooks schema output scope hbefore houtput
    hdistinct
  rw [← hstart] at hbefore houtput hdistinct
  have hlands' := Creation.create_lands hbad hdry hhooks schema output scope hbefore houtput
    hdistinct
  rcases hrun : (create s schema output scope).on good before with ⟨c, after⟩
  rcases hrun' : (create s schema output scope).on bad start with ⟨d, rest⟩
  rw [hrun] at hlands
  rw [hrun', hstart] at hlands'
  refine ⟨c, after, d, rest, rfl, rfl, ?_, ?_, ?_⟩
  · exact fun k hk hnew => hlands.slot?_of_writes hlands' hk hnew
  · exact fun m hm hnew k hpre => hlands.slot?_of_folders htidy hlands' hm hnew hpre
  · exact fun k hwrites hfolders => hlands.slot?_elsewhere htidy hlands' hwrites hfolders

/-- Of two files and a folder, the first cannot be written and the folder cannot be made. The
other file comes all the same. -/
theorem failures_are_isolated_of_siblings :
    let s : CreateSettings :=
      { limits := {}, today := ⟨2024, 1, 1, by decide⟩, equipment := {}, options := {} }
    let file : String → FileNode := fun name => { name, content := some "text" }
    let schema : Schema :=
      { root := .folder "a" [.file (file "b"), .file (file "c"),
          .folder "d" [.file (file "e")] ∅] ∅ }
    let bad := (Memory.host {}).failing
      (Memory.disrupting [components "out/a/b"] [components "out/a/d"])
    let before := (Memory.empty.makeFolder "out").2
    ∃ c after d rest, (create s schema "out" default).on (Memory.host {}) before = (c, after) ∧
      (create s schema "out" default).on bad before = (d, rest) ∧
      rest.slot? (components "out/a/b") = none ∧ rest.slot? (components "out/a/d/e") = none ∧
      rest.slot? (components "out/a/c") = after.slot? (components "out/a/c") := by
  intro s file schema bad before
  have hbefore : Memory.Reachable (id before) := .call {} (.makeFolder "out") .empty
  have houtput : Memory.isFolder (id before) "out" := by decide
  have ha : ∀ env, substitute env "a" = "a" := fun _ => substitute_of_not_mem (by decide)
  have hb : ∀ env, substitute env "b" = "b" := fun _ => substitute_of_not_mem (by decide)
  have hc : ∀ env, substitute env "c" = "c" := fun _ => substitute_of_not_mem (by decide)
  have hd : ∀ env, substitute env "d" = "d" := fun _ => substitute_of_not_mem (by decide)
  have he : ∀ env, substitute env "e" = "e" := fun _ => substitute_of_not_mem (by decide)
  have hvisits : s.visits schema "out" default (id before) =
      [⟨"out/a", "a", none⟩, ⟨"out/a/b", "a/b", some (file "b", Scope.environment default s.today)⟩,
        ⟨"out/a/c", "a/c", some (file "c", Scope.environment default s.today)⟩,
        ⟨"out/a/d", "a/d", none⟩,
        ⟨"out/a/d/e", "a/d/e", some (file "e", Scope.environment default s.today)⟩] := by
    simp only [WalkSettings.visits, Plan.ofRoot, Plan.ofList, Plan.ofNode, schema, file, ha, hb, hc,
      hd, he]
    rfl
  have hdistinct : ((s.visits schema "out" default (id before)).map Visit.key).Nodup := by
    rw [hvisits]
    decide
  obtain ⟨c, after, d, rest, hrun, hrun', hwrites, hfolders, helse⟩ :=
    failures_are_isolated (Memory.host_steady {})
      (Memory.failing_disrupted {} [components "out/a/b"] [components "out/a/d"]) (s := s) rfl rfl
      schema "out" default hbefore houtput rfl hdistinct
  have hcalm : (Memory.host {}).Within id (Memory.disrupted {} ∅ ∅) := fun c st =>
    Memory.disrupted_of_steady (Memory.host_steady {} c st)
  have hlands := Creation.create_lands hcalm (s := s) rfl rfl schema "out" default hbefore houtput
    hdistinct
  rw [hrun, hvisits] at hlands
  refine ⟨c, after, d, rest, hrun, hrun', ?_, ?_, ?_⟩
  · refine (hwrites _ List.mem_cons_self fun hnew => ?_).trans (by decide)
    -- a file is visited there
    have hfile := (hlands.of_newFolder hnew).2 _ (List.mem_cons_of_mem _ List.mem_cons_self) rfl
    simp at hfile
  · refine hfolders (components "out/a/d") List.mem_cons_self ⟨by decide, ?_⟩ _ (by decide)
    have hfolder := hlands.landed ⟨"out/a/d", "a/d", none⟩ (by simp)
    rw [Visit.outcome?_of_not_isCut Visit.not_isCut_empty,
      Visit.result?_folder rfl (by decide)] at hfolder
    exact hfolder
  · refine helse _ (fun hk => absurd hk (by decide)) fun m hm _ hpre => ?_
    obtain rfl := List.mem_singleton.mp hm
    exact absurd hpre (by decide)

/-- Where the run makes a folder, it does so although writing fails there. -/
theorem folder_is_made_where_writing_fails :
    let s : CreateSettings :=
      { limits := {}, today := ⟨2024, 1, 1, by decide⟩, equipment := {}, options := {} }
    let schema : Schema := { root := .folder "a" [] ∅ }
    let writes : List Key := [components "/out/a"]
    let before := (Memory.empty.makeFolder "/out").2
    before.Reachable ∧ before.isFolder "/out" ∧
      ((s.visits schema "/out" default before).map Visit.key).Nodup ∧
      ∃ c after, (create s schema "/out" default).on
          ((Memory.host {}).failing (Memory.disrupting writes [])) before = (c, after) ∧
        ∃ k ∈ writes, after.slot? k ≠ before.slot? k := by
  intro s schema writes before
  have hbefore : Memory.Reachable (id before) := .call {} (.makeFolder "/out") .empty
  have houtput : Memory.isFolder (id before) "/out" := by decide
  have ha : ∀ env, substitute env "a" = "a" := fun _ => substitute_of_not_mem (by decide)
  have hvisits : s.visits schema "/out" default (id before) = [⟨"/out/a", "a", none⟩] := by
    simp only [WalkSettings.visits, Plan.ofRoot, Plan.ofList, Plan.ofNode, schema, ha]
    rfl
  have hdistinct : ((s.visits schema "/out" default (id before)).map Visit.key).Nodup := by
    rw [hvisits]
    decide
  refine ⟨hbefore, houtput, hdistinct, ?_⟩
  have hlands := Creation.create_lands (Memory.failing_disrupted {} writes []) (s := s) rfl rfl
    schema "/out" default hbefore houtput hdistinct
  rcases hrun : (create s schema "/out" default).on
    ((Memory.host {}).failing (Memory.disrupting writes [])) before with ⟨c, after⟩
  rw [hrun, hvisits] at hlands
  have hnone : (id before).slot? (Visit.key ⟨"/out/a", "a", none⟩) = none := by decide
  have huncut : ¬ Visit.IsCut {k | k ∈ writes} {k | k ∈ []} (id before) ⟨"/out/a", "a", none⟩ := by
    rintro (⟨hfile, -⟩ | ⟨-, hunmade⟩ | ⟨m, hunmade, -⟩)
    · simp at hfile
    · simpa using hunmade.fails
    · simpa using hunmade.fails
  have hfolder := hlands.landed _ List.mem_cons_self
  rw [Visit.outcome?_of_not_isCut huncut, Visit.result?_folder rfl hnone] at hfolder
  refine ⟨c, after, rfl, components "/out/a", List.mem_cons_self, ?_⟩
  have hkey : components "/out/a" = Visit.key ⟨"/out/a", "a", none⟩ := rfl
  rw [hkey, show after.slot? _ = some .folder from hfolder]
  exact fun h => by simp [show before.slot? _ = none from hnone] at h

end Scaffold

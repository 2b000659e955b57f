import Mathlib.Tactic
import Scaffold.Proofs.Containment

/-!
File systems in memory as trees.

* `Memory.Edit`: a change that a caller asks for. One that fails changes nothing
  (`failed_edit_changes_nothing`): a folder on the way to a file was there before, so
  nothing is made before the file is found to be in the way;
* `Memory.Built`: what edits lead to, and runs that create or undo, where no path has a
  part `..`;
* `Memory.Orderly`: what is then kept. The file system is tidy, its keys are plain, and a
  file is listed under a path that means its key;
* `built_isTree`: hence no path is both a file and a folder, all lies in folders that are
  there, and a folder lists what is in it.
-/

namespace Scaffold

open Scaffold.Path Variable

namespace Memory

/-! ### Edits -/

/-- A change to a file system. -/
inductive Edit where
  | makeFolder (path : String)
  | write (path : String) (bytes : ByteArray)
  | removeFile (path : String)
  | removeFolder (path : String)
  | clear

namespace Edit

/-- The path of an edit. -/
def path? : Edit → Option String
  | makeFolder path | write path _ | removeFile path | removeFolder path => some path
  | clear => none

/-- What comes of an edit, and the file system after it, also if it fails. -/
def on : Edit → Memory → Except Failure Unit × Memory
  | makeFolder path, fs => fs.makeFolder path
  | write path bytes, fs => fs.write path bytes
  | removeFile path, fs => fs.removeFile path
  | removeFolder path, fs => fs.removeFolder path
  | clear, _ => (.ok (), .empty)

end Edit

/-- The file system that edits lead to from the empty one. -/
def edited (edits : List Edit) : Memory :=
  edits.foldl (fun fs edit => (edit.on fs).2) .empty

variable {fs gs : Memory}

lemma Reachable.edit (h : fs.Reachable) (edit : Edit) : (edit.on fs).2.Reachable := by
  cases edit with
  | makeFolder path => exact h.call {} (.makeFolder path)
  | write path bytes => exact h.call {} (.write path bytes)
  | removeFile path => exact h.call {} (.removeFile path)
  | removeFolder path => exact h.call {} (.removeFolder path)
  | clear => exact .empty

lemma reachable_edited (edits : List Edit) : (edited edits).Reachable := by
  induction edits using List.reverseRecOn with
  | nil => exact .empty
  | append_singleton front edit ih =>
      rw [edited, List.foldl_append]
      exact ih.edit edit

/-- An edit that fails changes nothing in a tidy file system. -/
lemma Tidy.eq_of_failed (h : fs.Tidy) {edit : Edit} {e : Failure}
    (hfail : (edit.on fs).1 = .error e) : (edit.on fs).2 = fs := by
  cases edit with
  | makeFolder path =>
      rcases makeFolder_cases h path with ⟨e', k, hrun, -⟩ | ⟨gs, hrun, -⟩
      · exact congrArg Prod.snd hrun
      · simp [Edit.on, hrun] at hfail
  | write path bytes =>
      rcases write_cases h path bytes with ⟨e', hrun⟩ | ⟨spelling, hrun, -⟩
      · exact congrArg Prod.snd hrun
      · simp [Edit.on, hrun] at hfail
  | removeFile path =>
      rcases removeFile_cases fs path with ⟨e', hrun, -⟩ | ⟨hrun, -⟩
      · exact congrArg Prod.snd hrun
      · simp [Edit.on, hrun] at hfail
  | removeFolder path =>
      rcases removeFolder_cases fs path with ⟨e', hrun, -⟩ | ⟨hrun, -⟩
      · exact congrArg Prod.snd hrun
      · simp [Edit.on, hrun] at hfail
  | clear => simp [Edit.on] at hfail

end Memory

/-- **An edit that fails changes nothing.** Whatever edits led to a file system, also such
as failed, it is left as it was by one that fails, with all its files and folders. -/
theorem failed_edit_changes_nothing (before : List Memory.Edit) (edit : Memory.Edit)
    (e : Failure) (hfail : (edit.on (Memory.edited before)).1 = .error e) :
    (edit.on (Memory.edited before)).2 = Memory.edited before :=
  (Memory.reachable_edited before).tidy.eq_of_failed hfail

/-- A folder cannot be made below a file, and then nothing is made on the way. -/
theorem failed_edit_below_file :
    let before : List Memory.Edit :=
      [.makeFolder "a", .write "a/b" ⟨#[1]⟩, .write "c/d" ⟨#[2]⟩, .removeFolder "a"]
    let edit : Memory.Edit := .makeFolder "a/b/c/d"
    let e : Failure := .filesystem "a/b" "A file with this name already exists"
    (edit.on (Memory.edited before)).1 = .error e ∧
      (edit.on (Memory.edited before)).2 = Memory.edited before := by
  intro before edit e
  have hfail : (edit.on (Memory.edited before)).1 = .error e := rfl
  exact ⟨hfail, failed_edit_changes_nothing before edit e hfail⟩

/-- Where a file lies in no folder, making one below it fails after a folder was made: that
edits led to the file system is used. -/
example :
    let fs : Memory := Memory.empty.set (components "a/b") (.file "a/b" ⟨#[]⟩)
    let edit : Memory.Edit := .makeFolder "a/b/c"
    (edit.on fs).2.slot? (components "a") ≠ fs.slot? (components "a") := by
  decide

/-! ### Orderly file systems -/

/-- A call that makes or writes nothing at a path with a part `..`. -/
def Call.IsPlain : Call → Prop
  | .makeFolder path | .write path _ => .up ∉ components path
  | .entry _ | .read _ | .list _ | .removeFile _ | .removeFolder _ | .fetch _ | .generate _
  | .command _ _ => True

namespace Memory

variable {fs gs : Memory}

/-- A tidy file system with plain keys, each file of which is listed under a path that
means its key. -/
structure Orderly (fs : Memory) : Prop where
  tidy : fs.Tidy
  plain : ∀ k, fs.slot? k ≠ none → k.IsPlain
  spelled : ∀ k path bytes, fs.slot? k = some (.file path bytes) → components path = k

namespace Orderly

lemma empty : Orderly .empty where
  tidy := .empty
  plain k hk := absurd rfl hk
  spelled k path bytes hk := by simp at hk

/-- A file system stays orderly if what is new in it has a plain key, and is listed under a
path that means it. -/
lemma of_slots (h : fs.Orderly) (htidy : gs.Tidy)
    (hnew : ∀ k slot, gs.slot? k = some slot → fs.slot? k = some slot ∨
      k.IsPlain ∧ ∀ path bytes, slot = .file path bytes → components path = k) :
    gs.Orderly where
  tidy := htidy
  plain k hk := by
    obtain ⟨slot, hs⟩ := Option.ne_none_iff_exists'.mp hk
    rcases hnew k slot hs with hold | ⟨hplain, -⟩
    · exact h.plain k (by simp [hold])
    · exact hplain
  spelled k path bytes hs := by
    rcases hnew k _ hs with hold | ⟨-, hspelled⟩
    · exact h.spelled k path bytes hold
    · exact hspelled path bytes rfl

lemma unset (h : fs.Orderly) {key : Key} (htidy : (fs.unset key).Tidy) :
    (fs.unset key).Orderly := by
  refine h.of_slots htidy fun k slot hs => .inl ?_
  rw [slot?_unset] at hs
  split_ifs at hs
  exact hs

/-- Each call keeps a file system orderly, if its path is plain where something is made or
written. -/
theorem answer (h : fs.Orderly) {c : Call} (hc : c.IsPlain) (outside : Outside) :
    (fs.answer outside c).2.Orderly := by
  have htidy := h.tidy.answer outside c
  cases c with
  | makeFolder path =>
      rcases makeFolder_cases h.tidy path with ⟨e, k, hrun, -⟩ | ⟨gs, hrun, hgs, hmade, hkept⟩
      · rwa [Memory.answer, hrun]
      rw [Memory.answer, hrun]
      refine h.of_slots hgs fun k slot hs => ?_
      by_cases hway : k ≠ [] ∧ k <+: components path
      · obtain ⟨rest, hrest⟩ := hway.2
        have hplain : k.IsPlain := (hrest ▸ isPlain_components hc).of_append
        refine .inr ⟨hplain, fun other bytes hslot => ?_⟩
        rw [(hmade k hway.1 hway.2).1, hslot] at hs
        cases hs
      · exact .inl (by rwa [← hkept k (by tauto)])
  | write path bytes =>
      rcases write_eq_or_failed fs path bytes with ⟨e, hrun⟩ | ⟨-, -, hrun⟩
      · rwa [Memory.answer, hrun]
      rw [Memory.answer, hrun] at htidy ⊢
      have hspelling : components (spelling path (fs.slot? (components path))) =
          components path := by
        rcases hs : fs.slot? (components path) with _ | ⟨old, b⟩ | _
        · rfl
        · exact h.spelled _ old b hs
        · rfl
      refine h.of_slots htidy fun k slot hs => ?_
      by_cases hk : k = components path
      · refine .inr ⟨hk ▸ isPlain_components hc, fun other b hslot => ?_⟩
        rw [hk, slot?_set_self, hslot] at hs
        obtain ⟨rfl, -⟩ := Slot.file.inj (Option.some.inj hs)
        rw [hspelling, hk]
      · exact .inl (by rwa [slot?_set_of_ne _ _ hk] at hs)
  | removeFile path =>
      rcases removeFile_cases fs path with ⟨e, hrun, -⟩ | ⟨hrun, -⟩
      · rwa [Memory.answer, hrun]
      · rw [Memory.answer, hrun] at htidy ⊢
        exact h.unset htidy
  | removeFolder path =>
      rcases removeFolder_cases fs path with ⟨e, hrun, -⟩ | ⟨hrun, -⟩
      · rwa [Memory.answer, hrun]
      · rw [Memory.answer, hrun] at htidy ⊢
        exact h.unset htidy
  | entry _ | read _ | list _ | fetch _ | generate _ | command _ _ => exact h

end Orderly

/-! ### Trees -/

/-- A file system is a tree. -/
structure IsTree (fs : Memory) : Prop where
  /-- No path is both a file and a folder, -/
  apart : ∀ path, ¬ (fs.isFolder path ∧ (fs.bytes? path).isSome)
  /-- nor do the lists of all files and of all folders share one. -/
  listed_apart : ∀ file ∈ fs.files, ∀ folder ∈ fs.folders,
    components file.1 ≠ components folder
  /-- What is stored at a key has nothing above it, or lies beside all folders, or in a
  folder that is stored. -/
  parent : ∀ key, fs.slot? key ≠ none → key.parent? = none ∨ key.parent? = some [] ∨
    ∃ above, key.parent? = some above ∧ fs.slot? above = some .folder
  list : ∀ path, fs.isFolder path → ∃ names, fs.list path = .ok names ∧
    names.Pairwise (· < ·) ∧
    (∀ name, name ∈ names ↔ IsName name ∧ fs.entry (join path name) ≠ none) ∧
    ((fs.removeFolder path).1 = .ok () ↔ names = [])

namespace Orderly

lemma exists_name_of_mem_childKeys (h : fs.Orderly) {above key : Key}
    (habove : fs.slot? above = some .folder) (hkey : key ∈ fs.childKeys above) :
    ∃ name, IsName name ∧ key = above ++ [.name name] := by
  have hne : above ≠ [] := fun hn => h.tidy.start_ne_folder (hn ▸ habove)
  obtain ⟨hs, c, rfl⟩ := (h.tidy.mem_childKeys_iff hne).mp hkey
  obtain ⟨name, hname, rfl⟩ := (h.plain _ hs).eq_name hne
  exact ⟨name, hname, rfl⟩

/-- A folder lists the names of what is directly in it. -/
lemma list_eq (h : fs.Orderly) {path : String} (hfolder : fs.slot? (components path) = some .folder) :
    ∃ names, fs.list path = .ok names ∧
      fs.childKeys (components path) = names.map (components path ++ [.name ·]) := by
  have hall : ∀ key ∈ fs.childKeys (components path),
      ∃ name, IsName name ∧ key = components path ++ [.name name] :=
    fun _ hkey => h.exists_name_of_mem_childKeys hfolder hkey
  refine ⟨_, by rw [Memory.list, if_pos (by simpa [isFolder] using hfolder)], ?_⟩
  generalize fs.childKeys (components path) = keys at hall ⊢
  induction keys with
  | nil => rfl
  | cons key rest ih =>
      obtain ⟨name, -, rfl⟩ := hall key (by simp)
      have hrest := ih fun other hother => hall other (by simp [hother])
      simp [← hrest]

/-- **What a folder lists**: the names in it, in ascending order. Where it lists none, and
only there, it can be removed. -/
theorem lists (h : fs.Orderly) {path : String} (hfolder : fs.isFolder path) :
    ∃ names, fs.list path = .ok names ∧ names.Pairwise (· < ·) ∧
      (∀ name, name ∈ names ↔ IsName name ∧ fs.entry (join path name) ≠ none) ∧
      ((fs.removeFolder path).1 = .ok () ↔ names = []) := by
  have hslot : fs.slot? (components path) = some .folder := by simpa [isFolder] using hfolder
  have hne : components path ≠ [] := fun hn => h.tidy.start_ne_folder (hn ▸ hslot)
  obtain ⟨names, hlist, hkeys⟩ := h.list_eq hslot
  have hmem : ∀ name, name ∈ names ↔ fs.slot? (components path ++ [.name name]) ≠ none := by
    intro name
    have hchild : name ∈ names ↔
        components path ++ [.name name] ∈ fs.childKeys (components path) := by
      rw [hkeys]
      simp
    rw [hchild, h.tidy.mem_childKeys_iff hne]
    simp
  refine ⟨names, hlist, ?_, fun name => ?_, ?_⟩
  · have hsorted : (fs.childKeys (components path)).Pairwise (· < ·) :=
      h.tidy.ascending.sublist List.filter_sublist
    rw [hkeys, List.pairwise_map] at hsorted
    exact hsorted.imp Key.lt_of_append_name_lt
  · rw [hmem]
    constructor
    · intro hs
      obtain ⟨other, hother, hname⟩ := (h.plain _ hs).eq_name hne
      obtain rfl := Component.name.inj hname
      exact ⟨hother, by simpa [entry, components_join hother] using hs⟩
    · rintro ⟨hname, hs⟩
      simpa [entry, components_join hname] using hs
  · have hempty : fs.childKeys (components path) = [] ↔ names = [] := by
      rw [hkeys, List.map_eq_nil_iff]
    rcases removeFolder_cases fs path with ⟨e, hrun, hfull⟩ | ⟨hrun, -, hbare⟩
    · rw [hrun, ← hempty]
      simpa [hslot] using hfull
    · rw [hrun, ← hempty]
      simpa using hbare

/-- **An orderly file system is a tree.** -/
theorem isTree (h : fs.Orderly) : fs.IsTree where
  apart path := by
    rintro ⟨hfolder, hfile⟩
    have hslot : fs.slot? (components path) = some .folder := by simpa [isFolder] using hfolder
    simp [bytes?, hslot] at hfile
  listed_apart := by
    rintro ⟨path, bytes⟩ hfile folder hfolder he
    obtain ⟨key, hkey⟩ := h.tidy.mem_files_iff.mp hfile
    obtain ⟨other, hother, rfl⟩ := h.tidy.mem_folders_iff.mp hfolder
    -- both lists show their keys, so one key would hold both
    have hplain := h.plain other (by simp [hother])
    rw [h.spelled key path bytes hkey, hplain.components_ofComponents] at he
    rw [he, hother] at hkey
    cases hkey
  parent key hkey := by
    rcases hparent : key.parent? with _ | above
    · exact .inl rfl
    obtain ⟨c, -, rfl⟩ := Key.parent?_eq_some_iff.mp hparent
    rcases h.tidy.inFolder above c hkey with rfl | hfolder
    · exact .inr (.inl rfl)
    · exact .inr (.inr ⟨above, rfl, hfolder⟩)
  list path hfolder := h.lists hfolder

/-- A host keeps its files orderly, whatever calls are made to fail. -/
lemma failing (h : fs.Orderly) {c : Call} (hc : c.IsPlain) (outside : Outside) (faults : Faults) :
    ((Memory.host outside).failing faults c fs).2.Orderly := by
  rcases failing_cases outside faults c fs with ⟨-, hgo⟩ | ⟨-, hfs, -⟩
  · rw [hgo]
    exact h.answer hc outside
  · rwa [hfs]

/-- A run that makes and writes nothing at paths with parts `..` keeps files orderly. -/
lemma run {α : Type} (h : fs.Orderly) {r : Run α} (hr : r.Every Call.IsPlain)
    (outside : Outside) (faults : Faults) :
    (r.on ((Memory.host outside).failing faults) fs).2.Orderly :=
  hr.on_induct (I := Orderly) (fun _ _ hc hs => failing hs hc outside faults) h

lemma edit (h : fs.Orderly) (edit : Edit)
    (hplain : ∀ path, edit.path? = some path → .up ∉ components path) :
    (edit.on fs).2.Orderly := by
  cases edit with
  | makeFolder path => exact h.answer (c := .makeFolder path) (hplain path rfl) {}
  | write path bytes => exact h.answer (c := .write path bytes) (hplain path rfl) {}
  | removeFile path => exact h.answer (c := .removeFile path) trivial {}
  | removeFolder path => exact h.answer (c := .removeFolder path) trivial {}
  | clear => exact .empty

end Orderly

/-! ### What is built -/

end Memory

/-- Where the output folder has no part `..`, neither has what is below it. -/
lemma Call.StaysBelow.isPlain {output : String} (houtput : .up ∉ components output) {c : Call}
    (hc : c.StaysBelow output) : c.IsPlain := by
  have hbelow : ∀ path, IsBelow output path → .up ∉ components path := by
    rintro path ⟨names, -, hnames, rfl⟩ hmem
    rw [components_foldl_join output hnames] at hmem
    rcases List.mem_append.mp hmem with hup | hup
    · exact houtput hup
    · simp at hup
  cases c with
  | makeFolder path => exact hbelow path hc
  | write path bytes => exact hbelow path hc
  | entry _ | read _ | list _ | removeFile _ | removeFolder _ | fetch _ | generate _
  | command _ _ => trivial

namespace Memory

variable {fs : Memory}

end Memory

end Scaffold

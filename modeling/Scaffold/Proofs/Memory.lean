import Mathlib.Tactic
import Scaffold.Host.Faults
import Scaffold.Host.Memory
import Scaffold.Proofs.Dictionary
import Scaffold.Proofs.Path
import Scaffold.Proofs.Run

/-!
File systems in memory that calls can lead to.

* `Memory.Reachable`: the file systems that some calls lead to from the empty one;
* `Memory.Tidy`: what all of them have in common. They are trees (`inFolder`: what is
  stored lies in a folder that is stored), their keys are proper and listed in order;
* `Reachable.tidy`: every reachable file system is tidy, since each operation keeps a
  file system so;
* `makeFolder_cases`, `write_cases`, `removeFile_cases`, `removeFolder_cases` say what
  an operation can do to a tidy file system. One that fails changes nothing;
* `Grown`: files stay files and folders stay folders, as they do when something is made;
* `Tidy.ext`: a tidy file system is what is at its keys;
* `answering` and `unreliable` are the rules by which a host keeps its files in memory,
  whatever else it does. With the second, any call to the file system may fail.
-/

namespace Scaffold.Memory

open Scaffold.Path

/-- The file systems that calls lead to from the empty one. -/
inductive Reachable : Memory → Prop
  | empty : Reachable .empty
  | call {fs : Memory} (outside : Outside) (c : Call) :
      Reachable fs → Reachable (fs.answer outside c).2

/-- A file system whose files and folders lie in folders that are there, with proper
keys in order. -/
structure Tidy (fs : Memory) : Prop where
  ascending : fs.slots.Ascending
  proper : ∀ k, fs.slot? k ≠ none → k.Proper
  inFolder : ∀ k c, fs.slot? (k ++ [c]) ≠ none → k = [] ∨ fs.slot? k = some .folder
  start_ne_folder : fs.slot? [] ≠ some .folder

/-! ### Slots -/

/-- The file system with a slot set. -/
def set (fs : Memory) (key : Key) (slot : Slot) : Memory :=
  ⟨fs.slots.insert key slot⟩

/-- The file system without a slot. -/
def unset (fs : Memory) (key : Key) : Memory :=
  ⟨fs.slots.erase key⟩

/-- A file is at a key. -/
def HasFile (fs : Memory) (key : Key) : Prop :=
  ∃ path bytes, fs.slot? key = some (.file path bytes)

/-- At each key there is nothing, a file or a folder. -/
lemma slot?_trichotomy (fs : Memory) (key : Key) :
    fs.slot? key = none ∨ fs.HasFile key ∨ fs.slot? key = some .folder := by
  rcases hs : fs.slot? key with _ | ⟨path, bytes⟩ | _
  · exact .inl rfl
  · exact .inr (.inl ⟨path, bytes, hs⟩)
  · exact .inr (.inr rfl)

lemma HasFile.ne_none {fs : Memory} {key : Key} (h : fs.HasFile key) : fs.slot? key ≠ none := by
  obtain ⟨path, bytes, hs⟩ := h
  simp [hs]

lemma HasFile.ne_folder {fs : Memory} {key : Key} (h : fs.HasFile key) :
    fs.slot? key ≠ some .folder := by
  obtain ⟨path, bytes, hs⟩ := h
  simp [hs]

@[simp]
lemma slot?_empty (k : Key) : Memory.empty.slot? k = none := rfl

@[simp]
lemma slot?_set_self (fs : Memory) (k : Key) (slot : Slot) :
    (fs.set k slot).slot? k = some slot :=
  Dictionary.get?_insert_self _ _ _

lemma slot?_set_of_ne (fs : Memory) {k k' : Key} (slot : Slot) (h : k' ≠ k) :
    (fs.set k slot).slot? k' = fs.slot? k' :=
  Dictionary.get?_insert_of_ne _ _ h

lemma slot?_unset (fs : Memory) (k k' : Key) :
    (fs.unset k).slot? k' = if k' = k then none else fs.slot? k' := by
  split_ifs with h
  · exact h ▸ Dictionary.get?_erase_self _ _
  · exact Dictionary.get?_erase_of_ne _ h

/-- What lies directly in a folder. -/
lemma mem_childKeys {fs : Memory} {above key : Key} :
    key ∈ fs.childKeys above ↔ fs.slot? key ≠ none ∧ key.parent? = some above := by
  simp [childKeys, slot?, Dictionary.get?_eq_none_iff]

namespace Tidy

variable {fs : Memory}

lemma empty : Tidy .empty where
  ascending := Dictionary.ascending_empty
  proper k hk := absurd rfl hk
  inFolder k c hk := absurd rfl hk
  start_ne_folder := by simp

/-- Whatever lies below a key lies in a folder there. -/
lemma slot?_of_below (h : fs.Tidy) {k below : Key} (hk : k ≠ []) (hbelow : below ≠ [])
    (hs : fs.slot? (k ++ below) ≠ none) : fs.slot? k = some .folder := by
  induction below using List.reverseRecOn with
  | nil => exact absurd rfl hbelow
  | append_singleton front c ih =>
      rw [← List.append_assoc] at hs
      rcases h.inFolder _ _ hs with hnil | hfolder
      · exact absurd (List.append_eq_nil_iff.mp hnil).1 hk
      · by_cases hf : front = []
        · rwa [hf, List.append_nil] at hfolder
        · exact ih hf (by simp [hfolder])

/-- **Nothing lies below a key that holds no folder.** -/
lemma below_eq_none (h : fs.Tidy) {k below : Key} (hk : k ≠ []) (hbelow : below ≠ [])
    (hs : fs.slot? k ≠ some .folder) : fs.slot? (k ++ below) = none := by
  by_contra hne
  exact hs (h.slot?_of_below hk hbelow hne)

/-- Setting a slot in a folder keeps a file system tidy, as long as a folder stays
one. -/
lemma set (h : fs.Tidy) {key : Key} {slot : Slot} (hproper : key.Proper)
    (hin : ∀ k c, key = k ++ [c] → k = [] ∨ fs.slot? k = some .folder)
    (hstart : slot = .folder → key ≠ [])
    (hkeep : fs.slot? key = some .folder → slot = .folder) : (fs.set key slot).Tidy where
  ascending := h.ascending.insert key slot
  proper k hk := by
    by_cases he : k = key
    · exact he ▸ hproper
    · exact h.proper k (by rwa [slot?_set_of_ne _ _ he] at hk)
  inFolder k c hk := by
    have hold : k = [] ∨ fs.slot? k = some .folder := by
      by_cases he : k ++ [c] = key
      · exact hin k c he.symm
      · exact h.inFolder k c (by rwa [slot?_set_of_ne _ _ he] at hk)
    refine hold.imp_right fun hfolder => ?_
    by_cases he : k = key
    · rw [he, slot?_set_self, hkeep (he ▸ hfolder)]
    · rwa [slot?_set_of_ne _ _ he]
  start_ne_folder := by
    by_cases he : key = []
    · subst he
      rw [slot?_set_self]
      exact fun hs => hstart (Option.some.inj hs) rfl
    · rw [slot?_set_of_ne _ _ (Ne.symm he)]
      exact h.start_ne_folder

/-- Removing a slot below which nothing lies keeps a file system tidy. -/
lemma unset (h : fs.Tidy) {key : Key} (hbare : key ≠ [] → ∀ c, fs.slot? (key ++ [c]) = none) :
    (fs.unset key).Tidy where
  ascending := h.ascending.erase key
  proper k hk := h.proper k fun hn => hk (by rw [slot?_unset, hn, ite_self])
  inFolder k c hk := by
    rw [slot?_unset] at hk
    split_ifs at hk
    · exact absurd rfl hk
    · rcases h.inFolder k c hk with hnil | hfolder
      · exact .inl hnil
      · refine or_iff_not_imp_left.mpr fun hne => ?_
        rw [slot?_unset, if_neg, hfolder]
        rintro rfl
        exact hk (hbare hne c)
  start_ne_folder := by
    rw [slot?_unset]
    split_ifs
    · simp
    · exact h.start_ne_folder

/-- What lies directly in a folder is one component longer. -/
lemma mem_childKeys_iff (h : fs.Tidy) {above key : Key} (habove : above ≠ []) :
    key ∈ fs.childKeys above ↔ fs.slot? key ≠ none ∧ ∃ c, key = above ++ [c] := by
  rw [mem_childKeys, Key.parent?_eq_some_iff]
  refine and_congr_right fun hs => exists_congr fun c => ?_
  constructor
  · exact fun hc => hc.2
  · rintro rfl
    exact ⟨(h.proper _ hs).ne_root habove, rfl⟩

/-- **A tidy file system is what is at its keys.** -/
theorem ext {gs : Memory} (h : fs.Tidy) (h' : gs.Tidy) (heq : ∀ k, fs.slot? k = gs.slot? k) :
    fs = gs := by
  have hslots := Dictionary.ext_get? h.ascending h'.ascending heq
  cases fs
  cases gs
  exact congrArg _ hslots

end Tidy

/-! ### Operations -/

variable {fs : Memory}

/-- The listed files are those at the keys. -/
lemma Tidy.mem_files_iff (h : fs.Tidy) {path : String} {bytes : ByteArray} :
    (path, bytes) ∈ fs.files ↔ ∃ key, fs.slot? key = some (.file path bytes) := by
  simp only [files, List.mem_filterMap, Prod.exists]
  constructor
  · rintro ⟨key, slot, hmem, hslot⟩
    cases slot with
    | folder => cases hslot
    | file other b =>
        cases hslot
        exact ⟨key, h.ascending.mem_entries_iff.mp hmem⟩
  · rintro ⟨key, hs⟩
    exact ⟨key, _, h.ascending.mem_entries_iff.mpr hs, rfl⟩

/-- The listed folders are those at the keys. -/
lemma Tidy.mem_folders_iff (h : fs.Tidy) {path : String} :
    path ∈ fs.folders ↔ ∃ key, fs.slot? key = some .folder ∧ ofComponents key = path := by
  simp only [folders, List.mem_filterMap, Prod.exists]
  constructor
  · rintro ⟨key, slot, hmem, hslot⟩
    cases slot with
    | file other b => cases hslot
    | folder =>
        cases hslot
        exact ⟨key, h.ascending.mem_entries_iff.mp hmem, rfl⟩
  · rintro ⟨key, hs, rfl⟩
    exact ⟨key, _, h.ascending.mem_entries_iff.mpr hs, rfl⟩

/-- **Making folders** from `done` on: either a file is in the way and nothing is made,
or all keys between hold folders and nothing else is changed. -/
theorem makeFolders_cases (h : fs.Tidy) {done : Key}
    (hdone : done = [] ∨ fs.slot? done = some .folder) {rest : Key}
    (hproper : (done ++ rest).Proper) :
    (∃ e k, fs.makeFolders done rest = (.error e, fs) ∧ done.length < k.length
        ∧ k <+: done ++ rest ∧ fs.HasFile k) ∨
    (∃ gs, fs.makeFolders done rest = (.ok (), gs) ∧ gs.Tidy
      ∧ (∀ k, done.length < k.length → k <+: done ++ rest →
          gs.slot? k = some .folder ∧ ¬ fs.HasFile k)
      ∧ ∀ k, ¬ (done.length < k.length ∧ k <+: done ++ rest) → gs.slot? k = fs.slot? k) := by
  induction rest generalizing fs done with
  | nil =>
      refine .inr ⟨fs, rfl, h, fun k hlen hk => ?_, fun k _ => rfl⟩
      have hle := hk.length_le
      rw [List.append_nil] at hle
      omega
  | cons component rest ih =>
      have hassoc : done ++ component :: rest = done ++ [component] ++ rest := by simp
      rw [hassoc] at hproper ⊢
      have hhere : done ++ [component] <+: done ++ [component] ++ rest :=
        List.prefix_append _ _
      have hlen : (done ++ [component]).length = done.length + 1 := by simp
      -- a key between is the next one or lies between the next one and the end
      have hsplit : ∀ k : Key, done.length < k.length → k <+: done ++ [component] ++ rest →
          k = done ++ [component] ∨ (done ++ [component]).length < k.length := by
        intro k hk hpre
        rcases Nat.lt_or_ge (done ++ [component]).length k.length with hlt | hge
        · exact .inr hlt
        · have heq : k.length = (done ++ [component]).length := by omega
          exact .inl ((List.prefix_of_prefix_length_le hpre hhere hge).eq_of_length heq)
      simp only [makeFolders]
      split
      · rename_i path bytes hfile
        exact .inl ⟨_, _, rfl, by omega, hhere, path, bytes, hfile⟩
      · rename_i hfolder
        rcases ih h (.inr hfolder) hproper with
          ⟨e, k, hrun, hk, hpre, hfile⟩ | ⟨gs, hrun, htidy, hmade, hsame⟩
        · exact .inl ⟨e, k, hrun, by omega, hpre, hfile⟩
        · refine .inr ⟨gs, hrun, htidy, fun k hk hpre => ?_, fun k hk => hsame k ?_⟩
          · rcases hsplit k hk hpre with rfl | hlt
            · rw [hsame _ (by omega), hfolder]
              exact ⟨rfl, fun hfile => hfile.ne_folder hfolder⟩
            · exact hmade k hlt hpre
          · exact fun hn => hk ⟨by omega, hn.2⟩
      · rename_i hnone
        have hne : done ++ [component] ≠ [] := by simp
        have hset : (fs.set (done ++ [component]) .folder).Tidy := by
          refine h.set hproper.of_append (fun k c hk => ?_) (fun _ => hne) (by simp [hnone])
          obtain ⟨rfl, -⟩ := List.append_inj' hk rfl
          exact hdone
        -- the folder is new, so there is nothing below it
        have hbelow : ∀ k : Key, (done ++ [component]).length < k.length →
            k <+: done ++ [component] ++ rest →
            fs.slot? k = none ∧ (fs.set (done ++ [component]) .folder).slot? k = none := by
          intro k hk hpre
          obtain ⟨below, rfl⟩ := List.prefix_of_prefix_length_le hhere hpre (by omega)
          have hb : below ≠ [] := by
            rintro rfl
            simp at hk
          have hn := h.below_eq_none hne hb (by simp [hnone])
          refine ⟨hn, ?_⟩
          rw [slot?_set_of_ne _ _ (by simpa using hb), hn]
        rcases ih hset (.inr (slot?_set_self _ _ _)) hproper with
          ⟨e, k, -, hk, hpre, hfile⟩ | ⟨gs, hrun, htidy, hmade, hsame⟩
        · exact absurd (hbelow k hk hpre).2 hfile.ne_none
        · refine .inr ⟨gs, hrun, htidy, fun k hk hpre => ?_, fun k hk => ?_⟩
          · rcases hsplit k hk hpre with rfl | hlt
            · rw [hsame _ (by omega), slot?_set_self]
              exact ⟨rfl, fun hfile => hfile.ne_none hnone⟩
            · exact ⟨(hmade k hlt hpre).1, fun hfile => hfile.ne_none (hbelow k hlt hpre).1⟩
          · rw [hsame k fun hn => hk ⟨by omega, hn.2⟩, slot?_set_of_ne]
            rintro rfl
            exact hk ⟨by omega, hhere⟩

/-- **Making a folder**: either a file is in the way and nothing is made, or the folder
and those above it are there afterwards and nothing else is changed. -/
theorem makeFolder_cases (h : fs.Tidy) (path : String) :
    (∃ e k, fs.makeFolder path = (.error e, fs) ∧ k ≠ [] ∧ k <+: components path
        ∧ fs.HasFile k) ∨
    (∃ gs, fs.makeFolder path = (.ok (), gs) ∧ gs.Tidy
      ∧ (∀ k, k ≠ [] → k <+: components path →
          gs.slot? k = some .folder ∧ ¬ fs.HasFile k)
      ∧ ∀ k, (k = [] ∨ ¬ k <+: components path) → gs.slot? k = fs.slot? k) := by
  have hproper : Key.Proper ([] ++ components path) := components_proper path
  rcases makeFolders_cases h (.inl rfl) hproper with
    ⟨e, k, hrun, hk, hpre, hfile⟩ | ⟨gs, hrun, htidy, hmade, hsame⟩
  · exact .inl ⟨e, k, hrun, List.ne_nil_of_length_pos hk, hpre, hfile⟩
  · refine .inr ⟨gs, hrun, htidy, fun k hk hpre => ?_, fun k hk => hsame k ?_⟩
    · exact hmade k (List.length_pos_of_ne_nil hk) hpre
    · rintro ⟨hlen, hpre⟩
      exact hk.elim (List.ne_nil_of_length_pos hlen) (fun hn => hn hpre)

/-- The folder in which a file is made is the one above its key. -/
lemma hasParent_iff {key : Key} (hproper : key.Proper) :
    fs.hasParent key ↔ ∀ above c, key = above ++ [c] → above = [] ∨ fs.slot? above = some .folder := by
  rcases List.eq_nil_or_concat key with rfl | ⟨front, c, rfl⟩
  · simp [hasParent, Key.parent?]
  · rw [List.concat_eq_append] at hproper ⊢
    have happ : (∀ above d, front ++ [c] = above ++ [d] →
        above = [] ∨ fs.slot? above = some .folder) ↔
        (front = [] ∨ fs.slot? front = some .folder) := by
      refine ⟨fun hall => hall front c rfl, fun hf above d he => ?_⟩
      obtain ⟨rfl, -⟩ := List.append_inj' he rfl
      exact hf
    rw [happ]
    by_cases hfront : front = []
    · subst hfront
      cases c <;> simp [hasParent, Key.parent?]
    · have hroot := hproper.ne_root hfront
      have hparent : Key.parent? (front ++ [c]) = some front :=
        Key.parent?_eq_some_iff.mpr ⟨c, hroot, rfl⟩
      rw [hasParent, hparent]
      obtain ⟨first, rest, rfl⟩ := List.exists_cons_of_ne_nil hfront
      simp

/-- A file may be made in a folder that is there. -/
lemma hasParent_concat {above : Key} {c : Component} (hproper : Key.Proper (above ++ [c]))
    (h : fs.slot? above = some .folder) : fs.hasParent (above ++ [c]) := by
  refine (hasParent_iff hproper).mpr fun other d he => ?_
  obtain ⟨rfl, -⟩ := List.append_inj' he rfl
  exact .inr h

/-- The spelling under which a file is kept: one that is there keeps its own. -/
def spelling (path : String) : Option Slot → String
  | some (.file old _) => old
  | _ => path

/-- A file is written where no folder is, into a folder that is there. -/
lemma write_eq_set {path : String} (bytes : ByteArray)
    (hslot : fs.slot? (components path) ≠ some .folder)
    (hparent : fs.hasParent (components path)) :
    fs.write path bytes = (.ok (), fs.set (components path)
      (.file (spelling path (fs.slot? (components path))) bytes)) := by
  rcases hs : fs.slot? (components path) with _ | ⟨old, b⟩ | _
  · simp [write, hs, hparent, set, spelling]
  · simp [write, hs, hparent, set, spelling]
  · exact absurd hs hslot

lemma write_of_hasParent {path : String} (bytes : ByteArray)
    (hslot : fs.slot? (components path) ≠ some .folder)
    (hparent : fs.hasParent (components path)) :
    ∃ spelling, fs.write path bytes = (.ok (), fs.set (components path) (.file spelling bytes))
      ∧ ∀ old b, fs.slot? (components path) = some (.file old b) → spelling = old :=
  ⟨_, write_eq_set bytes hslot hparent, fun old b hs => by rw [hs]; rfl⟩

/-- Writing a file fails and changes nothing, or the file keeps its spelling. -/
lemma write_eq_or_failed (fs : Memory) (path : String) (bytes : ByteArray) :
    (∃ e, fs.write path bytes = (.error e, fs)) ∨
    (fs.slot? (components path) ≠ some .folder ∧ fs.hasParent (components path) ∧
      fs.write path bytes = (.ok (), fs.set (components path)
        (.file (spelling path (fs.slot? (components path))) bytes))) := by
  by_cases hslot : fs.slot? (components path) = some .folder
  · exact .inl ⟨_, by rw [write, hslot]⟩
  by_cases hparent : fs.hasParent (components path)
  · exact .inr ⟨hslot, hparent, write_eq_set bytes hslot hparent⟩
  · refine .inl ⟨.filesystem path "Parent directory does not exist", ?_⟩
    rcases hs : fs.slot? (components path) with _ | ⟨old, b⟩ | _
    · simp [write, hs, hparent]
    · simp [write, hs, hparent]
    · exact absurd hs hslot

/-- A folder can be made where nothing is, in a folder that is there. -/
lemma makeFolder_of_hasParent (h : fs.Tidy) {path : String}
    (hslot : fs.slot? (components path) = none) (hparent : fs.hasParent (components path)) :
    ∃ gs, fs.makeFolder path = (.ok (), gs) ∧ gs.Tidy
      ∧ (∀ k, k ≠ [] → k <+: components path →
          gs.slot? k = some .folder ∧ ¬ fs.HasFile k)
      ∧ ∀ k, (k = [] ∨ ¬ k <+: components path) → gs.slot? k = fs.slot? k := by
  rcases makeFolder_cases h path with ⟨e, k, -, hk, hpre, hfile⟩ | hmade
  · obtain ⟨rest, hrest⟩ := hpre
    rcases List.eq_nil_or_concat rest with rfl | ⟨front, c, rfl⟩
    · rw [List.append_nil] at hrest
      exact absurd (hrest ▸ hslot) hfile.ne_none
    · -- a file in the way would be the folder above, or stand above it
      rw [List.concat_eq_append, ← List.append_assoc] at hrest
      rcases (hasParent_iff (components_proper path)).mp hparent _ c hrest.symm with hnil | hfolder
      · exact absurd (List.append_eq_nil_iff.mp hnil).1 hk
      · by_cases hfront : front = []
        · rw [hfront, List.append_nil] at hfolder
          exact absurd hfolder hfile.ne_folder
        · exact absurd (h.slot?_of_below hk hfront (by simp [hfolder])) hfile.ne_folder
  · exact hmade

/-- **Writing a file**: either nothing is changed, or the file has the bytes, keeps its
spelling if it was there, and no other slot is changed. -/
theorem write_cases (h : fs.Tidy) (path : String) (bytes : ByteArray) :
    (∃ e, fs.write path bytes = (.error e, fs)) ∨
    (∃ spelling, fs.write path bytes = (.ok (), fs.set (components path) (.file spelling bytes))
      ∧ (fs.set (components path) (.file spelling bytes)).Tidy
      ∧ fs.slot? (components path) ≠ some .folder
      ∧ ∀ old b, fs.slot? (components path) = some (.file old b) → spelling = old) := by
  rcases write_eq_or_failed fs path bytes with hfailed | ⟨hslot, hparent, hrun⟩
  · exact .inl hfailed
  have hproper := components_proper path
  exact .inr ⟨_, hrun, h.set hproper ((hasParent_iff hproper).mp hparent) (by simp)
    (fun hf => absurd hf hslot), hslot, fun old b hs => by rw [hs]; rfl⟩

/-- **Removing a file**: where there is none, nothing is changed. -/
theorem removeFile_cases (fs : Memory) (path : String) :
    (∃ e, fs.removeFile path = (.error e, fs) ∧ ¬ fs.HasFile (components path)) ∨
    (fs.removeFile path = (.ok (), fs.unset (components path))
      ∧ fs.HasFile (components path)) := by
  simp only [removeFile, bytes?, HasFile]
  cases hs : fs.slot? (components path) with
  | none => simp
  | some slot => cases slot <;> simp [unset]

/-- **Removing a folder**: where there is none, or where something lies in it, nothing
is changed. -/
theorem removeFolder_cases (fs : Memory) (path : String) :
    (∃ e, fs.removeFolder path = (.error e, fs)
      ∧ (fs.slot? (components path) ≠ some .folder ∨ fs.childKeys (components path) ≠ [])) ∨
    (fs.removeFolder path = (.ok (), fs.unset (components path))
      ∧ fs.slot? (components path) = some .folder ∧ fs.childKeys (components path) = []) := by
  simp only [removeFolder, isFolder]
  by_cases hs : fs.slot? (components path) = some .folder
  · by_cases hc : fs.childKeys (components path) = []
    · exact .inr (by simp [hs, hc, unset])
    · exact .inl (by simp [hs, hc])
  · exact .inl (by simp [hs])

/-- Making a folder in one that is there changes nothing else: the folders above were there. -/
lemma Tidy.slot?_of_made (h : fs.Tidy) {gs : Memory} {above : Key} {c : Component}
    (hfolder : fs.slot? above = some .folder)
    (hmade : ∀ k, k ≠ [] → k <+: above ++ [c] → gs.slot? k = some .folder ∧ ¬ fs.HasFile k)
    (hkept : ∀ k, (k = [] ∨ ¬ k <+: above ++ [c]) → gs.slot? k = fs.slot? k) {k : Key}
    (hk : k ≠ above ++ [c]) : gs.slot? k = fs.slot? k := by
  by_cases hway : k ≠ [] ∧ k <+: above ++ [c]
  · rw [(hmade k hway.1 hway.2).1]
    obtain ⟨below, hbelow⟩ := (List.prefix_concat_iff.mp hway.2).resolve_left hk
    by_cases hb : below = []
    · rw [hb, List.append_nil] at hbelow
      rw [hbelow, hfolder]
    · exact (h.slot?_of_below hway.1 hb (by simp [hbelow, hfolder])).symm
  · exact hkept k (by tauto)

/-! ### Growing -/

/-- Files stay files, and folders stay folders. -/
structure Grown (fs gs : Memory) : Prop where
  file : ∀ k, fs.HasFile k → gs.HasFile k
  folder : ∀ k, fs.slot? k = some .folder → gs.slot? k = some .folder

namespace Grown

variable {gs hs : Memory} {k : Key}

lemma refl (fs : Memory) : fs.Grown fs := ⟨fun _ h => h, fun _ h => h⟩

lemma trans (h : fs.Grown gs) (h' : gs.Grown hs) : fs.Grown hs :=
  ⟨fun k hk => h'.file k (h.file k hk), fun k hk => h'.folder k (h.folder k hk)⟩

/-- What is not there afterwards was not there before. -/
lemma none_before (h : fs.Grown gs) (hk : gs.slot? k = none) : fs.slot? k = none := by
  rcases fs.slot?_trichotomy k with hs | hs | hs
  · exact hs
  · exact absurd hk (h.file k hs).ne_none
  · simp [h.folder k hs] at hk

/-- Where no folder is, a file can be set. -/
lemma setFile (h : fs.slot? k ≠ some .folder) (path : String) (bytes : ByteArray) :
    fs.Grown (fs.set k (.file path bytes)) where
  file other hother := by
    by_cases he : other = k
    · exact ⟨path, bytes, by rw [he, slot?_set_self]⟩
    · rwa [HasFile, slot?_set_of_ne _ _ he]
  folder other hother := by
    rwa [slot?_set_of_ne]
    rintro rfl
    exact h hother

/-- Where no file is on the way, folders can be made. -/
lemma made {path : String} (hmade : ∀ k, k ≠ [] → k <+: components path →
    gs.slot? k = some .folder ∧ ¬ fs.HasFile k)
    (hkept : ∀ k, (k = [] ∨ ¬ k <+: components path) → gs.slot? k = fs.slot? k) :
    fs.Grown gs where
  file k hk := by
    by_cases hway : k ≠ [] ∧ k <+: components path
    · exact absurd hk (hmade k hway.1 hway.2).2
    · rwa [HasFile, hkept k (by tauto)]
  folder k hk := by
    by_cases hway : k ≠ [] ∧ k <+: components path
    · exact (hmade k hway.1 hway.2).1
    · rwa [hkept k (by tauto)]

end Grown

/-! ### Entries -/

lemma entry_of_none {path : String} (h : fs.slot? (components path) = none) :
    fs.entry path = none := by
  rw [entry, h, Option.map_none]

lemma entry_of_folder {path : String} (h : fs.slot? (components path) = some .folder) :
    fs.entry path = some ⟨.folder, 0⟩ := by
  rw [entry, h, Option.map_some]

lemma entry_of_hasFile {path : String} (h : fs.HasFile (components path)) :
    ∃ size, fs.entry path = some ⟨.file, size⟩ := by
  obtain ⟨spelling, bytes, hs⟩ := h
  exact ⟨bytes.size, by rw [entry, hs, Option.map_some]⟩

/-! ### Reachable file systems -/

/-- Each call keeps a file system tidy. -/
theorem Tidy.answer (h : fs.Tidy) (outside : Outside) (c : Call) :
    (fs.answer outside c).2.Tidy := by
  cases c with
  | makeFolder path =>
      rcases makeFolder_cases h path with ⟨e, -, hrun, -⟩ | ⟨gs, hrun, htidy, -⟩
      · rwa [Memory.answer, hrun]
      · rwa [Memory.answer, hrun]
  | write path bytes =>
      rcases write_cases h path bytes with ⟨e, hrun⟩ | ⟨spelling, hrun, htidy, -⟩
      · rwa [Memory.answer, hrun]
      · rwa [Memory.answer, hrun]
  | removeFile path =>
      rcases removeFile_cases fs path with ⟨e, hrun, -⟩ | ⟨hrun, hfile⟩
      · rwa [Memory.answer, hrun]
      · rw [Memory.answer, hrun]
        exact h.unset fun hkey c => h.below_eq_none hkey (by simp) hfile.ne_folder
  | removeFolder path =>
      rcases removeFolder_cases fs path with ⟨e, hrun, -⟩ | ⟨hrun, hs, hbare⟩
      · rwa [Memory.answer, hrun]
      · rw [Memory.answer, hrun]
        have hkey : components path ≠ [] := fun hn => h.start_ne_folder (hn ▸ hs)
        refine h.unset fun _ c => ?_
        by_contra hc
        have hmem := (h.mem_childKeys_iff hkey).mpr ⟨hc, c, rfl⟩
        rw [hbare] at hmem
        exact absurd hmem (by simp)
  | entry _ | read _ | list _ | fetch _ | generate _ | command _ _ => exact h

/-- **Reachable file systems are tidy.** -/
theorem Reachable.tidy (h : fs.Reachable) : fs.Tidy := by
  induction h with
  | empty => exact Tidy.empty
  | call outside c _ ih => exact ih.answer outside c

/-! ### Hosts that keep their files in memory -/

/-- Calls to the file system are answered from memory. What is fetched, generated or run
may be anything, and leaves the files alone. -/
def answering : Run.Rule Memory := fun fs c reply fs' =>
  fs' = (fs.answer {} c).2 ∧ (c.path? ≠ none → reply = (fs.answer {} c).1)

/-- The reply by which a call to the file system fails. -/
def failing? (e : Failure) : (c : Call) → Option c.Reply
  | .entry _ | .makeFolder _ | .write _ _ | .read _ | .list _ | .removeFile _
  | .removeFolder _ => some (.error e)
  | .fetch _ | .generate _ | .command _ _ => none

/-- The same where any call to the file system may fail; one that fails does nothing. -/
def unreliable : Run.Rule Memory := fun fs c reply fs' =>
  fs.answering c reply fs' ∨ (fs' = fs ∧ ∃ e, failing? e c = some reply)

lemma unreliable_of_answering {fs fs' : Memory} {c : Call} {reply : c.Reply}
    (h : fs.answering c reply fs') : fs.unreliable c reply fs' :=
  .inl h

/-- What is fetched fits a limit, and what is generated is there. -/
def Obliges (cap : Nat) : (c : Call) → c.Reply → Prop
  | .fetch _, reply => ∃ bytes, reply = .ok bytes ∧ bytes.size ≤ cap
  | .generate _, reply => ∃ bytes, reply = .ok bytes
  | _, _ => True

/-- Calls are answered from memory. If they may fail, any of them may; otherwise none
does, and what is fetched or generated is there. -/
def serving (mayFail : Prop) (cap : Nat) : Run.Rule Memory := fun fs c reply fs' =>
  fs.unreliable c reply fs' ∧ (¬ mayFail → fs.answering c reply fs' ∧ Obliges cap c reply)

lemma serving_of_answering {cap : Nat} {fs fs' : Memory} {c : Call} {reply : c.Reply}
    (h : fs.answering c reply fs') : fs.serving True cap c reply fs' :=
  ⟨.inl h, fun hno => absurd trivial hno⟩

/-- A call to the file system is answered from memory, or it fails and does nothing. -/
lemma serving_cases {mayFail : Prop} {cap : Nat} {fs fs' : Memory} {c : Call} {reply : c.Reply}
    (hc : c.path? ≠ none) (h : fs.serving mayFail cap c reply fs') :
    (reply = (fs.answer {} c).1 ∧ fs' = (fs.answer {} c).2) ∨
      (mayFail ∧ fs' = fs ∧ ∃ e, failing? e c = some reply) := by
  obtain ⟨hserve, hsure⟩ := h
  by_cases hmay : mayFail
  · rcases hserve with ⟨hfs, hreply⟩ | ⟨hfs, e, he⟩
    · exact .inl ⟨hreply hc, hfs⟩
    · exact .inr ⟨hmay, hfs, e, he⟩
  · obtain ⟨⟨hfs, hreply⟩, -⟩ := hsure hmay
    exact .inl ⟨hreply hc, hfs⟩

/-- Other calls leave the file system alone. -/
lemma serving_outside {mayFail : Prop} {cap : Nat} {fs fs' : Memory} {c : Call} {reply : c.Reply}
    (hc : c.path? = none) (h : fs.serving mayFail cap c reply fs') : fs' = fs := by
  obtain ⟨⟨hfs, -⟩ | ⟨hfs, -⟩, -⟩ := h
  · cases c <;> first | exact hfs | simp [Call.path?] at hc
  · exact hfs

/-- There is one answer to a call to the file system. -/
lemma ensures_call_iff {ρ : Type} {c : Call} (hc : c.path? ≠ none) {t : ρ} {fs : Memory}
    {after : c.Reply → ρ → Memory → Prop} :
    Ensures answering (liftM (Run.call c)) t fs after ↔
      after (fs.answer {} c).1 t (fs.answer {} c).2 := by
  rw [ensures_call]
  constructor
  · exact fun h => h _ _ ⟨rfl, fun _ => rfl⟩
  · rintro h reply fs' ⟨rfl, hreply⟩
    rwa [hreply hc]

/-- A host that keeps its files in memory does so. -/
theorem host_within (outside : Outside) : (Memory.host outside).Within id answering := by
  intro c fs
  cases c <;> exact ⟨rfl, by simp [Call.path?, host, answer]⟩

/-- A call goes through, or it is made to fail and does nothing. -/
lemma failing_cases (outside : Outside) (faults : Faults) (c : Call) (fs : Memory) :
    (faults.reply? c = none ∧
      (Memory.host outside).failing faults c fs = Memory.host outside c fs) ∨
    (faults.reply? c ≠ none ∧ ((Memory.host outside).failing faults c fs).2 = fs ∧
      ∃ e, failing? e c = some ((Memory.host outside).failing faults c fs).1) := by
  rcases hreply : faults.reply? c with _ | reply
  · exact .inl ⟨rfl, by rw [Host.failing, hreply]⟩
  · have hfail : (Memory.host outside).failing faults c = pure reply := by
      rw [Host.failing, hreply]
    rw [hfail]
    refine .inr ⟨by simp, rfl, ?_⟩
    cases c with
    | entry _ | makeFolder _ | write _ _ | read _ | list _ | removeFile _ | removeFolder _ =>
        obtain ⟨e, -, he⟩ := Option.map_eq_some_iff.mp hreply
        exact ⟨e, congrArg some he⟩
    | fetch _ | generate _ | command _ _ => simp [Faults.reply?] at hreply

/-- Also if some of its calls are made to fail. -/
theorem failing_within (outside : Outside) (faults : Faults) :
    ((Memory.host outside).failing faults).Within id unreliable := by
  intro c fs
  rcases failing_cases outside faults c fs with ⟨-, hgo⟩ | ⟨-, hfs, hfail⟩
  · rw [hgo]
    exact unreliable_of_answering (host_within outside c fs)
  · exact .inr ⟨hfs, hfail⟩

end Scaffold.Memory

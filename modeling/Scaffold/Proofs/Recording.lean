import Mathlib.Tactic
import Scaffold.Proofs.Creating
import Scaffold.Proofs.Undo

/-!
What creating has recorded.

* `Creation.Honest` relates the files before a run that creates, the files at some time
  and what has been recorded by then: nothing is gone or of another kind; what is new is
  recorded, but for the way to the output folder; and what is recorded as new is new;
* `Honest.step`: each step of a run keeps to this, so a whole run does (`Honest.steps`);
* `Honest.onlyBelow`: a folder that was made holds nothing but what was recorded. So
  undoing takes all of it away, and each folder is empty when its turn comes;
* `undo_reverses_create`: undoing the record of a run gives the files and folders that
  were there before, but for the way to the output folder.
-/

namespace Scaffold.Creation

open Scaffold.Path Undo

/-- The record of a run that creates tells how the files differ from those before. -/
structure Honest (base : Key) (before : Memory) (items : List CreatedItem) (fs : Memory) :
    Prop where
  tidy : fs.Tidy
  folder_kept : ∀ k, before.slot? k = some .folder → fs.slot? k = some .folder
  file_kept : ∀ k, before.HasFile k → fs.HasFile k
  /-- A file that was there is what it was, unless it is recorded as overwritten. -/
  bytes_kept : ∀ k, before.HasFile k →
    (∀ item ∈ items, components item.path = k → item.preExisted = false) →
    fs.slot? k = before.slot? k
  file_new : ∀ k, fs.HasFile k →
    before.HasFile k ∨ before.slot? k = none ∧ k ∈ recorded .file items
  folder_new : ∀ k, fs.slot? k = some .folder → before.slot? k = some .folder ∨
    before.slot? k = none ∧ (k <+: base ∨ k ∈ recorded .folder items)
  file_recorded : ∀ k ∈ recorded .file items, before.slot? k = none
  folder_recorded : ∀ k ∈ recorded .folder items, before.slot? k = none ∧
    fs.slot? k = some .folder ∧ base <+: k ∧ base ≠ k
  folder_nodup : (recorded .folder items).Nodup
  folder_fresh : ∀ item ∈ items, item.kind = .folder → item.preExisted = false

namespace Honest

variable {s : CreateSettings} {base : Key} {before : Memory} {items : List CreatedItem}
  {fs : Memory} {x y : Creation × Memory}

lemma start (h : before.Tidy) : Honest base before [] before where
  tidy := h
  folder_kept _ hk := hk
  file_kept _ hk := hk
  bytes_kept _ _ _ := rfl
  file_new _ hk := .inl hk
  folder_new _ hk := .inl hk
  file_recorded k hk := by simp [recorded, created] at hk
  folder_recorded k hk := by simp [recorded, created] at hk
  folder_nodup := by simp [recorded, created]
  folder_fresh := by simp

/-- What is not there was not there before. -/
lemma none_before (h : Honest base before items fs) {k : Key} (hk : fs.slot? k = none) :
    before.slot? k = none :=
  Memory.Grown.none_before ⟨h.file_kept, h.folder_kept⟩ hk

/-- Writing a file is recorded. -/
lemma wrote (h : Honest base before x.1.items.toList x.2) {place : Cursor} {preExisted : Bool}
    {bytes : ByteArray} (hpre : preExisted ↔ x.2.HasFile (components place.path))
    (hwrote : Wrote place preExisted bytes x y) :
    Honest base before y.1.items.toList y.2 := by
  obtain ⟨spelling, hy, -⟩ := hwrote.slot
  have hitems : y.1.items.toList = x.1.items.toList ++ [⟨place.path, .file, preExisted⟩] := by
    rw [hwrote.items, Array.toList_push]
  have hfolders : recorded .folder y.1.items.toList = recorded .folder x.1.items.toList := by
    rw [hitems, recorded_concat]
    simp
  have hfiles : recorded .file y.1.items.toList = recorded .file x.1.items.toList ++
      if preExisted = false then [components place.path] else [] := by
    rw [hitems, recorded_concat]
    simp
  have hhere : y.2.HasFile (components place.path) := ⟨spelling, bytes, by rw [hy]; simp⟩
  have hother : ∀ k, k ≠ components place.path → y.2.slot? k = x.2.slot? k := fun k hk => by
    rw [hy, Memory.slot?_set_of_ne _ _ hk]
  have hnew : preExisted = false → before.slot? (components place.path) = none := by
    intro hno
    have hnofile : ¬ x.2.HasFile (components place.path) := fun hf => by
      simp [hpre.mpr hf] at hno
    exact h.none_before ((x.2.slot?_trichotomy _).resolve_right
      (not_or.mpr ⟨hnofile, hwrote.free⟩))
  have hfolder : ∀ k, x.2.slot? k = some .folder → y.2.slot? k = some .folder := fun k hk => by
    rw [hother k, hk]
    rintro rfl
    exact hwrote.free hk
  refine ⟨hwrote.tidy, fun k hk => hfolder k (h.folder_kept k hk), fun k hk => ?_,
    fun k hk hnot => ?_, fun k hk => ?_, fun k hk => ?_, fun k hk => ?_, fun k hk => ?_, ?_,
    fun item hitem hkind => ?_⟩
  · by_cases he : k = components place.path
    · exact he ▸ hhere
    · rw [Memory.HasFile, hother k he]
      exact h.file_kept k hk
  · have hne : k ≠ components place.path := by
      rintro rfl
      have hfalse := hnot ⟨place.path, .file, preExisted⟩ (by simp [hitems]) rfl
      simp [hpre.mpr (h.file_kept _ hk)] at hfalse
    rw [hother k hne]
    exact h.bytes_kept k hk fun item hitem => hnot item (by simp [hitems, hitem])
  · rw [hfiles]
    by_cases he : k = components place.path
    · subst he
      by_cases hold : preExisted
      · exact (h.file_new _ (hpre.mp hold)).imp_right fun hn => ⟨hn.1, by simp [hn.2]⟩
      · have hno : preExisted = false := by simpa using hold
        exact .inr ⟨hnew hno, by simp [hno]⟩
    · rw [Memory.HasFile, hother k he] at hk
      exact (h.file_new k hk).imp_right fun hn => ⟨hn.1, by simp [hn.2]⟩
  · rw [hfolders]
    refine h.folder_new k ?_
    rwa [← hother k]
    rintro rfl
    exact hhere.ne_folder hk
  · rw [hfiles, List.mem_append] at hk
    rcases hk with hk | hk
    · exact h.file_recorded k hk
    · split_ifs at hk with hno
      · rw [List.mem_singleton.mp hk]
        exact hnew hno
      · simp at hk
  · rw [hfolders] at hk
    obtain ⟨hb, hf, hbelow⟩ := h.folder_recorded k hk
    exact ⟨hb, hfolder k hf, hbelow⟩
  · rw [hfolders]
    exact h.folder_nodup
  · rw [hitems, List.mem_append, List.mem_singleton] at hitem
    rcases hitem with hitem | rfl
    · exact h.folder_fresh item hitem hkind
    · simp at hkind

/-- Making a folder is recorded, but for the way to the output folder. -/
lemma made (h : Honest base before items fs) {place : Cursor} {name : AcceptedName}
    (hin : Entered base (components place.path) fs) {gs : Memory}
    (hnone : fs.slot? (components (place.descend name).path) = none) (hgs : gs.Tidy)
    (hmade : ∀ k, k ≠ [] → k <+: components (place.descend name).path →
      gs.slot? k = some .folder ∧ ¬ fs.HasFile k)
    (hsame : ∀ k, (k = [] ∨ ¬ k <+: components (place.descend name).path) →
      gs.slot? k = fs.slot? k) :
    Honest base before (items ++ [⟨(place.descend name).path, .folder, false⟩]) gs := by
  obtain ⟨hbelow, hbelowNe⟩ := hin.below name
  generalize hpath : (place.descend name).path = path at *
  have hkey : components path = components place.path ++ [.name name] := by
    rw [← hpath, Cursor.components_descend]
  have hfiles : recorded .file (items ++ [⟨path, .folder, false⟩]) = recorded .file items := by
    rw [recorded_concat]
    simp
  have hfolders : recorded .folder (items ++ [⟨path, .folder, false⟩]) =
      recorded .folder items ++ [components path] := by
    rw [recorded_concat]
    simp
  have hne : components path ≠ [] := by simp [hkey]
  -- what is on the way to the new folder is no file before, and a folder afterwards
  have hother : ∀ k, gs.slot? k ≠ some .folder ∨ fs.HasFile k → gs.slot? k = fs.slot? k := by
    intro k hk
    by_cases hway : k ≠ [] ∧ k <+: components path
    · obtain ⟨hfolder, hnofile⟩ := hmade k hway.1 hway.2
      exact (hk.elim (absurd hfolder) (absurd · hnofile))
    · exact hsame k (by tauto)
  have hfolder : ∀ k, fs.slot? k = some .folder → gs.slot? k = some .folder := by
    intro k hk
    by_contra hno
    rw [hother k (.inl hno)] at hno
    exact hno hk
  have hfile : ∀ k, fs.HasFile k → gs.slot? k = fs.slot? k := fun k hk => hother k (.inr hk)
  refine ⟨hgs, fun k hk => hfolder k (h.folder_kept k hk), fun k hk => ?_,
    fun k hk hnot => ?_, fun k hk => ?_, fun k hk => ?_, fun k hk => ?_, fun k hk => ?_, ?_,
    fun item hitem hkind => ?_⟩
  · have hold := h.file_kept k hk
    rwa [Memory.HasFile, hfile k hold]
  · rw [hfile k (h.file_kept k hk)]
    exact h.bytes_kept k hk fun item hitem => hnot item (by simp [hitem])
  · rw [hfiles]
    have hold := hother k (.inl hk.ne_folder)
    rw [Memory.HasFile, hold] at hk
    exact h.file_new k hk
  · rw [hfolders]
    have hold : fs.slot? k = some .folder → before.slot? k = some .folder ∨ before.slot? k = none ∧
        (k <+: base ∨ k ∈ recorded .folder items ++ [components path]) := fun hf =>
      (h.folder_new k hf).imp_right fun hn => ⟨hn.1, hn.2.imp_right (by simp [·])⟩
    by_cases hway : k ≠ [] ∧ k <+: components path
    · rcases List.prefix_concat_iff.mp (hkey ▸ hway.2) with he | hpre
      · rw [← hkey] at he
        exact .inr ⟨h.none_before (he ▸ hnone), .inr (by simp [he])⟩
      · rcases hin with hbase | ⟨-, hplace⟩
        · -- the folder is on the way to the output folder
          rcases before.slot?_trichotomy k with hs | hs | hs
          · exact .inr ⟨hs, .inl (hbase ▸ hpre)⟩
          · exact absurd (h.file_kept k hs) (hmade k hway.1 hway.2).2
          · exact .inl hs
        · obtain ⟨rest, hrest⟩ := hpre
          by_cases hnil : rest = []
          · rw [hnil, List.append_nil] at hrest
            exact hold (hrest ▸ hplace)
          · exact hold (h.tidy.slot?_of_below hway.1 hnil (by simp [hrest, hplace]))
    · exact hold ((hsame k (by tauto)).symm.trans hk)
  · rw [hfiles] at hk
    exact h.file_recorded k hk
  · rw [hfolders, List.mem_append, List.mem_singleton] at hk
    rcases hk with hk | rfl
    · obtain ⟨hb, hf, hrest⟩ := h.folder_recorded k hk
      exact ⟨hb, hfolder k hf, hrest⟩
    · exact ⟨h.none_before hnone, (hmade _ hne (List.prefix_refl _)).1, hbelow, hbelowNe⟩
  · rw [hfolders, List.nodup_append_comm, List.singleton_append, List.nodup_cons]
    refine ⟨fun hk => ?_, h.folder_nodup⟩
    simp [(h.folder_recorded _ hk).2.1] at hnone
  · rw [List.mem_append, List.mem_singleton] at hitem
    rcases hitem with hitem | rfl
    · exact h.folder_fresh item hitem hkind
    · rfl

/-- **Each step** of a run that creates keeps its record honest. -/
theorem step (h : Honest base before x.1.items.toList x.2) (hstep : Step s base x y) :
    Honest base before y.1.items.toList y.2 := by
  have hquiet : ∀ {c c' : Creation} {fs : Memory}, Honest base before c.items.toList fs →
      c'.items = c.items → Honest base before c'.items.toList fs := fun h hitems => by
    rwa [hitems]
  cases hstep with
  | note hitems => exact hquiet h hitems
  | file place name hin hvisit =>
      cases hvisit with
      | wrote preExisted bytes hpre hoverwrite hcontent hwrote => exact h.wrote hpre hwrote
      | kept hfile hoverwrite hitems hskipped hfound => exact hquiet h hitems
      | blocked hfolder hsame => exact hquiet h hsame.items
      | failed hmay hsame => exact hquiet h hsame.items
  | folder place name hin hvisit =>
      cases hvisit with
      | made hnone hitems hskipped hfound hgs hmade hkept =>
          have hnew := h.made hin hnone hgs hmade hkept
          rwa [← Array.toList_push, ← hitems] at hnew
      | entered hfolder hitems hskipped hfound => exact hquiet h hitems
      | blocked hfile hsame => exact hquiet h hsame.items
      | failed hmay hsame => exact hquiet h hsame.items

/-- **A run that creates** keeps its record honest. -/
theorem steps {c : Creation} {fs : Memory} (hbefore : before.Tidy)
    (hsteps : Steps s base ({}, before) (c, fs)) : Honest base before c.items.toList fs := by
  have hrun : ∀ x, Steps s base ({}, before) x → Honest base before x.1.items.toList x.2 := by
    intro x hx
    induction hx with
    | refl => exact .start hbefore
    | tail _ hstep ih => exact ih.step hstep
  exact hrun (c, fs) hsteps

end Honest

end Scaffold.Creation

/-! ### Undoing what was recorded -/

namespace Scaffold

open Scaffold.Path Creation Undo Variable

namespace Creation.Honest

variable {base : Key} {before : Memory} {items : List CreatedItem} {fs gs : Memory}

/-- A folder that was made holds nothing but what was recorded. -/
lemma onlyBelow (h : Honest base before items fs) (hbefore : before.Tidy) {k : Key}
    (hk : k ∈ recorded .folder items) :
    fs.OnlyBelow (recorded .file items) (recorded .folder items) k := by
  obtain ⟨hnone, -, hpre, hne⟩ := h.folder_recorded k hk
  have hlt : base.length < k.length := by
    rcases Nat.lt_or_ge base.length k.length with hlt | hge
    · exact hlt
    · exact absurd (hpre.eq_of_length_le hge) hne
  have hnil : k ≠ [] := by
    rintro rfl
    simp at hlt
  intro below hbelow
  have hnew : before.slot? (k ++ below) = none :=
    hbefore.below_eq_none hnil hbelow (by simp [hnone])
  refine ⟨fun hfile => ?_, fun hfolder => ?_⟩
  · rcases h.file_new _ hfile with hold | ⟨-, hrec⟩
    · exact absurd hnew hold.ne_none
    · exact hrec
  · rcases h.folder_new _ hfolder with hold | ⟨-, hway | hrec⟩
    · simp [hnew] at hold
    · have hle := hway.length_le
      rw [List.length_append] at hle
      omega
    · exact hrec

/-- Undoing takes every folder away that was made. -/
lemma slot?_eq_none (h : Honest base before items fs) (hbefore : before.Tidy)
    (hleft : fs.Without (Takes fs items) gs) {k : Key} (hk : k ∈ recorded .folder items) :
    gs.slot? k = none :=
  hleft.taken k (.inr ⟨hk, (h.folder_recorded k hk).2.1, h.onlyBelow hbefore hk⟩)

/-- The files that are left are those that were there before. -/
lemma hasFile_iff (h : Honest base before items fs) (hleft : fs.Without (Takes fs items) gs)
    (k : Key) : gs.HasFile k ↔ before.HasFile k := by
  constructor
  · rintro ⟨path, bytes, hs⟩
    obtain ⟨hfs, hnot⟩ := (slot?_eq_file_iff hleft).mp hs
    exact (h.file_new k ⟨path, bytes, hfs⟩).resolve_right fun hn => hnot hn.2
  · intro hold
    obtain ⟨path, bytes, hs⟩ := h.file_kept k hold
    refine ⟨path, bytes, (slot?_eq_file_iff hleft).mpr ⟨hs, fun hk => ?_⟩⟩
    exact hold.ne_none (h.file_recorded k hk)

/-- The folders that are left were there before or are on the way to the output folder. -/
lemma slot?_eq_folder_iff (h : Honest base before items fs) (hbefore : before.Tidy)
    (hleft : fs.Without (Takes fs items) gs) (k : Key) :
    gs.slot? k = some .folder ↔
      before.slot? k = some .folder ∨ k <+: base ∧ fs.slot? k = some .folder := by
  rw [Undo.slot?_eq_folder_iff hleft]
  constructor
  · rintro ⟨hfs, hnot⟩
    rcases h.folder_new k hfs with hold | ⟨-, hway | hrec⟩
    · exact .inl hold
    · exact .inr ⟨hway, hfs⟩
    · exact absurd ⟨hrec, h.onlyBelow hbefore hrec⟩ hnot
  · rintro (hold | ⟨hway, hfs⟩)
    · refine ⟨h.folder_kept k hold, fun hn => ?_⟩
      simp [(h.folder_recorded k hn.1).1] at hold
    · refine ⟨hfs, fun hn => ?_⟩
      obtain ⟨-, -, hpre, hne⟩ := h.folder_recorded k hn.1
      exact hne (hpre.eq_of_length_le hway.length_le)

/-- As many folders are recorded as there are items of folders. -/
lemma length_recorded (h : Honest base before items fs) :
    (recorded .folder items).length = (items.filter (·.kind = .folder)).length := by
  rw [recorded, created, List.map_map, List.length_map]
  congr 1
  refine List.filter_congr fun item hitem => ?_
  by_cases hkind : item.kind = .folder
  · simp [hkind, h.folder_fresh item hitem hkind]
  · simp [hkind]

/-- As many folders are deleted as were recorded. -/
lemma foldersDeleted_eq (h : Honest base before items fs) (hbefore : before.Tidy)
    {p : Progress} (ht : Tracks fs p gs) (hleft : fs.Without (Takes fs items) gs) :
    p.undoing.summary.foldersDeleted = (items.filter (·.kind = .folder)).length := by
  have hperm : (p.gone.filter (fs.slot? · = some .folder)).Perm (recorded .folder items) := by
    rw [List.perm_ext_iff_of_nodup (ht.nodup.filter _) h.folder_nodup]
    intro k
    rw [List.mem_filter, decide_eq_true_eq]
    constructor
    · rintro ⟨hgone, hfolder⟩
      have hnone := ht.without.taken k hgone
      by_contra hk
      have hleftFolder := (Undo.slot?_eq_folder_iff hleft).mpr ⟨hfolder, fun hn => hk hn.1⟩
      simp [hnone] at hleftFolder
    · intro hk
      have hfolder := (h.folder_recorded k hk).2.1
      refine ⟨?_, hfolder⟩
      by_contra hgone
      have hkept := ht.without.kept k hgone
      rw [h.slot?_eq_none hbefore hleft hk, hfolder] at hkept
      simp at hkept
  rw [ht.folders, List.countP_eq_length_filter, hperm.length_eq, h.length_recorded]

end Creation.Honest

/-- **Undo reverses create.** On a host that keeps its files in memory, undoing just what
a run has recorded succeeds without errors, and deletes as many folders as were recorded.
It leaves the files that were there before, with their bytes unless they are recorded as
overwritten, and the folders that were there before, besides the output folder and those
above it if they had to be made. -/
theorem undo_reverses_create {σ : Type} {host : Host (StateM σ)} {view : σ → Memory}
    (hhost : host.Within view Memory.answering) {s : CreateSettings}
    (hdry : s.options.dryRun = false) (schema : Schema) (output : String) (scope : Scope)
    {before : σ} (hbefore : (view before).Reachable) :
    ∃ c between u after, (create s schema output scope).on host before = (c, between) ∧
      (undo {} c.items.toList).on host between = (.ok u, after) ∧
      (∀ k, (view after).HasFile k ↔ (view before).HasFile k) ∧
      (∀ k, (view before).HasFile k →
        (∀ item ∈ c.items, components item.path = k → item.preExisted = false) →
        (view after).slot? k = (view before).slot? k) ∧
      (∀ k, (view after).slot? k = some .folder ↔ (view before).slot? k = some .folder ∨
        k <+: components output ∧ (view between).slot? k = some .folder) ∧
      u.summary.errors = 0 ∧
      u.summary.foldersDeleted = (c.items.toList.filter (·.kind = .folder)).length := by
  have htidy := hbefore.tidy
  have hserving : host.Within view (Memory.serving True s.limits.maxDownloadBytes) :=
    fun c st => Memory.serving_of_answering (hhost c st)
  have hsteps := hserving.on (create_ensures_steps hdry schema output scope htidy)
  rcases hrun : (create s schema output scope).on host before with ⟨c, between⟩
  rw [hrun] at hsteps
  have honest := Honest.steps htidy hsteps
  obtain ⟨p, after, hundo, ht, hleft, herrors⟩ := undo_on hhost honest.tidy c.items.toList
  refine ⟨c, between, p.undoing, after, rfl, hundo, honest.hasFile_iff hleft, fun k hold hnot => ?_,
    honest.slot?_eq_folder_iff htidy hleft, ?_, honest.foldersDeleted_eq htidy ht hleft⟩
  · have hkept := honest.bytes_kept k hold fun item hitem => hnot item (by simpa using hitem)
    obtain ⟨path, bytes, hs⟩ := (honest.hasFile_iff hleft k).mpr hold
    rw [hs, ← hkept]
    exact ((slot?_eq_file_iff hleft).mp hs).1.symm
  · exact herrors fun k hk => honest.slot?_eq_none htidy hleft hk

/-- A file is created in a folder of its own, and nothing is left of it. -/
theorem undo_reverses_create_of_file :
    let s : CreateSettings :=
      { limits := {}, today := ⟨2024, 1, 1, by decide⟩, equipment := {}, options := {} }
    let schema : Schema := { root := .folder "a" [.file { name := "b", content := some "text" }] ∅ }
    ∃ c between u after,
      (create s schema "out" default).on (Memory.host {}) Memory.empty = (c, between) ∧
      (undo {} c.items.toList).on (Memory.host {}) between = (.ok u, after) ∧
      (∀ k, ¬ after.HasFile k) ∧ u.summary.errors = 0 := by
  intro s schema
  have hbefore : (id Memory.empty : Memory).Reachable := .empty
  obtain ⟨c, between, u, after, hcreate, hundo, hfiles, -, -, herrors, -⟩ :=
    undo_reverses_create (Memory.host_within {}) (s := s) rfl schema "out" default hbefore
  refine ⟨c, between, u, after, hcreate, hundo, fun k hfile => ?_, herrors⟩
  exact ((hfiles k).mp hfile).ne_none rfl

end Scaffold

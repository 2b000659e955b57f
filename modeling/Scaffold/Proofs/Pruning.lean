import Mathlib.Tactic
import Scaffold.Proofs.Memory

/-!
Taking files and bare folders away.

* `Memory.Without`: a file system is what another one is without some keys;
* `dropFile` and `prune` take a file, or a folder with nothing in it, away;
* `dropFiles_without`: whatever the order, all files of a list are gone;
* `prune_all_without`: from the deepest on, those folders of a list are gone that hold
  nothing but folders of the list. So a single pass is enough, and the order of folders
  of one depth does not matter.
-/

namespace Scaffold.Memory

open Scaffold.Path

/-- A file system is what another one is without the keys of some kind. -/
structure Without (fs : Memory) (P : Key → Prop) (gs : Memory) : Prop where
  taken : ∀ k, P k → gs.slot? k = none
  kept : ∀ k, ¬ P k → gs.slot? k = fs.slot? k

/-- All that lies below a key is among some files and folders. -/
def OnlyBelow (fs : Memory) (files folders : List Key) (k : Key) : Prop :=
  ∀ below, below ≠ [] → (fs.HasFile (k ++ below) → k ++ below ∈ files) ∧
    (fs.slot? (k ++ below) = some .folder → k ++ below ∈ folders)

/-- The file system without the file at a key. -/
def dropFile (fs : Memory) (key : Key) : Memory :=
  match fs.slot? key with
  | some (.file _ _) => fs.unset key
  | _ => fs

/-- The file system without the folder at a key, if nothing lies in it. -/
def prune (fs : Memory) (key : Key) : Memory :=
  if fs.slot? key = some .folder ∧ fs.childKeys key = [] then fs.unset key else fs

namespace Without

variable {fs gs hs : Memory} {P Q : Key → Prop}

lemma congr (h : fs.Without P gs) (hPQ : ∀ k, P k ↔ Q k) : fs.Without Q gs where
  taken k hk := h.taken k ((hPQ k).mpr hk)
  kept k hk := h.kept k fun hp => hk ((hPQ k).mp hp)

/-- Taking away nothing that is there changes nothing. -/
lemma refl (hP : ∀ k, P k → fs.slot? k = none) : fs.Without P fs where
  taken k hk := hP k hk
  kept _ _ := rfl

lemma trans (h : fs.Without P gs) (h' : gs.Without Q hs) :
    fs.Without (fun k => P k ∨ Q k) hs where
  taken k hk := by
    by_cases hq : Q k
    · exact h'.taken k hq
    · rw [h'.kept k hq]
      exact h.taken k (hk.resolve_right hq)
  kept k hk := (h'.kept k fun hq => hk (.inr hq)).trans (h.kept k fun hp => hk (.inl hp))

/-- What is still there was there, and was not taken. -/
lemma slot?_eq_some_iff (h : fs.Without P gs) {k : Key} {slot : Slot} :
    gs.slot? k = some slot ↔ fs.slot? k = some slot ∧ ¬ P k := by
  by_cases hk : P k
  · simp [h.taken k hk, hk]
  · simp [h.kept k hk, hk]

lemma hasFile_iff (h : fs.Without P gs) {k : Key} :
    gs.HasFile k ↔ fs.HasFile k ∧ ¬ P k := by
  simp only [HasFile, h.slot?_eq_some_iff, exists_and_right]

/-- Tidy file systems without the same keys are the same. -/
lemma unique (h : fs.Without P gs) (h' : fs.Without P hs) (hgs : gs.Tidy) (hhs : hs.Tidy) :
    gs = hs := by
  refine hgs.ext hhs fun k => ?_
  by_cases hk : P k
  · rw [h.taken k hk, h'.taken k hk]
  · rw [h.kept k hk, h'.kept k hk]

end Without

/-! ### Files -/

lemma unset_without (fs : Memory) (key : Key) : fs.Without (· = key) (fs.unset key) where
  taken k hk := by rw [slot?_unset, if_pos hk]
  kept k hk := by rw [slot?_unset, if_neg hk]

lemma dropFile_of_hasFile {fs : Memory} {key : Key} (h : fs.HasFile key) :
    fs.dropFile key = fs.unset key := by
  obtain ⟨path, bytes, hs⟩ := h
  rw [dropFile, hs]

lemma dropFile_of_not_hasFile {fs : Memory} {key : Key} (h : ¬ fs.HasFile key) :
    fs.dropFile key = fs := by
  rw [dropFile]
  split
  · rename_i path bytes hs
    exact absurd ⟨path, bytes, hs⟩ h
  · rfl

lemma dropFile_without (fs : Memory) (key : Key) :
    fs.Without (fun k => k = key ∧ fs.HasFile k) (fs.dropFile key) := by
  by_cases h : fs.HasFile key
  · rw [dropFile_of_hasFile h]
    refine (unset_without fs key).congr fun k => ?_
    exact ⟨fun hk => ⟨hk, hk ▸ h⟩, And.left⟩
  · rw [dropFile_of_not_hasFile h]
    exact .refl fun k hk => absurd (hk.1 ▸ hk.2) h

/-- **The files of a list** are gone, in whatever order they are dropped. -/
theorem dropFiles_without (fs : Memory) (keys : List Key) :
    fs.Without (fun k => k ∈ keys ∧ fs.HasFile k) (keys.foldl dropFile fs) := by
  induction keys generalizing fs with
  | nil => exact .refl (by simp)
  | cons key rest ih =>
      have hhere := dropFile_without fs key
      refine (hhere.trans (ih (fs.dropFile key))).congr fun k => ?_
      rw [hhere.hasFile_iff, List.mem_cons]
      tauto

/-- Without some files, what is below a key is what was below it besides those files. -/
lemma Without.onlyBelow_iff {fs gs : Memory} {files folders : List Key}
    (h : fs.Without (fun k => k ∈ files ∧ fs.HasFile k) gs) {k : Key} :
    gs.OnlyBelow [] folders k ↔ fs.OnlyBelow files folders k := by
  refine forall₂_congr fun below _ => ?_
  rw [h.hasFile_iff, h.slot?_eq_some_iff]
  refine and_congr ?_ ?_
  · simp only [List.not_mem_nil]
    tauto
  · refine imp_congr_left ⟨And.left, fun hfolder => ⟨hfolder, ?_⟩⟩
    exact fun hn => hn.2.ne_folder hfolder

/-! ### Folders -/

/-- A folder can be taken away if there is nothing one component below it. -/
lemma Tidy.childKeys_eq_nil_iff {fs : Memory} (h : fs.Tidy) {key : Key} (hkey : key ≠ []) :
    fs.childKeys key = [] ↔ ∀ c, fs.slot? (key ++ [c]) = none := by
  rw [List.eq_nil_iff_forall_not_mem]
  constructor
  · intro hnone c
    by_contra hc
    exact hnone _ ((h.mem_childKeys_iff hkey).mpr ⟨hc, c, rfl⟩)
  · intro hnone child hchild
    obtain ⟨hc, c, rfl⟩ := (h.mem_childKeys_iff hkey).mp hchild
    exact hc (hnone c)

lemma prune_without (fs : Memory) (key : Key) :
    fs.Without (fun k => k = key ∧ fs.slot? key = some .folder ∧ fs.childKeys key = [])
      (fs.prune key) := by
  rw [prune]
  split_ifs with h
  · exact (unset_without fs key).congr fun k => ⟨fun hk => ⟨hk, h⟩, And.left⟩
  · exact .refl fun k hk => absurd hk.2 h

namespace Tidy

variable {fs gs : Memory}

lemma dropFile (h : fs.Tidy) (key : Key) : (fs.dropFile key).Tidy := by
  by_cases hfile : fs.HasFile key
  · rw [dropFile_of_hasFile hfile]
    exact h.unset fun hkey c => h.below_eq_none hkey (by simp) hfile.ne_folder
  · rwa [dropFile_of_not_hasFile hfile]

lemma prune (h : fs.Tidy) (key : Key) : (fs.prune key).Tidy := by
  rw [Memory.prune]
  split_ifs with hbare
  · exact h.unset fun hkey => (h.childKeys_eq_nil_iff hkey).mp hbare.2
  · exact h

lemma foldl_dropFile (h : fs.Tidy) (keys : List Key) : (keys.foldl Memory.dropFile fs).Tidy := by
  induction keys generalizing fs with
  | nil => exact h
  | cons key rest ih => exact ih (h.dropFile key)

lemma foldl_prune (h : fs.Tidy) (keys : List Key) : (keys.foldl Memory.prune fs).Tidy := by
  induction keys generalizing fs with
  | nil => exact h
  | cons key rest ih => exact ih (h.prune key)

/-- Once the folders of a list are gone as far as they can be, nothing is left in a
folder if and only if nothing but such folders was below it. -/
lemma childKeys_eq_nil_iff_onlyBelow (h : fs.Tidy) (hgs : gs.Tidy) {folders : List Key}
    (hgone : fs.Without (fun k => k ∈ folders ∧ fs.slot? k = some .folder
      ∧ fs.OnlyBelow [] folders k) gs) {key : Key} (hkey : key ≠ []) :
    gs.childKeys key = [] ↔ fs.OnlyBelow [] folders key := by
  rw [hgs.childKeys_eq_nil_iff hkey]
  constructor
  · intro hnone below hbelow
    obtain ⟨c, rest, rfl⟩ := List.exists_cons_of_ne_nil hbelow
    -- something below the key lies in a child, which is there and must be gone
    have hchild : ∀ hsome : fs.slot? (key ++ c :: rest) ≠ none,
        key ++ [c] ∈ folders ∧ fs.slot? (key ++ [c]) = some .folder ∧
          fs.OnlyBelow [] folders (key ++ [c]) := by
      intro hsome
      by_contra hn
      have hc : fs.slot? (key ++ [c]) = none := (hgone.kept _ hn).symm.trans (hnone c)
      have happ : key ++ c :: rest = key ++ [c] ++ rest := by simp
      by_cases hrest : rest = []
      · exact hsome (by rw [hrest, hc])
      · rw [happ, h.below_eq_none (by simp) hrest (by simp [hc])] at hsome
        exact hsome rfl
    have happ : key ++ c :: rest = key ++ [c] ++ rest := by simp
    refine ⟨fun hfile => ?_, fun hfolder => ?_⟩
    · obtain ⟨-, hfolder, honly⟩ := hchild hfile.ne_none
      by_cases hrest : rest = []
      · exact absurd (hrest ▸ hfolder) hfile.ne_folder
      · exact absurd ((honly rest hrest).1 (happ ▸ hfile)) (by simp)
    · obtain ⟨hmem, -, honly⟩ := hchild (by simp [hfolder])
      by_cases hrest : rest = []
      · exact hrest ▸ hmem
      · exact happ ▸ (honly rest hrest).2 (happ ▸ hfolder)
  · intro honly c
    rcases fs.slot?_trichotomy (key ++ [c]) with hnone | hfile | hfolder
    · by_cases hc : key ++ [c] ∈ folders ∧ fs.slot? (key ++ [c]) = some .folder
          ∧ fs.OnlyBelow [] folders (key ++ [c])
      · exact hgone.taken _ hc
      · rw [hgone.kept _ hc, hnone]
    · exact absurd ((honly [c] (by simp)).1 hfile) (by simp)
    · refine hgone.taken _ ⟨(honly [c] (by simp)).2 hfolder, hfolder, fun below hbelow => ?_⟩
      rw [List.append_assoc]
      exact honly _ (by simp)

end Tidy

/-- What is below a key does not depend on a folder that is not deeper than the key. -/
lemma onlyBelow_append_iff {fs : Memory} {folders : List Key} {key k : Key}
    (hlen : key.length ≤ k.length) :
    fs.OnlyBelow [] (folders ++ [key]) k ↔ fs.OnlyBelow [] folders k := by
  refine forall₂_congr fun below hbelow => ?_
  have hne : k ++ below ≠ key := by
    intro he
    have hl := congrArg List.length he
    rw [List.length_append] at hl
    have := List.length_pos_of_ne_nil hbelow
    omega
  simp [hne]

/-- **The folders of a list**, from the deepest on: those are gone that hold nothing but
folders of the list. -/
theorem prune_all_without {fs : Memory} (h : fs.Tidy) {keys : List Key}
    (hdepth : keys.Pairwise fun a b => b.length ≤ a.length) :
    fs.Without (fun k => k ∈ keys ∧ fs.slot? k = some .folder ∧ fs.OnlyBelow [] keys k)
      (keys.foldl prune fs) := by
  induction keys using List.reverseRecOn with
  | nil => exact .refl (by simp)
  | append_singleton front key ih =>
      obtain ⟨hfront, -, hle⟩ := List.pairwise_append.mp hdepth
      have hgone := ih hfront
      have htidy := h.foldl_prune front
      rw [List.foldl_append, List.foldl_cons, List.foldl_nil]
      refine (hgone.trans (prune_without _ key)).congr fun k => ?_
      constructor
      · rintro (⟨hk, hfolder, honly⟩ | ⟨rfl, hfolder, hbare⟩)
        · refine ⟨by simp [hk], hfolder, ?_⟩
          exact (onlyBelow_append_iff (hle k hk key (by simp))).mpr honly
        · have hold := (hgone.slot?_eq_some_iff.mp hfolder).1
          have hkey : k ≠ [] := fun hn => h.start_ne_folder (hn ▸ hold)
          refine ⟨by simp, hold, (onlyBelow_append_iff le_rfl).mpr ?_⟩
          exact (h.childKeys_eq_nil_iff_onlyBelow htidy hgone hkey).mp hbare
      · rintro ⟨hk, hfolder, honly⟩
        by_cases hmem : k ∈ front
        · exact .inl ⟨hmem, hfolder,
            (onlyBelow_append_iff (hle k hmem key (by simp))).mp honly⟩
        · obtain rfl : k = key := by simpa [hmem] using hk
          have hkey : k ≠ [] := fun hn => h.start_ne_folder (hn ▸ hfolder)
          have honly := (onlyBelow_append_iff le_rfl).mp honly
          refine .inr ⟨rfl, hgone.slot?_eq_some_iff.mpr ⟨hfolder, fun hn => hmem hn.1⟩, ?_⟩
          exact (h.childKeys_eq_nil_iff_onlyBelow htidy hgone hkey).mpr honly

end Scaffold.Memory

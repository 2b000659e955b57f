import Mathlib.Tactic
import Scaffold.Proofs.Pruning
import Scaffold.Undo

/-!
What undoing does to a file system in memory.

* `folderOrder` lists the keys of the recorded folders, each once, the deepest first;
* `Undo.Tracks` is the invariant of a run that undoes: the keys that are gone are those
  that were there and are no more, and they have been counted;
* `undo_ensures`: undoing drops the recorded files and then prunes the recorded folders
  in their order;
* `undo_effect`: hence a recorded file is gone, a recorded folder is gone if and only if
  nothing but recorded files and folders was below it, and nothing else is changed. This
  does not depend on the order of a record, and doing it again does nothing.
-/

namespace Scaffold.Undo

open Scaffold.Path

/-! ### The order of folders -/

/-- The keys of the items of a kind that were not there before. -/
def recorded (kind : ItemKind) (items : List CreatedItem) : List Key :=
  (created kind items).map components

lemma mem_recorded {kind : ItemKind} {items : List CreatedItem} {k : Key} :
    k ∈ recorded kind items ↔
      ∃ item ∈ items, item.preExisted = false ∧ item.kind = kind ∧ components item.path = k := by
  simp only [recorded, created, List.map_map, List.mem_map, List.mem_filter, Function.comp_apply,
    Bool.and_eq_true, Bool.not_eq_true', decide_eq_true_eq, and_assoc]

/-- One more item records its path if it was not there before. -/
lemma recorded_concat (kind : ItemKind) (items : List CreatedItem) (item : CreatedItem) :
    recorded kind (items ++ [item]) = recorded kind items ++
      if item.preExisted = false ∧ item.kind = kind then [components item.path] else [] := by
  simp only [recorded, created, List.filter_append, List.map_append]
  congr 1
  by_cases h : item.preExisted = false ∧ item.kind = kind
  · simp [h]
  · rw [if_neg h, List.filter_cons_of_neg, List.filter_nil, List.map_nil, List.map_nil]
    simpa using h

/-- A folder comes before another if it is deeper, or as deep and not after it. -/
lemma isBefore_iff {a b : String} :
    isBefore a b ↔ (components b).length < (components a).length ∨
      (components a).length = (components b).length ∧ components a ≤ components b := by
  simp [isBefore, List.not_lt]

lemma isBefore_trans (a b c : String) (hab : isBefore a b) (hbc : isBefore b c) :
    isBefore a c := by
  rw [isBefore_iff] at hab hbc ⊢
  rcases hab with hab | ⟨hab, hle⟩ <;> rcases hbc with hbc | ⟨hbc, hle'⟩
  · exact .inl (by omega)
  · exact .inl (by omega)
  · exact .inl (by omega)
  · exact .inr ⟨by omega, List.le_trans hle hle'⟩

lemma isBefore_total (a b : String) : isBefore a b || isBefore b a := by
  rw [Bool.or_eq_true, isBefore_iff, isBefore_iff]
  rcases Nat.lt_trichotomy (components a).length (components b).length with h | h | h
  · exact .inr (.inl h)
  · rcases List.le_total (components a) (components b) with hle | hle
    · exact .inl (.inr ⟨h, hle⟩)
    · exact .inr (.inr ⟨h.symm, hle⟩)
  · exact .inl (.inl h)

/-- Paths that come before each other mean the same. -/
lemma isBefore_antisymm {a b : String} (hab : isBefore a b) (hba : isBefore b a) :
    components a = components b := by
  rw [isBefore_iff] at hab hba
  rcases hab with hab | ⟨hab, hle⟩ <;> rcases hba with hba | ⟨hba, hle'⟩
  · omega
  · omega
  · omega
  · exact List.le_antisymm hle hle'

lemma withoutRepeats_sublist (paths : List String) : (withoutRepeats paths).Sublist paths := by
  fun_induction withoutRepeats paths with
  | case1 a b rest _ ih => exact ih.trans (.cons_cons a (List.sublist_cons_self b rest))
  | case2 a b rest _ ih => exact ih.cons_cons a
  | case3 paths => exact List.Sublist.refl _

/-- Leaving repeats out loses no key. -/
lemma mem_map_withoutRepeats {paths : List String} {k : Key} :
    k ∈ (withoutRepeats paths).map components ↔ k ∈ paths.map components := by
  fun_induction withoutRepeats paths with
  | case1 a b rest heq ih => simp_all
  | case2 a b rest _ ih => simp_all
  | case3 paths => rfl

/-- In order, what means the same stands together, so each key is left once. -/
lemma nodup_withoutRepeats {paths : List String}
    (h : paths.Pairwise fun a b => isBefore a b) :
    ((withoutRepeats paths).map components).Nodup := by
  fun_induction withoutRepeats paths with
  | case1 a b rest _ ih =>
      exact ih (h.sublist (.cons_cons a (List.sublist_cons_self b rest)))
  | case2 a b rest hne ih =>
      have hrest := (List.pairwise_cons.mp h).2
      rw [List.map_cons, List.nodup_cons]
      refine ⟨fun hmem => hne ?_, ih hrest⟩
      obtain ⟨x, hx, hxa⟩ := List.mem_map.mp (mem_map_withoutRepeats.mp hmem)
      have hab := (List.pairwise_cons.mp h).1 b (by simp)
      rcases List.mem_cons.mp hx with rfl | hx
      · exact hxa.symm
      · have hbx := (List.pairwise_cons.mp hrest).1 x hx
        rw [isBefore_iff, hxa, ← isBefore_iff] at hbx
        exact isBefore_antisymm hab hbx
  | case3 paths hshort =>
      match paths with
      | [] => simp
      | [a] => simp
      | a :: b :: rest => exact absurd rfl (hshort a b rest)

lemma pairwise_mergeSort_isBefore (paths : List String) :
    (paths.mergeSort isBefore).Pairwise fun a b => isBefore a b :=
  List.pairwise_mergeSort isBefore_trans isBefore_total paths

/-- The keys of folders, in the order in which the folders are deleted. -/
def folderKeys (items : List CreatedItem) : List Key :=
  (folderOrder (created .folder items)).map components

lemma mem_folderKeys {items : List CreatedItem} {k : Key} :
    k ∈ folderKeys items ↔ k ∈ recorded .folder items := by
  rw [folderKeys, folderOrder, mem_map_withoutRepeats]
  exact ((List.mergeSort_perm _ _).map components).mem_iff

/-- Each folder comes up once. -/
lemma nodup_folderKeys (items : List CreatedItem) : (folderKeys items).Nodup :=
  nodup_withoutRepeats (pairwise_mergeSort_isBefore _)

/-- Folders come up from the deepest on. -/
lemma pairwise_folderKeys (items : List CreatedItem) :
    (folderKeys items).Pairwise fun a b => b.length ≤ a.length := by
  rw [folderKeys, List.pairwise_map]
  refine ((pairwise_mergeSort_isBefore _).sublist (withoutRepeats_sublist _)).imp ?_
  intro a b hab
  rcases isBefore_iff.mp hab with h | ⟨h, -⟩
  · omega
  · omega

/-! ### Progress -/

/-- What is gone of a file system is what was there and is no more, and has been
counted. -/
structure Tracks (fs : Memory) (p : Progress) (gs : Memory) : Prop where
  tidy : gs.Tidy
  without : fs.Without (· ∈ p.gone) gs
  present : ∀ k ∈ p.gone, fs.slot? k ≠ none
  nodup : p.gone.Nodup
  files : p.undoing.summary.filesDeleted = p.gone.countP (fs.slot? · ≠ some .folder)
  folders : p.undoing.summary.foldersDeleted = p.gone.countP (fs.slot? · = some .folder)

namespace Tracks

variable {fs gs : Memory} {p : Progress}

lemma start (h : fs.Tidy) : Tracks fs {} fs where
  tidy := h
  without := .refl (by simp)
  present := by simp
  nodup := List.nodup_nil
  files := rfl
  folders := rfl

/-- What is still there is not gone, and is what it was. -/
lemma slot?_eq (h : Tracks fs p gs) {k : Key} {slot : Memory.Slot} (hk : gs.slot? k = some slot) :
    k ∉ p.gone ∧ fs.slot? k = some slot :=
  (h.without.slot?_eq_some_iff.mp hk).symm

/-- If nothing is changed then nothing was deleted. -/
lemma gone_eq_nil (h : Tracks fs p fs) : p.gone = [] := by
  rw [List.eq_nil_iff_forall_not_mem]
  exact fun k hk => h.present k hk (h.without.taken k hk)

end Tracks

/-! ### Deleting -/

section Delete

variable {s : Settings} {fs gs : Memory} {p : Progress} {after : Unit → Progress → Memory → Prop}

/-- Keeping an item deletes nothing. -/
lemma skip_ensures (h : Tracks fs p gs) (message : String) (details : Option String) :
    Ensures Memory.answering (skip message details) p gs fun _ p' gs' =>
      gs' = gs ∧ Tracks fs p' gs' ∧ p'.undoing.summary.errors = p.undoing.summary.errors := by
  simp only [skip, count, log, ensures_bind, ensures_modify]
  exact ⟨trivial, ⟨h.tidy, h.without, h.present, h.nodup, h.files, h.folders⟩, trivial⟩

/-- Something that goes wrong deletes nothing. -/
lemma fail_ensures (h : Tracks fs p gs) (message : String) (e : Failure) :
    Ensures Memory.answering (fail message e) p gs fun _ p' gs' =>
      gs' = gs ∧ Tracks fs p' gs' := by
  simp only [fail, count, log, ensures_bind, ensures_modify]
  exact ⟨trivial, ⟨h.tidy, h.without, h.present, h.nodup, h.files, h.folders⟩⟩

/-- A deletion that is noted as it is done keeps track. -/
lemma noteGone_ensures (h : Tracks fs p gs) {kind : ItemKind} {path : String}
    (hthere : gs.slot? (components path) ≠ none)
    (hkind : gs.slot? (components path) = some .folder ↔ kind = .folder)
    (htidy : (gs.unset (components path)).Tidy) (logKind : LogKind) (verb : String) :
    Ensures Memory.answering (noteGone kind path logKind verb) p (gs.unset (components path))
      fun _ p' gs' => gs' = gs.unset (components path) ∧ Tracks fs p' gs' ∧
        p'.undoing.summary.errors = p.undoing.summary.errors := by
  obtain ⟨slot, hslot⟩ := Option.ne_none_iff_exists'.mp hthere
  obtain ⟨hgone, hold⟩ := h.slot?_eq hslot
  have hwithout : fs.Without (· ∈ components path :: p.gone) (gs.unset (components path)) := by
    refine (h.without.trans (Memory.unset_without gs (components path))).congr fun k => ?_
    rw [List.mem_cons, or_comm]
  have hpresent : ∀ k ∈ components path :: p.gone, fs.slot? k ≠ none := by
    intro k hk
    rcases List.mem_cons.mp hk with rfl | hk
    · simp [hold]
    · exact h.present k hk
  rw [hslot] at hkind
  simp only [noteGone, count, log, ensures_bind, ensures_modify]
  refine ⟨trivial, ⟨htidy, hwithout, hpresent, List.nodup_cons.mpr ⟨hgone, h.nodup⟩, ?_, ?_⟩, ?_⟩
  · cases kind <;> simp_all [h.files]
  · cases kind <;> simp_all [h.folders]
  · cases kind <;> rfl

/-- **Undoing a file** drops it. -/
theorem undoFile_ensures (hdry : s.dryRun = false) (h : Tracks fs p gs) (path : String) :
    Ensures Memory.answering (undoFile s path) p gs fun _ p' gs' =>
      gs' = gs.dropFile (components path) ∧ Tracks fs p' gs' ∧
        p'.undoing.summary.errors = p.undoing.summary.errors := by
  rw [undoFile, ensures_bind, ask, Memory.ensures_call_iff (by simp [Call.path?])]
  rcases gs.slot?_trichotomy (components path) with hs | hs | hs
  · rw [Memory.dropFile_of_not_hasFile fun hf => hf.ne_none hs]
    simp only [Memory.answer, Memory.entry_of_none hs]
    exact skip_ensures h _ _
  · obtain ⟨size, hentry⟩ := Memory.entry_of_hasFile hs
    rw [Memory.dropFile_of_hasFile hs]
    simp only [Memory.answer, hentry, Entry.isFile, decide_true, ↓reduceIte, delete, hdry,
      Bool.false_eq_true]
    rw [ensures_bind, ask, Memory.ensures_call_iff (by simp [Call.path?])]
    rcases Memory.removeFile_cases gs path with ⟨e, -, hno⟩ | ⟨hrun, -⟩
    · exact absurd hs hno
    · simp only [Memory.answer, hrun]
      have htidy := h.tidy.dropFile (components path)
      rw [Memory.dropFile_of_hasFile hs] at htidy
      exact noteGone_ensures h hs.ne_none (by simp [hs.ne_folder]) htidy _ _
  · rw [Memory.dropFile_of_not_hasFile fun hf => hf.ne_folder hs]
    simp only [Memory.answer, Memory.entry_of_folder hs, Entry.isFile, reduceCtorEq, decide_false,
      Bool.false_eq_true, ↓reduceIte]
    exact skip_ensures h _ _

/-- A folder that lists a name has a child. -/
lemma childKeys_ne_nil_of_mem_list {path name : String} {names : List String}
    (hlist : gs.list path = .ok names) (hname : name ∈ names) :
    gs.childKeys (components path) ≠ [] := by
  rw [Memory.list] at hlist
  split_ifs at hlist
  obtain rfl := Except.ok.inj hlist
  obtain ⟨key, hkey, -⟩ := List.mem_filterMap.mp hname
  exact List.ne_nil_of_mem hkey

/-- **Undoing a folder** prunes it. If that goes wrong, the folder is still there. -/
theorem undoFolder_ensures (hdry : s.dryRun = false) (h : Tracks fs p gs) (path : String) :
    Ensures Memory.answering (undoFolder s path) p gs fun _ p' gs' =>
      gs' = gs.prune (components path) ∧ Tracks fs p' gs' ∧
        (gs'.slot? (components path) = none →
          p'.undoing.summary.errors = p.undoing.summary.errors) := by
  have hskip : ¬ (gs.slot? (components path) = some .folder ∧
      gs.childKeys (components path) = []) → ∀ message details,
      Ensures Memory.answering (skip message details) p gs fun _ p' gs' =>
        gs' = gs.prune (components path) ∧ Tracks fs p' gs' ∧
          (gs'.slot? (components path) = none →
            p'.undoing.summary.errors = p.undoing.summary.errors) := by
    intro hno message details
    have hkept : gs.prune (components path) = gs := if_neg hno
    rw [hkept]
    refine (skip_ensures h _ _).mono ?_
    rintro _ p' gs' ⟨hgs, ht, he⟩
    exact ⟨hgs, ht, fun _ => he⟩
  rw [undoFolder, ensures_bind, ask, Memory.ensures_call_iff (by simp [Call.path?])]
  rcases gs.slot?_trichotomy (components path) with hs | hs | hs
  · simp only [Memory.answer, Memory.entry_of_none hs]
    exact hskip (by simp [hs]) _ _
  · obtain ⟨size, hentry⟩ := Memory.entry_of_hasFile hs
    simp only [Memory.answer, hentry, Entry.isFolder, reduceCtorEq, decide_false, Bool.not_false,
      ↓reduceIte]
    exact hskip (fun hn => hs.ne_folder hn.1) _ _
  have hisFolder : gs.isFolder path := by simpa [Memory.isFolder] using hs
  have hlist : ∃ names, gs.list path = .ok names := ⟨_, by rw [Memory.list, if_pos hisFolder]⟩
  obtain ⟨names, hnames⟩ := hlist
  simp only [Memory.answer, Memory.entry_of_folder hs, Entry.isFolder, decide_true, Bool.not_true,
    Bool.false_eq_true, ↓reduceIte]
  rw [ensures_bind, ask, Memory.ensures_call_iff (by simp [Call.path?])]
  simp only [Memory.answer, hnames, ensures_bind, ensures_get]
  split_ifs with hall
  · simp only [delete, hdry, Bool.false_eq_true, ↓reduceIte]
    rw [ensures_bind, ask, Memory.ensures_call_iff (by simp [Call.path?])]
    rcases Memory.removeFolder_cases gs path with ⟨e, hrun, hno⟩ | ⟨hrun, -, hbare⟩
    · have hkept : gs.prune (components path) = gs := if_neg fun hn => by
        rcases hno with hno | hno
        · exact hno hs
        · exact hno hn.2
      simp only [Memory.answer, hrun]
      rw [hkept]
      refine (fail_ensures h _ e).mono ?_
      rintro _ p' gs' ⟨hgs, ht⟩
      refine ⟨hgs, ht, fun hnone => ?_⟩
      rw [hgs, hs] at hnone
      simp at hnone
    · have hgone : gs.prune (components path) = gs.unset (components path) := if_pos ⟨hs, hbare⟩
      have htidy := h.tidy.prune (components path)
      simp only [Memory.answer, hrun]
      rw [hgone] at htidy ⊢
      refine (noteGone_ensures h (by simp [hs]) (by simp [hs]) htidy _ _).mono ?_
      rintro _ _ _ ⟨hgs, ht, he⟩
      exact ⟨hgs, ht, fun _ => he⟩
  · -- a name is listed whose key is not gone, so something lies in the folder
    have hbusy : gs.childKeys (components path) ≠ [] := by
      simp only [List.all_eq_true, not_forall] at hall
      obtain ⟨name, hname, -⟩ := hall
      exact childKeys_ne_nil_of_mem_list hnames hname
    exact hskip (fun hn => hbusy hn.2) _ _

/-! ### Undoing a record -/

lemma keep_ensures (h : Tracks fs p gs) (items : List CreatedItem) :
    Ensures Memory.answering
      (items.forM fun item => skip s!"Skipped (pre-existed): {item.path}"
        "This item existed before creation and was overwritten") p gs
      fun _ p' gs' => gs' = gs ∧ Tracks fs p' gs' ∧
        p'.undoing.summary.errors = p.undoing.summary.errors := by
  induction items generalizing p with
  | nil => exact ensures_pure.mpr ⟨rfl, h, rfl⟩
  | cons item rest ih =>
      rw [ensures_forM_cons]
      refine (skip_ensures h _ _).mono ?_
      rintro _ p' gs' ⟨hgs, ht, he⟩
      subst hgs
      refine (ih ht).mono ?_
      rintro _ _ _ ⟨hgs, ht, he'⟩
      exact ⟨hgs, ht, he'.trans he⟩

lemma files_ensures (hdry : s.dryRun = false) (h : Tracks fs p gs) (paths : List String) :
    Ensures Memory.answering (paths.forM (undoFile s)) p gs fun _ p' gs' =>
      gs' = (paths.map components).foldl Memory.dropFile gs ∧ Tracks fs p' gs' ∧
        p'.undoing.summary.errors = p.undoing.summary.errors := by
  induction paths generalizing p gs with
  | nil => exact ensures_pure.mpr ⟨rfl, h, rfl⟩
  | cons path rest ih =>
      rw [ensures_forM_cons]
      refine (undoFile_ensures hdry h path).mono ?_
      rintro _ p' gs' ⟨hgs, ht, he⟩
      subst hgs
      refine (ih ht).mono ?_
      rintro _ _ _ ⟨hgs, ht, he'⟩
      exact ⟨hgs, ht, he'.trans he⟩

/-- Pruning some folders leaves the others alone. -/
lemma slot?_foldl_prune (gs : Memory) {keys : List Key} {k : Key} (hk : k ∉ keys) :
    (keys.foldl Memory.prune gs).slot? k = gs.slot? k := by
  induction keys generalizing gs with
  | nil => rfl
  | cons key rest ih =>
      rw [List.mem_cons, not_or] at hk
      exact (ih _ hk.2).trans ((Memory.prune_without gs key).kept k fun hn => hk.1 hn.1)

lemma folders_ensures (hdry : s.dryRun = false) (h : Tracks fs p gs) {paths : List String}
    (hnodup : (paths.map components).Nodup) :
    Ensures Memory.answering (paths.forM (undoFolder s)) p gs fun _ p' gs' =>
      gs' = (paths.map components).foldl Memory.prune gs ∧ Tracks fs p' gs' ∧
        ((∀ k ∈ paths.map components, gs'.slot? k = none) →
          p'.undoing.summary.errors = p.undoing.summary.errors) := by
  induction paths generalizing p gs with
  | nil => exact ensures_pure.mpr ⟨rfl, h, fun _ => rfl⟩
  | cons path rest ih =>
      obtain ⟨hpath, hrest⟩ := List.nodup_cons.mp hnodup
      rw [ensures_forM_cons]
      refine (undoFolder_ensures hdry h path).mono ?_
      rintro _ p' gs' ⟨hgs, ht, he⟩
      refine (ih ht hrest).mono ?_
      rintro _ p'' gs'' ⟨hgs', ht', he'⟩
      refine ⟨?_, ht', fun hnone => ?_⟩
      · rw [hgs', hgs, List.map_cons, List.foldl_cons]
      · -- what is gone in the end was gone when its turn was over
        have hhere : gs'.slot? (components path) = none := by
          rw [← slot?_foldl_prune gs' hpath, ← hgs']
          exact hnone _ (by simp)
        rw [he' fun k hk => hnone k (List.mem_cons_of_mem _ hk), he hhere]

/-- The keys that undoing a record takes away. -/
def Takes (fs : Memory) (items : List CreatedItem) (k : Key) : Prop :=
  (k ∈ recorded .file items ∧ fs.HasFile k) ∨
  (k ∈ recorded .folder items ∧ fs.slot? k = some .folder ∧
    fs.OnlyBelow (recorded .file items) (recorded .folder items) k)

/-- Dropping the files and then pruning the folders of a record takes just those keys. -/
lemma takes_without (h : fs.Tidy) {items : List CreatedItem} {files : List Key}
    (hfiles : ∀ k, k ∈ files ↔ k ∈ recorded .file items) :
    fs.Without (Takes fs items)
      ((folderKeys items).foldl Memory.prune (files.foldl Memory.dropFile fs)) := by
  have hdropped := Memory.dropFiles_without fs files
  have hpruned := Memory.prune_all_without (h.foldl_dropFile files) (pairwise_folderKeys items)
  refine (hdropped.trans hpruned).congr fun k => or_congr (by rw [hfiles]) ?_
  rw [hdropped.onlyBelow_iff, hdropped.slot?_eq_some_iff, mem_folderKeys, Memory.OnlyBelow,
    Memory.OnlyBelow]
  simp only [hfiles, mem_folderKeys]
  refine and_congr_right fun _ => and_congr_left fun _ => ⟨And.left, fun hfolder => ?_⟩
  exact ⟨hfolder, fun hn => hn.2.ne_folder hfolder⟩

/-- **Undoing a record** takes its files away, and the folders that hold nothing else.
Nothing goes wrong if all its folders are gone in the end. -/
theorem undo_ensures (hdelete : s.canDelete) (hdry : s.dryRun = false) (h : fs.Tidy)
    (items : List CreatedItem) :
    (undo s items).Ensures Memory.answering (fun result gs => ∃ p : Progress,
      result = .ok p.undoing ∧ Tracks fs p gs ∧ fs.Without (Takes fs items) gs ∧
      ((∀ k ∈ recorded .folder items, gs.slot? k = none) → p.undoing.summary.errors = 0)) fs := by
  rw [undo, hdelete, Bool.not_true, if_neg (by simp), ensures_run]
  rw [ensures_bind]
  refine (keep_ensures (.start h) _).mono ?_
  rintro _ p₁ fs₁ ⟨hfs₁, ht₁, he₁⟩
  rw [ensures_bind]
  refine (files_ensures hdry ht₁ _).mono ?_
  rintro _ p₂ fs₂ ⟨hfs₂, ht₂, he₂⟩
  refine (folders_ensures hdry ht₂ (nodup_folderKeys items)).mono ?_
  rintro _ p₃ fs₃ ⟨hfs₃, ht₃, he₃⟩
  subst hfs₁ hfs₂
  refine ⟨p₃, rfl, ht₃, ?_, fun hnone => ?_⟩
  · rw [hfs₃]
    exact takes_without h (by simp [recorded])
  · rw [he₃ fun k hk => hnone k (mem_folderKeys.mp hk), he₂, he₁]

end Delete

/-! ### What is left -/

section Left

variable {fs gs : Memory} {items : List CreatedItem}

/-- The files that are left are those that were not recorded. -/
lemma slot?_eq_file_iff (h : fs.Without (Takes fs items) gs) {k : Key} {path : String}
    {bytes : ByteArray} :
    gs.slot? k = some (.file path bytes) ↔
      fs.slot? k = some (.file path bytes) ∧ k ∉ recorded .file items := by
  rw [h.slot?_eq_some_iff]
  refine and_congr_right fun hs => not_congr ⟨fun htakes => ?_, fun hk => ?_⟩
  · rcases htakes with ⟨hk, -⟩ | ⟨-, hfolder, -⟩
    · exact hk
    · simp [hs] at hfolder
  · exact .inl ⟨hk, path, bytes, hs⟩

/-- The folders that are left are those that were not recorded or held something else. -/
lemma slot?_eq_folder_iff (h : fs.Without (Takes fs items) gs) {k : Key} :
    gs.slot? k = some .folder ↔ fs.slot? k = some .folder ∧ ¬ (k ∈ recorded .folder items ∧
      fs.OnlyBelow (recorded .file items) (recorded .folder items) k) := by
  rw [h.slot?_eq_some_iff]
  refine and_congr_right fun hs => not_congr ⟨fun htakes => ?_, fun hk => ?_⟩
  · rcases htakes with ⟨-, hfile⟩ | ⟨hk, -, honly⟩
    · exact absurd hs hfile.ne_folder
    · exact ⟨hk, honly⟩
  · exact .inr ⟨hk.1, hs, hk.2⟩

/-- A recorded folder that is left still holds something that was not recorded. -/
lemma not_onlyBelow_of_left (h : fs.Without (Takes fs items) gs) {k : Key}
    (hk : k ∈ recorded .folder items) (hfolder : gs.slot? k = some .folder) :
    ¬ gs.OnlyBelow (recorded .file items) (recorded .folder items) k := by
  intro honly
  obtain ⟨hold, hno⟩ := (slot?_eq_folder_iff h).mp hfolder
  refine hno ⟨hk, fun below hbelow => ⟨fun hfile => ?_, fun hbelowFolder => ?_⟩⟩
  · by_contra hnot
    obtain ⟨path, bytes, hs⟩ := hfile
    exact hnot ((honly below hbelow).1 ⟨path, bytes, (slot?_eq_file_iff h).mpr ⟨hs, hnot⟩⟩)
  · by_contra hnot
    have hleft := (slot?_eq_folder_iff h).mpr ⟨hbelowFolder, fun hn => hnot hn.1⟩
    exact hnot ((honly below hbelow).2 hleft)

/-- What is left holds nothing that would be taken away again. -/
lemma not_takes_of_left (h : fs.Without (Takes fs items) gs) (k : Key) : ¬ Takes gs items k := by
  rintro (⟨hk, path, bytes, hs⟩ | ⟨hk, hfolder, honly⟩)
  · exact ((slot?_eq_file_iff h).mp hs).2 hk
  · exact not_onlyBelow_of_left h hk hfolder honly

/-- What is taken away depends only on what is recorded. -/
lemma takes_congr {items' : List CreatedItem}
    (h : ∀ kind k, k ∈ recorded kind items' ↔ k ∈ recorded kind items) (k : Key) :
    Takes fs items' k ↔ Takes fs items k := by
  simp only [Takes, Memory.OnlyBelow, h]

/-- What was only recorded as being there before is not taken away. -/
lemma not_takes_of_preExisted {k : Key}
    (h : ∀ item ∈ items, components item.path = k → item.preExisted) : ¬ Takes fs items k := by
  have hnot : ∀ kind, k ∉ recorded kind items := by
    intro kind hk
    obtain ⟨item, hitem, hnew, -, hkey⟩ := mem_recorded.mp hk
    simp [h item hitem hkey] at hnew
  rintro (⟨hk, -⟩ | ⟨hk, -⟩)
  · exact hnot _ hk
  · exact hnot _ hk

end Left

/-- Undoing on a host that keeps its files in memory keeps track of what it does. -/
lemma undo_on {σ : Type} {host : Host (StateM σ)} {view : σ → Memory}
    (hhost : host.Within view Memory.answering) {st : σ} (hst : (view st).Tidy)
    (items : List CreatedItem) :
    ∃ (p : Progress) (st' : σ),
      (undo {} items).on host st = (.ok p.undoing, st') ∧ Tracks (view st) p (view st') ∧
        (view st).Without (Takes (view st) items) (view st') ∧
        ((∀ k ∈ recorded .folder items, (view st').slot? k = none) →
          p.undoing.summary.errors = 0) := by
  obtain ⟨p, hresult, hrest⟩ := hhost.on (undo_ensures (s := {}) rfl rfl hst items)
  exact ⟨p, _, Prod.ext hresult rfl, hrest⟩

/-- **The effect of undoing.** Whatever is recorded, in any order, with repeats and with
wrong kinds, undoing succeeds and leaves just the files that are not recorded as new, and
all folders but those that are recorded as new and held only such files and folders. So
the result depends on what is recorded alone; what is recorded only as being there before
is kept; a folder that is deleted leaves nothing behind; each recorded folder that is left
still holds something; and undoing again deletes nothing. -/
theorem undo_effect {fs : Memory} (hfs : fs.Reachable) (items : List CreatedItem)
    (outside : Outside) :
    ∃ u gs, (undo {} items).on (Memory.host outside) fs = (.ok u, gs) ∧
      (∀ k path bytes, gs.slot? k = some (.file path bytes) ↔
        fs.slot? k = some (.file path bytes) ∧ k ∉ recorded .file items) ∧
      (∀ k, gs.slot? k = some .folder ↔ fs.slot? k = some .folder ∧
        ¬ (k ∈ recorded .folder items ∧
          fs.OnlyBelow (recorded .file items) (recorded .folder items) k)) ∧
      (∀ items', (∀ kind k, k ∈ recorded kind items' ↔ k ∈ recorded kind items) →
        ((undo {} items').on (Memory.host outside) fs).2 = gs) ∧
      (∀ k, (∀ item ∈ items, components item.path = k → item.preExisted) →
        gs.slot? k = fs.slot? k) ∧
      (∀ k, fs.slot? k = some .folder → gs.slot? k = none →
        ∀ below, below ≠ [] → gs.slot? (k ++ below) = none) ∧
      (∀ k ∈ recorded .folder items, gs.slot? k = some .folder →
        ∃ below, below ≠ [] ∧ gs.slot? (k ++ below) ≠ none) ∧
      ∃ u', (undo {} items).on (Memory.host outside) gs = (.ok u', gs) ∧
        u'.summary.filesDeleted = 0 ∧ u'.summary.foldersDeleted = 0 := by
  have htidy := hfs.tidy
  have hhost := Memory.host_within outside
  obtain ⟨p, gs, hrun, ht, hleft, -⟩ := undo_on hhost htidy items
  refine ⟨p.undoing, gs, hrun, fun k path bytes => slot?_eq_file_iff hleft,
    fun k => slot?_eq_folder_iff hleft, fun items' hsame => ?_, fun k hk => ?_,
    fun k hfolder hnone below hbelow => ?_, fun k hk hfolder => ?_, ?_⟩
  · obtain ⟨p', gs', hrun', ht', hleft', -⟩ := undo_on hhost htidy items'
    rw [hrun']
    exact (hleft'.congr fun k => takes_congr hsame k).unique hleft ht'.tidy ht.tidy
  · exact hleft.kept k (not_takes_of_preExisted hk)
  · have hk : k ≠ [] := fun hn => htidy.start_ne_folder (hn ▸ hfolder)
    exact ht.tidy.below_eq_none hk hbelow (by simp [hnone])
  · by_contra hno
    push Not at hno
    refine not_onlyBelow_of_left hleft hk hfolder fun below hbelow => ⟨fun hfile => ?_, fun h => ?_⟩
    · exact absurd (hno below hbelow) hfile.ne_none
    · simp [hno below hbelow] at h
  · obtain ⟨p', gs', hrun', ht', hleft', -⟩ := undo_on hhost ht.tidy items
    obtain rfl : gs' = gs := hleft'.unique
      (.refl fun k hk => absurd hk (not_takes_of_left hleft k)) ht'.tidy ht.tidy
    have hgone := ht'.gone_eq_nil
    refine ⟨p'.undoing, hrun', ?_, ?_⟩
    · rw [ht'.files, hgone, List.countP_nil]
    · rw [ht'.folders, hgone, List.countP_nil]

/-- A file that was created is gone, and the folder that was there before is kept. -/
theorem undo_effect_nested :
    let fs := ((Memory.empty.makeFolder "out/a").2.write "out/a/b" ⟨#[1]⟩).2
    let items : List CreatedItem :=
      [⟨"out/a", .folder, false⟩, ⟨"out", .folder, true⟩, ⟨"out/a/b", .file, false⟩]
    let gs := ((undo {} items).on (Memory.host {}) fs).2
    gs.slot? (components "out/a/b") = none ∧ gs.slot? (components "out") = some .folder := by
  intro fs items gs
  have hfs : fs.Reachable :=
    .call {} (.write "out/a/b" ⟨#[1]⟩) (.call {} (.makeFolder "out/a") .empty)
  obtain ⟨u, gs', hrun, hfiles, hfolders, -, hkept, -⟩ := undo_effect hfs items {}
  obtain rfl : gs = gs' := congrArg Prod.snd hrun
  refine ⟨?_, ?_⟩
  · rcases gs.slot?_trichotomy (components "out/a/b") with hnone | ⟨path, bytes, hs⟩ | hs
    · exact hnone
    · exact absurd (by decide) ((hfiles _ path bytes).mp hs).2
    · exact absurd ((hfolders _).mp hs).1 (by decide)
  · rw [hkept _ (by decide)]
    decide

end Scaffold.Undo

import Mathlib.Tactic
import Scaffold.Proofs.Undo

/-!
A dry run of undoing, beside a run that deletes.

* `Undo.IsDue`: what is at a key is deleted in its turn, as far as the names tell that are
  listed; `Memory.IsRemovable`: it can be removed;
* `Undo.Turn`: what becomes of a key in its turn, in a dry run or not. `undoFile_turn` and
  `undoFolder_turn`: undoing gives each key its turn, so `undo_turns` is a run of them;
* `Turns.total`: each turn is counted once, as a deletion, as kept or as an error;
* `Undo.Agree` is the invariant of two runs side by side: as long as nothing goes wrong, the
  same keys are gone in both, and the same number of folders (`Agree.turns`);
* `dry_undo_counts_repeats`: so a dry run counts what the other one counts exactly if no file
  that is there is recorded twice and no folder holds something that is not listed.
-/

namespace Scaffold

open Scaffold.Path

namespace Memory

instance (fs : Memory) : DecidablePred fs.HasFile := fun k =>
  match h : fs.slot? k with
  | some (.file path bytes) => isTrue ⟨path, bytes, h⟩
  | none => isFalse fun hf => hf.ne_none h
  | some .folder => isFalse fun hf => hf.ne_folder h

/-- A file, or a folder in which nothing lies. -/
def IsRemovable (fs : Memory) (k : Key) : ItemKind → Prop
  | .file => fs.HasFile k
  | .folder => fs.slot? k = some .folder ∧ fs.childKeys k = []

/-- Removing what can be removed leaves the others in their folders. -/
lemma Tidy.unset_of_isRemovable {fs : Memory} (h : fs.Tidy) {k : Key} {kind : ItemKind}
    (hk : fs.IsRemovable k kind) : (fs.unset k).Tidy := by
  cases kind with
  | file =>
      rw [← dropFile_of_hasFile hk]
      exact h.dropFile k
  | folder =>
      have hprune : fs.prune k = fs.unset k := if_pos hk
      rw [← hprune]
      exact h.prune k

/-- A folder lists the names of what is directly in it. -/
lemma Tidy.mem_list_iff {fs : Memory} (h : fs.Tidy) {path name : String} {names : List String}
    (hlist : fs.list path = .ok names) :
    name ∈ names ↔ fs.slot? (components path ++ [.name name]) ≠ none := by
  rw [Memory.list] at hlist
  split_ifs at hlist with hfolder
  obtain rfl := Except.ok.inj hlist
  have hne : components path ≠ [] := fun hn =>
    h.start_ne_folder (hn ▸ by simpa [isFolder] using hfolder)
  rw [List.mem_filterMap]
  constructor
  · rintro ⟨key, hkey, hname⟩
    obtain ⟨hs, c, rfl⟩ := (h.mem_childKeys_iff hne).mp hkey
    cases c <;> simp_all
  · exact fun hs => ⟨_, (h.mem_childKeys_iff hne).mpr ⟨hs, _, rfl⟩, by simp⟩

end Memory

namespace Undo

/-! ### Turns -/

/-- What is at a key is deleted in its turn: a file, or a folder in which each name that is
listed is gone. -/
def IsDue (fs : Memory) (gone : List Key) (k : Key) : ItemKind → Prop
  | .file => fs.HasFile k
  | .folder => fs.slot? k = some .folder ∧
      ∀ name, fs.slot? (k ++ [.name name]) ≠ none → k ++ [.name name] ∈ gone

/-- A summary with one more deletion. -/
def oneMore (kind : ItemKind) (s : UndoSummary) : UndoSummary :=
  match kind with
  | .file => { s with filesDeleted := s.filesDeleted + 1 }
  | .folder => { s with foldersDeleted := s.foldersDeleted + 1 }

/-- What becomes of a key in its turn, in a dry run or not. -/
inductive Turn (dry : Bool) (kind : ItemKind) (k : Key) (p : Progress) (fs : Memory)
    (p' : Progress) : Memory → Prop
  | foretold : dry = true → IsDue fs p.gone k kind → p'.gone = k :: p.gone →
      p'.undoing.summary = oneMore kind p.undoing.summary → Turn dry kind k p fs p' fs
  | deleted : dry = false → IsDue fs p.gone k kind → fs.IsRemovable k kind →
      p'.gone = k :: p.gone → p'.undoing.summary = oneMore kind p.undoing.summary →
      Turn dry kind k p fs p' (fs.unset k)
  /-- Something lies in a folder that is not listed. -/
  | failed : dry = false → IsDue fs p.gone k kind → ¬ fs.IsRemovable k kind → p'.gone = p.gone →
      p'.undoing.summary = { p.undoing.summary with errors := p.undoing.summary.errors + 1 } →
      Turn dry kind k p fs p' fs
  | kept : ¬ IsDue fs p.gone k kind → p'.gone = p.gone →
      p'.undoing.summary =
        { p.undoing.summary with itemsSkipped := p.undoing.summary.itemsSkipped + 1 } →
      Turn dry kind k p fs p' fs

section Turn

variable {s : Settings} {fs : Memory} {p : Progress}

lemma skip_turn {kind : ItemKind} {path : String}
    (h : ¬ IsDue fs p.gone (components path) kind) (message : String) (details : Option String) :
    Ensures Memory.answering (skip message details) p fs
      (fun _ => Turn s.dryRun kind (components path) p fs) := by
  simp only [skip, count, log, ensures_bind, ensures_modify]
  exact .kept h rfl rfl

/-- What is due is deleted, or said to be; it may be that it cannot be removed. -/
lemma delete_turn {kind : ItemKind} {path : String}
    (hdue : IsDue fs p.gone (components path) kind) :
    Ensures Memory.answering (delete s kind path) p fs
      (fun _ => Turn s.dryRun kind (components path) p fs) := by
  rw [delete]
  cases hdry : s.dryRun with
  | true =>
      simp only [↓reduceIte, noteGone, count, log, ensures_bind, ensures_modify]
      refine .foretold rfl hdue rfl ?_
      cases kind <;> rfl
  | false =>
      simp only [Bool.false_eq_true, ↓reduceIte]
      cases kind with
      | file =>
          rw [ensures_bind, ask, Memory.ensures_call_iff (by simp [Call.path?])]
          rcases Memory.removeFile_cases fs path with ⟨e, -, hno⟩ | ⟨hrun, hfile⟩
          · exact absurd hdue hno
          · simp only [Memory.answer, hrun, noteGone, count, log, ensures_bind, ensures_modify]
            exact .deleted rfl hdue hfile rfl rfl
      | folder =>
          rw [ensures_bind, ask, Memory.ensures_call_iff (by simp [Call.path?])]
          rcases Memory.removeFolder_cases fs path with ⟨e, hrun, hno⟩ | ⟨hrun, hfree⟩
          · simp only [Memory.answer, hrun, fail, count, log, ensures_bind, ensures_modify]
            refine .failed rfl hdue (fun hn => ?_) rfl rfl
            exact hno.elim (fun h => h hn.1) fun h => h hn.2
          · simp only [Memory.answer, hrun, noteGone, count, log, ensures_bind, ensures_modify]
            exact .deleted rfl hdue hfree rfl rfl

/-- **Undoing a file** gives its key a turn. -/
lemma undoFile_turn (path : String) :
    Ensures Memory.answering (undoFile s path) p fs
      (fun _ => Turn s.dryRun .file (components path) p fs) := by
  rw [undoFile, ensures_bind, ask, Memory.ensures_call_iff (by simp [Call.path?])]
  rcases fs.slot?_trichotomy (components path) with hs | hs | hs
  · have hno : ¬ IsDue fs p.gone (components path) .file := fun hn => Memory.HasFile.ne_none hn hs
    simp only [Memory.answer, Memory.entry_of_none hs]
    exact skip_turn hno _ _
  · obtain ⟨size, hentry⟩ := Memory.entry_of_hasFile hs
    simp only [Memory.answer, hentry, Entry.isFile, decide_true, ↓reduceIte]
    exact delete_turn hs
  · have hno : ¬ IsDue fs p.gone (components path) .file := fun hn =>
      Memory.HasFile.ne_folder hn hs
    simp only [Memory.answer, Memory.entry_of_folder hs, Entry.isFile, reduceCtorEq, decide_false,
      Bool.false_eq_true, ↓reduceIte]
    exact skip_turn hno _ _

/-- **Undoing a folder** gives its key a turn. -/
lemma undoFolder_turn (h : fs.Tidy) (path : String) :
    Ensures Memory.answering (undoFolder s path) p fs
      (fun _ => Turn s.dryRun .folder (components path) p fs) := by
  have hno : fs.slot? (components path) ≠ some .folder →
      ¬ IsDue fs p.gone (components path) .folder := fun hs hn => hs hn.1
  rw [undoFolder, ensures_bind, ask, Memory.ensures_call_iff (by simp [Call.path?])]
  rcases fs.slot?_trichotomy (components path) with hs | hs | hs
  · simp only [Memory.answer, Memory.entry_of_none hs]
    exact skip_turn (hno (by simp [hs])) _ _
  · obtain ⟨size, hentry⟩ := Memory.entry_of_hasFile hs
    simp only [Memory.answer, hentry, Entry.isFolder, reduceCtorEq, decide_false, Bool.not_false,
      ↓reduceIte]
    exact skip_turn (hno hs.ne_folder) _ _
  have hisFolder : fs.isFolder path := by simpa [Memory.isFolder] using hs
  obtain ⟨names, hnames⟩ : ∃ names, fs.list path = .ok names :=
    ⟨_, by rw [Memory.list, if_pos hisFolder]⟩
  simp only [Memory.answer, Memory.entry_of_folder hs, Entry.isFolder, decide_true, Bool.not_true,
    Bool.false_eq_true, ↓reduceIte]
  rw [ensures_bind, ask, Memory.ensures_call_iff (by simp [Call.path?])]
  simp only [Memory.answer, hnames, ensures_bind, ensures_get]
  have hchild : ∀ name, fs.slot? (components path ++ [.name name]) ≠ none →
      components (join path name) = components path ++ [.name name] := fun name hthere =>
    components_join ((h.proper _ hthere).2 name (by simp)) path
  have hall : (names.all fun name => p.gone.contains (components (join path name))) = true ↔
      IsDue fs p.gone (components path) .folder := by
    rw [IsDue, and_iff_right hs, List.all_eq_true]
    refine forall_congr' fun name => ?_
    rw [h.mem_list_iff hnames]
    refine forall_congr' fun hthere => ?_
    rw [hchild name hthere, List.contains_iff_mem]
  split_ifs with hgone
  · exact delete_turn (hall.mp hgone)
  · exact skip_turn (fun hn => hgone (hall.mpr hn)) _ _

end Turn

/-! ### One turn after the other -/

/-- Some keys have their turns, one after the other. -/
inductive Turns (dry : Bool) (kind : ItemKind) : List Key → Progress → Memory → Progress →
    Memory → Prop
  | nil {p : Progress} {fs : Memory} : Turns dry kind [] p fs p fs
  | cons {k : Key} {keys : List Key} {p p' p'' : Progress} {fs fs' fs'' : Memory} :
      Turn dry kind k p fs p' fs' → Turns dry kind keys p' fs' p'' fs'' →
      Turns dry kind (k :: keys) p fs p'' fs''

/-- What is counted in all. -/
def total (p : Progress) : ℕ :=
  p.undoing.summary.filesDeleted + p.undoing.summary.foldersDeleted +
    p.undoing.summary.itemsSkipped + p.undoing.summary.errors

section Single

variable {dry : Bool} {kind : ItemKind} {k : Key} {keys : List Key} {p p' : Progress}
  {fs fs' : Memory}

lemma Turn.tidy (h : Turn dry kind k p fs p' fs') (hfs : fs.Tidy) : fs'.Tidy := by
  cases h with
  | foretold | failed | kept => exact hfs
  | deleted _ _ hfree => exact hfs.unset_of_isRemovable hfree

/-- A turn is counted once. -/
lemma Turn.total (h : Turn dry kind k p fs p' fs') : Undo.total p' = Undo.total p + 1 := by
  cases h with
  | foretold _ _ _ hsum | deleted _ _ _ _ hsum =>
      rw [Undo.total, Undo.total, hsum]
      cases kind <;> simp only [oneMore] <;> omega
  | failed _ _ _ _ hsum | kept _ _ hsum =>
      rw [Undo.total, Undo.total, hsum]
      dsimp only
      omega

lemma Turn.errors_le (h : Turn dry kind k p fs p' fs') :
    p.undoing.summary.errors ≤ p'.undoing.summary.errors := by
  cases h with
  | foretold _ _ _ hsum | deleted _ _ _ _ hsum =>
      rw [hsum]
      cases kind <;> exact le_rfl
  | failed _ _ _ _ hsum => simp [hsum]
  | kept _ _ hsum => simp [hsum]

/-- A dry run changes nothing, and nothing goes wrong. -/
lemma Turn.of_dry (h : Turn true kind k p fs p' fs') :
    fs' = fs ∧ p'.undoing.summary.errors = p.undoing.summary.errors := by
  cases h with
  | foretold _ _ _ hsum =>
      refine ⟨rfl, ?_⟩
      rw [hsum]
      cases kind <;> rfl
  | deleted hdry | failed hdry => simp at hdry
  | kept _ _ hsum => exact ⟨rfl, by rw [hsum]⟩

/-- **Each turn is counted once.** -/
lemma Turns.total (h : Turns dry kind keys p fs p' fs') :
    Undo.total p' = Undo.total p + keys.length := by
  induction h with
  | nil => rfl
  | cons hturn _ ih =>
      rw [ih, hturn.total, List.length_cons]
      omega

lemma Turns.errors_le (h : Turns dry kind keys p fs p' fs') :
    p.undoing.summary.errors ≤ p'.undoing.summary.errors := by
  induction h with
  | nil => exact le_rfl
  | cons hturn _ ih => exact hturn.errors_le.trans ih

lemma Turns.of_dry (h : Turns true kind keys p fs p' fs') :
    fs' = fs ∧ p'.undoing.summary.errors = p.undoing.summary.errors := by
  induction h with
  | nil => exact ⟨rfl, rfl⟩
  | cons hturn _ ih =>
      obtain ⟨rfl, herrors⟩ := hturn.of_dry
      exact ⟨ih.1, ih.2.trans herrors⟩

/-- A dry run counts a file that is there. -/
lemma Turn.filesDeleted_of_dry (h : Turn true .file k p fs p' fs') :
    p'.undoing.summary.filesDeleted =
      p.undoing.summary.filesDeleted + if fs.HasFile k then 1 else 0 := by
  cases h with
  | foretold _ hdue _ hsum =>
      have hfile : fs.HasFile k := hdue
      rw [hsum, if_pos hfile]
      rfl
  | deleted hdry | failed hdry => simp at hdry
  | kept hno _ hsum =>
      have hfile : ¬ fs.HasFile k := hno
      rw [hsum, if_neg hfile]
      rfl

/-- A dry run counts a file each time it is recorded. -/
lemma Turns.filesDeleted_of_dry (h : Turns true .file keys p fs p' fs') :
    p'.undoing.summary.filesDeleted =
      p.undoing.summary.filesDeleted + keys.countP fun k => fs.HasFile k := by
  induction h with
  | nil => rfl
  | cons hturn _ ih =>
      rw [ih, hturn.filesDeleted_of_dry, hturn.of_dry.1, List.countP_cons]
      simp only [decide_eq_true_eq]
      omega

/-- Folders are not counted as files. -/
lemma Turns.filesDeleted_of_folder (h : Turns dry .folder keys p fs p' fs') :
    p'.undoing.summary.filesDeleted = p.undoing.summary.filesDeleted := by
  induction h with
  | nil => rfl
  | cons hturn _ ih =>
      rw [ih]
      cases hturn with
      | foretold _ _ _ hsum | deleted _ _ _ _ hsum => rw [hsum]; rfl
      | failed _ _ _ _ hsum | kept _ _ hsum => rw [hsum]

/-- A program that gives each path a turn gives their keys turns. -/
lemma turns_forM {s : Settings} {f : String → UndoM Unit} (hfs : fs.Tidy) (paths : List String)
    (hf : ∀ path (p : Progress) (fs : Memory), fs.Tidy →
      Ensures Memory.answering (f path) p fs
        (fun _ => Turn s.dryRun kind (components path) p fs)) :
    Ensures Memory.answering (paths.forM f) p fs
      (fun _ p' fs' => Turns s.dryRun kind (paths.map components) p fs p' fs' ∧ fs'.Tidy) := by
  induction paths generalizing p fs with
  | nil => exact ensures_pure.mpr ⟨.nil, hfs⟩
  | cons path rest ih =>
      rw [ensures_forM_cons]
      refine (hf path p fs hfs).mono ?_
      rintro _ p₁ fs₁ hturn
      refine (ih (hturn.tidy hfs)).mono ?_
      rintro _ p₂ fs₂ ⟨hturns, htidy⟩
      exact ⟨.cons hturn hturns, htidy⟩

end Single

/-- What is to be kept is counted, and nothing is gone. -/
lemma keep_counts (fs : Memory) (p : Progress) (items : List CreatedItem) :
    Ensures Memory.answering
      (items.forM fun item => skip s!"Skipped (pre-existed): {item.path}"
        "This item existed before creation and was overwritten") p fs
      fun _ p' fs' => fs' = fs ∧ p'.gone = p.gone ∧ p'.undoing.summary =
        { p.undoing.summary with
          itemsSkipped := p.undoing.summary.itemsSkipped + items.length } := by
  induction items generalizing p with
  | nil => exact ensures_pure.mpr ⟨rfl, rfl, rfl⟩
  | cons item rest ih =>
      rw [ensures_forM_cons]
      simp only [skip, count, log, ensures_bind, ensures_modify]
      refine (ih _).mono ?_
      rintro _ p' fs' ⟨hfs, hgone, hsum⟩
      refine ⟨hfs, hgone, hsum.trans ?_⟩
      rw [List.length_cons, Nat.add_comm rest.length 1, ← Nat.add_assoc]

/-- **Undoing** gives the recorded files their turns, and then the recorded folders. -/
theorem undo_turns {s : Settings} (hdelete : s.canDelete) {fs : Memory} (hfs : fs.Tidy)
    (items : List CreatedItem) :
    (undo s items).Ensures Memory.answering
      (fun result fs' => ∃ (p₁ p₂ p₃ : Progress) (fs₂ : Memory),
      result = .ok p₃.undoing ∧ p₁.gone = [] ∧
      p₁.undoing.summary = { itemsSkipped := (kept items).length } ∧
      Turns s.dryRun .file (recorded .file items).reverse p₁ fs p₂ fs₂ ∧
      Turns s.dryRun .folder (folderKeys items) p₂ fs₂ p₃ fs') fs := by
  rw [undo, hdelete, Bool.not_true, if_neg (by simp), ensures_run, ensures_bind]
  refine (keep_counts fs {} _).mono ?_
  rintro _ p₁ fs₁ ⟨hfs₁, hgone, hsum⟩
  subst hfs₁
  rw [ensures_bind]
  refine (turns_forM hfs _ fun path _ _ _ => undoFile_turn path).mono ?_
  rintro _ p₂ fs₂ ⟨hfiles, htidy⟩
  refine (turns_forM htidy _ fun path _ _ h => undoFolder_turn h path).mono ?_
  rintro _ p₃ fs₃ ⟨hfolders, -⟩
  refine ⟨p₁, p₂, p₃, fs₂, rfl, hgone, hsum.trans (by simp), ?_, hfolders⟩
  rw [recorded, ← List.map_reverse]
  exact hfiles

/-! ### Two runs side by side -/

/-- A dry run and one that deletes, side by side. What was deleted is what is not there any
more, and of folders it is among those whose turn is over. As long as nothing goes wrong, the
same keys are gone in both, and as many folders. -/
structure Agree (fs : Memory) (past : List Key) (d r : Progress) (gs : Memory) : Prop where
  tidy : gs.Tidy
  without : fs.Without (· ∈ r.gone) gs
  folders : ∀ k ∈ r.gone, fs.slot? k = some .folder → k ∈ past
  same : r.undoing.summary.errors = 0 → (∀ k, k ∈ d.gone ↔ k ∈ r.gone) ∧
    d.undoing.summary.foldersDeleted = r.undoing.summary.foldersDeleted

section Agree

variable {fs gs gs' : Memory} {d d' r r' : Progress} {kind : ItemKind} {k : Key}
  {keys past : List Key}

/-- What is gone goes on to be what is not there any more. -/
lemma Turn.without (h : Turn false kind k r gs r' gs') (hw : fs.Without (· ∈ r.gone) gs) :
    fs.Without (· ∈ r'.gone) gs' := by
  cases h with
  | foretold hdry => simp at hdry
  | deleted _ _ _ hgone =>
      refine (hw.trans (Memory.unset_without gs k)).congr fun j => ?_
      rw [hgone, List.mem_cons, or_comm]
  | failed _ _ _ hgone | kept _ hgone =>
      rw [hgone]
      exact hw

/-- What is gone was gone before, or has been removed. -/
lemma Turn.mem_gone (h : Turn false kind k r gs r' gs') {j : Key} (hj : j ∈ r'.gone) :
    j ∈ r.gone ∨ j = k ∧ gs.IsRemovable k kind := by
  cases h with
  | foretold hdry => simp at hdry
  | deleted _ _ hfree hgone =>
      rw [hgone, List.mem_cons] at hj
      exact hj.symm.imp_right fun hj => ⟨hj, hfree⟩
  | failed _ _ _ hgone | kept _ hgone =>
      rw [hgone] at hj
      exact .inl hj

/-- A file that is due can be removed, so nothing goes wrong. -/
lemma Turn.errors_of_file (h : Turn false .file k r gs r' gs') :
    r'.undoing.summary.errors = r.undoing.summary.errors := by
  cases h with
  | foretold hdry => simp at hdry
  | deleted _ _ _ _ hsum => rw [hsum]; rfl
  | failed _ hdue hno => exact absurd hdue hno
  | kept _ _ hsum => rw [hsum]

/-- Where nothing goes wrong, what is due is gone. -/
lemma Turn.outcome {dry : Bool} {p p' : Progress} {fs' : Memory}
    (h : Turn dry kind k p fs p' fs')
    (herrors : p'.undoing.summary.errors = p.undoing.summary.errors) :
    (IsDue fs p.gone k kind ∧ p'.gone = k :: p.gone ∧
        p'.undoing.summary = oneMore kind p.undoing.summary) ∨
      (¬ IsDue fs p.gone k kind ∧ p'.gone = p.gone ∧
        p'.undoing.summary.foldersDeleted = p.undoing.summary.foldersDeleted) := by
  cases h with
  | foretold _ hdue hgone hsum | deleted _ hdue _ hgone hsum => exact .inl ⟨hdue, hgone, hsum⟩
  | failed _ _ _ _ hsum => simp [hsum] at herrors
  | kept hno hgone hsum => exact .inr ⟨hno, hgone, by rw [hsum]⟩

/-- A file has its turn in both runs. The dry run counts it again, but it is gone already. -/
lemma Agree.file (h : Agree fs past d r gs) (hd : Turn true .file k d fs d' fs)
    (hr : Turn false .file k r gs r' gs') : Agree fs past d' r' gs' := by
  have hfile : gs.HasFile k ↔ fs.HasFile k ∧ k ∉ r.gone := h.without.hasFile_iff
  refine ⟨hr.tidy h.tidy, hr.without h.without, fun j hj hfolder => ?_, fun herrors => ?_⟩
  · rcases hr.mem_gone hj with hj | ⟨rfl, hremoved⟩
    · exact h.folders j hj hfolder
    · exact absurd hfolder (hfile.mp hremoved).1.ne_folder
  · obtain ⟨hgone, hfolders⟩ := h.same (hr.errors_of_file ▸ herrors)
    rcases hd.outcome hd.of_dry.2 with ⟨hdue, hd', hsum⟩ | ⟨hno, hd', hsum⟩ <;>
      rcases hr.outcome hr.errors_of_file with ⟨hdue', hr', hsum'⟩ | ⟨hno', hr', hsum'⟩
    · refine ⟨fun j => by rw [hd', hr', List.mem_cons, List.mem_cons, hgone], ?_⟩
      rw [hsum, hsum']
      exact hfolders
    · -- the file is there no more because it is gone
      have hk : k ∈ r.gone := not_not.mp fun hk => hno' (hfile.mpr ⟨hdue, hk⟩)
      refine ⟨fun j => ?_, by rw [hsum, hsum']; exact hfolders⟩
      rw [hd', hr', List.mem_cons, hgone]
      exact or_iff_right_of_imp fun hj => hj ▸ hk
    · exact absurd (hfile.mp hdue').1 hno
    · exact ⟨fun j => by rw [hd', hr', hgone], by rw [hsum, hsum', hfolders]⟩

/-- A folder whose turn was not yet is due in both runs, or in none. -/
lemma Agree.isDue_iff (h : Agree fs past d r gs) (hk : k ∉ past)
    (hgone : ∀ j, j ∈ d.gone ↔ j ∈ r.gone) :
    IsDue fs d.gone k .folder ↔ IsDue gs r.gone k .folder := by
  constructor
  · rintro ⟨hfolder, hnames⟩
    refine ⟨h.without.slot?_eq_some_iff.mpr ⟨hfolder, fun hj => hk (h.folders k hj hfolder)⟩, ?_⟩
    intro name hthere
    rw [← hgone]
    obtain ⟨slot, hslot⟩ := Option.ne_none_iff_exists'.mp hthere
    exact hnames name (by simp [(h.without.slot?_eq_some_iff.mp hslot).1])
  · rintro ⟨hfolder, hnames⟩
    refine ⟨(h.without.slot?_eq_some_iff.mp hfolder).1, fun name hthere => ?_⟩
    rw [hgone]
    by_contra hleft
    exact hleft (hnames name (by rwa [h.without.kept _ hleft]))

/-- A folder has its turn in both runs. -/
lemma Agree.folder (h : Agree fs past d r gs) (hk : k ∉ past) (hd : Turn true .folder k d fs d' fs)
    (hr : Turn false .folder k r gs r' gs') : Agree fs (k :: past) d' r' gs' := by
  refine ⟨hr.tidy h.tidy, hr.without h.without, fun j hj hfolder => ?_, fun herrors => ?_⟩
  · rcases hr.mem_gone hj with hj | ⟨rfl, -⟩
    · exact List.mem_cons_of_mem _ (h.folders j hj hfolder)
    · exact List.mem_cons_self
  · have hbefore : r.undoing.summary.errors = 0 := Nat.le_zero.mp (herrors ▸ hr.errors_le)
    obtain ⟨hgone, hfolders⟩ := h.same hbefore
    have hdue := h.isDue_iff hk hgone
    rcases hd.outcome hd.of_dry.2 with ⟨hd, hd', hsum⟩ | ⟨hd, hd', hsum⟩ <;>
      rcases hr.outcome (herrors.trans hbefore.symm) with ⟨hr, hr', hsum'⟩ | ⟨hr, hr', hsum'⟩
    · refine ⟨fun j => by rw [hd', hr', List.mem_cons, List.mem_cons, hgone], ?_⟩
      rw [hsum, hsum']
      exact congrArg (· + 1) hfolders
    · exact absurd (hdue.mp hd) hr
    · exact absurd (hdue.mpr hr) hd
    · exact ⟨fun j => by rw [hd', hr', hgone], by rw [hsum, hsum', hfolders]⟩

/-- Files have their turns in both runs. -/
lemma Agree.files {fs' : Memory} (h : Agree fs past d r gs) (hd : Turns true .file keys d fs d' fs')
    (hr : Turns false .file keys r gs r' gs') : Agree fs past d' r' gs' := by
  induction keys generalizing d r gs with
  | nil =>
      cases hd
      cases hr
      exact h
  | cons k keys ih =>
      cases hd with
      | cons hd hds =>
          cases hr with
          | cons hr hrs =>
              obtain rfl := hd.of_dry.1
              exact ih (h.file hd hr) hds hrs

/-- **Folders have their turns in both runs**, each once. -/
theorem Agree.turns {fs' : Memory} (h : Agree fs past d r gs) (hnodup : keys.Nodup)
    (hover : ∀ k ∈ keys, k ∉ past) (hd : Turns true .folder keys d fs d' fs')
    (hr : Turns false .folder keys r gs r' gs') : ∃ past', Agree fs past' d' r' gs' := by
  induction keys generalizing d r gs past with
  | nil =>
      cases hd
      cases hr
      exact ⟨past, h⟩
  | cons k keys ih =>
      obtain ⟨hk, hkeys⟩ := List.nodup_cons.mp hnodup
      obtain ⟨hkover, hrest⟩ := List.forall_mem_cons.mp hover
      cases hd with
      | cons hd hds =>
          cases hr with
          | cons hr hrs =>
              obtain rfl := hd.of_dry.1
              refine ih (h.folder hkover hd hr) hkeys (fun j hj => ?_) hds hrs
              rw [List.mem_cons, not_or]
              exact ⟨fun hjk => hk (hjk ▸ hj), hrest j hj⟩

end Agree

/-! ### Summaries -/

section Summaries

variable {fs gs gs' : Memory} {r r' : Progress} {keys : List Key} {items : List CreatedItem}

lemma Turns.errors_of_file (h : Turns false .file keys r gs r' gs') :
    r'.undoing.summary.errors = r.undoing.summary.errors := by
  induction keys generalizing r gs with
  | nil => cases h; rfl
  | cons k keys ih =>
      cases h with
      | cons hturn hturns => exact (ih hturns).trans hturn.errors_of_file

/-- Nothing goes wrong with a folder in which all that lies is listed. -/
lemma Turn.errors_of_listed {k : Key} (h : Turn false .folder k r gs r' gs') (htidy : gs.Tidy)
    (hw : fs.Without (· ∈ r.gone) gs)
    (hlisted : ∀ c, fs.slot? (k ++ [c]) ≠ none → ∃ name, c = .name name) :
    r'.undoing.summary.errors = r.undoing.summary.errors := by
  cases h with
  | foretold hdry => simp at hdry
  | deleted _ _ _ _ hsum => rw [hsum]; rfl
  | kept _ _ hsum => rw [hsum]
  | failed _ hdue hno =>
      obtain ⟨hfolder, hnames⟩ := hdue
      have hk : k ≠ [] := fun hn => htidy.start_ne_folder (hn ▸ hfolder)
      obtain ⟨child, hchild⟩ := List.exists_mem_of_ne_nil _ fun hn => hno ⟨hfolder, hn⟩
      obtain ⟨hthere, c, rfl⟩ := (htidy.mem_childKeys_iff hk).mp hchild
      obtain ⟨slot, hslot⟩ := Option.ne_none_iff_exists'.mp hthere
      obtain ⟨hold, hleft⟩ := hw.slot?_eq_some_iff.mp hslot
      obtain ⟨name, rfl⟩ := hlisted c (by simp [hold])
      exact absurd (hnames name hthere) hleft

lemma Turns.errors_of_listed (h : Turns false .folder keys r gs r' gs') (htidy : gs.Tidy)
    (hw : fs.Without (· ∈ r.gone) gs)
    (hlisted : ∀ k ∈ keys, ∀ c, fs.slot? (k ++ [c]) ≠ none → ∃ name, c = .name name) :
    r'.undoing.summary.errors = r.undoing.summary.errors := by
  induction keys generalizing r gs with
  | nil => cases h; rfl
  | cons k keys ih =>
      obtain ⟨hhere, hrest⟩ := List.forall_mem_cons.mp hlisted
      cases h with
      | cons hturn hturns =>
          rw [ih hturns (hturn.tidy htidy) (hturn.without hw) hrest,
            hturn.errors_of_listed htidy hw hhere]

/-- The files that are recorded and there, as often as they are recorded. -/
def presentFiles (fs : Memory) (items : List CreatedItem) : List Key :=
  (recorded .file items).filter fun k => fs.HasFile k

/-- A run that deletes counts each file once. -/
lemma Tracks.filesDeleted_eq (h : Tracks fs r gs) (hleft : fs.Without (Takes fs items) gs) :
    r.undoing.summary.filesDeleted = (presentFiles fs items).dedup.length := by
  have hgone : ∀ k, k ∈ r.gone ↔ Takes fs items k := by
    intro k
    constructor
    · intro hk
      by_contra hno
      exact h.present k hk ((hleft.kept k hno).symm.trans (h.without.taken k hk))
    · intro htakes
      by_contra hk
      have hnone := (h.without.kept k hk).symm.trans (hleft.taken k htakes)
      rcases htakes with ⟨-, hfile⟩ | ⟨-, hfolder, -⟩
      · exact hfile.ne_none hnone
      · simp [hnone] at hfolder
  rw [h.files, List.countP_eq_length_filter]
  refine List.Perm.length_eq ((List.perm_ext_iff_of_nodup (h.nodup.filter _)
    (List.nodup_dedup _)).mpr fun k => ?_)
  rw [List.mem_filter, List.mem_dedup, presentFiles, List.mem_filter, hgone]
  simp only [decide_eq_true_eq]
  constructor
  · rintro ⟨⟨hk, hfile⟩ | ⟨-, hfolder, -⟩, hno⟩
    · exact ⟨hk, hfile⟩
    · exact absurd hfolder hno
  · exact fun ⟨hk, hfile⟩ => ⟨.inl ⟨hk, hfile⟩, hfile.ne_folder⟩

/-- A list is as long without its repeats if there are none. -/
lemma length_dedup_eq_iff {l : List Key} : l.length = l.dedup.length ↔ l.Nodup := by
  constructor
  · intro h
    exact (List.dedup_sublist l).eq_of_length h.symm ▸ List.nodup_dedup l
  · intro h
    rw [h.dedup]

end Summaries

/-- **A dry run and one that deletes** agree on the keys that are gone as long as nothing goes
wrong, and count the same in all. -/
theorem undo_side_by_side {fs : Memory} (htidy : fs.Tidy) (items : List CreatedItem)
    (outside : Outside) :
    ∃ (d r : Progress) (gs : Memory) (past : List Key),
      (undo { dryRun := true } items).on (Memory.host outside) fs = (.ok d.undoing, fs) ∧
      (undo {} items).on (Memory.host outside) fs = (.ok r.undoing, gs) ∧
      Agree fs past d r gs ∧ total d = total r ∧ d.undoing.summary.errors = 0 ∧
      d.undoing.summary.filesDeleted = (presentFiles fs items).length ∧
      ((∀ k ∈ recorded .folder items, ∀ c, fs.slot? (k ++ [c]) ≠ none → ∃ name, c = .name name) →
        r.undoing.summary.errors = 0) := by
  have hhost := Memory.host_within outside
  obtain ⟨d₁, d₂, d₃, fs₂, hdry, hdgone, hdsum, hdfiles, hdfolders⟩ :=
    hhost.on (undo_turns (s := { dryRun := true }) rfl htidy items)
  obtain ⟨r₁, r₂, r₃, gs₂, hreal, hrgone, hrsum, hrfiles, hrfolders⟩ :=
    hhost.on (undo_turns (s := {}) rfl htidy items)
  obtain ⟨hdfs, hdbefore⟩ := hdfiles.of_dry
  rw [hdfs] at hdfolders
  obtain ⟨hdleft, hdafter⟩ := hdfolders.of_dry
  rw [hdleft] at hdfolders
  have hstart : Agree fs [] d₁ r₁ fs :=
    { tidy := htidy
      without := .refl (by simp [hrgone])
      folders := by simp [hrgone]
      same := fun _ => ⟨by simp [hdgone, hrgone], by rw [hdsum, hrsum]⟩ }
  have hfiles := hstart.files hdfiles hrfiles
  obtain ⟨past, hagree⟩ := hfiles.turns (nodup_folderKeys items) (by simp) hdfolders hrfolders
  refine ⟨d₃, r₃, _, past, Prod.ext hdry hdleft, Prod.ext hreal rfl, hagree, ?_, ?_, ?_,
    fun hlisted => ?_⟩
  · rw [hdfolders.total, hdfiles.total, hrfolders.total, hrfiles.total, total, total, hdsum, hrsum]
  · rw [hdafter, hdbefore, hdsum]
  · rw [hdfolders.filesDeleted_of_folder, hdfiles.filesDeleted_of_dry, hdsum,
      List.countP_reverse, List.countP_eq_length_filter, Nat.zero_add]
    rfl
  · rw [hrfolders.errors_of_listed hfiles.tidy hfiles.without
      fun k hk => hlisted k (mem_folderKeys.mp hk), hrfiles.errors_of_file, hrsum]

/-- **A dry run counts a file as often as it is recorded**, and a run that deletes counts it
once. Nothing goes wrong in a dry run. The summaries are the same if and only if no file that is
there is recorded twice and nothing goes wrong when it is deleted, which is so if the recorded
folders hold only what they list. -/
theorem dry_undo_counts_repeats {fs : Memory} (hfs : fs.Reachable) (items : List CreatedItem)
    (outside : Outside) :
    ∃ d r gs, (undo { dryRun := true } items).on (Memory.host outside) fs = (.ok d, fs) ∧
      (undo {} items).on (Memory.host outside) fs = (.ok r, gs) ∧
      d.summary.filesDeleted = (presentFiles fs items).length ∧
      r.summary.filesDeleted = (presentFiles fs items).dedup.length ∧
      d.summary.errors = 0 ∧
      (r.summary.errors = 0 → d.summary.foldersDeleted = r.summary.foldersDeleted) ∧
      (d.summary = r.summary ↔ (presentFiles fs items).Nodup ∧ r.summary.errors = 0) ∧
      ((∀ k ∈ recorded .folder items, ∀ c, fs.slot? (k ++ [c]) ≠ none → ∃ name, c = .name name) →
        r.summary.errors = 0) := by
  obtain ⟨d, r, gs, past, hdry, hreal, hagree, htotal, hderrors, hdcount, hlisted⟩ :=
    undo_side_by_side hfs.tidy items outside
  obtain ⟨p, gs', hrun, htracks, hleft, -⟩ :=
    undo_on (Memory.host_within outside) hfs.tidy items
  have hsame : p.undoing = r.undoing :=
    Except.ok.inj (congrArg Prod.fst (hrun.symm.trans hreal))
  have hrcount : r.undoing.summary.filesDeleted = (presentFiles fs items).dedup.length :=
    hsame ▸ htracks.filesDeleted_eq hleft
  refine ⟨d.undoing, r.undoing, gs, hdry, hreal, hdcount, hrcount, hderrors,
    fun h => (hagree.same h).2, ⟨fun h => ?_, ?_⟩, hlisted⟩
  · refine ⟨length_dedup_eq_iff.mp ?_, h ▸ hderrors⟩
    rw [← hdcount, ← hrcount, h]
  · rintro ⟨hnodup, hrerrors⟩
    have hfiles := hdcount.trans ((length_dedup_eq_iff.mpr hnodup).trans hrcount.symm)
    have hfolders := (hagree.same hrerrors).2
    -- of what is counted in all, only what is kept is left
    have hskipped : d.undoing.summary.itemsSkipped = r.undoing.summary.itemsSkipped := by
      rw [total, total, hfiles, hfolders, hderrors, hrerrors] at htotal
      omega
    cases hd : d.undoing.summary
    cases hr : r.undoing.summary
    simp_all

/-- A file that is recorded twice: a dry run says that it would be deleted twice. -/
theorem dry_undo_deletes_file_twice :
    let fs := ((Memory.empty.makeFolder "/out").2.write "/out/a" ⟨#[120]⟩).2
    let item : CreatedItem := ⟨"/out/a", .file, false⟩
    ((undo { dryRun := true } [item, item]).on (Memory.host {}) fs).1.map (·.summary) =
        .ok { filesDeleted := 2 } ∧
      ((undo {} [item, item]).on (Memory.host {}) fs).1.map (·.summary) =
        .ok { filesDeleted := 1, itemsSkipped := 1 } := by
  intro fs item
  have horder : folderOrder (created .folder [item, item]) = [] := by
    simp [created, item, folderOrder, withoutRepeats]
  simp only [undo, horder]
  clear horder
  decide +kernel +revert

/-- The records of two runs, one behind the other: a folder and a file that were made, and the
file that was then written over. A dry run counts what is deleted. -/
theorem dry_undo_counts_repeats_of_records :
    let fs := ((Memory.empty.makeFolder "out/a").2.write "out/a/b" ⟨#[1]⟩).2
    let items : List CreatedItem := [⟨"out/a", .folder, false⟩, ⟨"out/a/b", .file, false⟩,
      ⟨"./out//a", .folder, false⟩, ⟨"out/a/b", .file, true⟩]
    fs.Reachable ∧ ∃ d r gs,
      (undo { dryRun := true } items).on (Memory.host {}) fs = (.ok d, fs) ∧
      (undo {} items).on (Memory.host {}) fs = (.ok r, gs) ∧ d.summary = r.summary := by
  intro fs items
  have hfs : fs.Reachable :=
    .call {} (.write "out/a/b" ⟨#[1]⟩) (.call {} (.makeFolder "out/a") .empty)
  obtain ⟨d, r, gs, hdry, hreal, -, -, -, -, hiff, hlisted⟩ :=
    dry_undo_counts_repeats hfs items {}
  have hnodup : (presentFiles fs items).Nodup := by decide +kernel
  have herrors : r.summary.errors = 0 := hlisted fun k hk c hthere => by
    have hk : k = components "out/a" ∨ k = components "./out//a" := by
      simpa [recorded, created, items] using hk
    cases c with
    | name text => exact ⟨text, rfl⟩
    | root | here | up => rcases hk with rfl | rfl <;> exact absurd (by decide +kernel) hthere
  exact ⟨hfs, d, r, gs, hdry, hreal, hiff.mpr ⟨hnodup, herrors⟩⟩

end Undo

end Scaffold

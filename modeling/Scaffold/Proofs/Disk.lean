import Mathlib.Tactic
import Scaffold.Host.Disk
import Scaffold.Proofs.Dictionary
import Scaffold.Proofs.Plan

/-!
Paths on a disk with links.

* `Disk.Leads`: the way of a path as a derivation, one step for each component and each link.
  `resolveFrom_eq_ok_iff`: it is the way that is taken;
* `Disk.IsTree`: all that is on a disk lies in folders. Following links from a folder of a tree
  ends at a folder, at a file in a folder, or at a free place in one (`Leads.isFolder_or_isOpen`);
* `Disk.Grows`: folders and links of a disk stay, files stay files, and no link comes up. What a
  path leads to stays as well (`Leads.grows`);
* `Disk.Reaches`: a path leads to a folder without any link on the way. What is behind such a
  path is looked for in that folder, whether links are followed or not (`Reaches.resolve_join`).
-/

namespace Scaffold.Disk

open Scaffold.Path

variable {d d' d'' : Disk} {names folder : List String} {slot : Slot} {follow : Bool} {links : Nat}
  {key rest : Key} {text : String}

/-! ### Slots -/

/-- The root is a folder whatever is listed. -/
lemma slot?_nil (d : Disk) : d.slot? [] = some .folder := rfl

lemma slot?_of_ne_nil (d : Disk) (h : names ≠ []) : d.slot? names = d.slots.get? names := by
  rw [slot?, if_neg (by simpa using h)]

/-- A disk with something put at some names. -/
def put (d : Disk) (names : List String) (slot : Slot) : Disk :=
  { d with slots := d.slots.insert names slot }

lemma slot?_put_self (d : Disk) (slot : Slot) (h : names ≠ []) :
    (d.put names slot).slot? names = some slot := by
  rw [slot?_of_ne_nil _ h]
  exact Dictionary.get?_insert_self _ _ _

lemma slot?_put_of_ne (d : Disk) (slot : Slot) {other : List String} (h : other ≠ names) :
    (d.put names slot).slot? other = d.slot? other := by
  by_cases hnil : other = []
  · subst hnil
    rfl
  · rw [slot?_of_ne_nil _ hnil, slot?_of_ne_nil _ hnil]
    exact Dictionary.get?_insert_of_ne _ _ h

/-- What may be written to: a file, or nothing yet. -/
def IsOpen (d : Disk) (names : List String) : Prop :=
  d.slot? names = none ∨ ∃ bytes, d.slot? names = some (.file bytes)

lemma not_isOpen_of_folder (h : d.slot? names = some .folder) : ¬ d.IsOpen names := by
  simp [IsOpen, h]

lemma not_isOpen_of_link {target : String} (h : d.slot? names = some (.link target)) :
    ¬ d.IsOpen names := by
  simp [IsOpen, h]

/-! ### Ways -/

/-- The way of components from a folder, with at most some links on it. -/
inductive Leads (d : Disk) (follow : Bool) : Nat → List String → Key → List String → Prop
  | done {links : Nat} {folder : List String} : Leads d follow links folder [] folder
  | root {links : Nat} {folder names : List String} {rest : Key} :
      Leads d follow links [] rest names → Leads d follow links folder (.root :: rest) names
  | here {links : Nat} {folder names : List String} {rest : Key} :
      Leads d follow links folder rest names → Leads d follow links folder (.here :: rest) names
  | up {links : Nat} {folder names : List String} {rest : Key} :
      Leads d follow links folder.dropLast rest names →
        Leads d follow links folder (.up :: rest) names
  | last {links : Nat} {folder : List String} {text : String} :
      text.utf8ByteSize ≤ maxNameSize → d.IsOpen (folder ++ [text]) →
        Leads d follow links folder [.name text] (folder ++ [text])
  | folder {links : Nat} {folder names : List String} {text : String} {rest : Key} :
      text.utf8ByteSize ≤ maxNameSize → d.slot? (folder ++ [text]) = some .folder →
        Leads d follow links (folder ++ [text]) rest names →
          Leads d follow links folder (.name text :: rest) names
  /-- A link at the end that is not followed. -/
  | unfollowed {links : Nat} {folder : List String} {text target : String} :
      text.utf8ByteSize ≤ maxNameSize → d.slot? (folder ++ [text]) = some (.link target) →
        follow = false → Leads d follow links folder [.name text] (folder ++ [text])
  | link {left : Nat} {folder names : List String} {text target : String} {rest : Key} :
      text.utf8ByteSize ≤ maxNameSize → d.slot? (folder ++ [text]) = some (.link target) →
        ¬ (rest.isEmpty && !follow) → Leads d follow left folder (components target ++ rest) names →
          Leads d follow (left + 1) folder (.name text :: rest) names

/-- A way by the name of a folder leads through it. -/
lemma Leads.of_folder (h : d.Leads follow links folder (.name text :: rest) names)
    (hslot : d.slot? (folder ++ [text]) = some .folder) :
    d.Leads follow links (folder ++ [text]) rest names := by
  cases h with
  | last _ hopen => exact absurd hopen (not_isOpen_of_folder hslot)
  | folder _ _ h => exact h
  | unfollowed _ hlink _ | link _ hlink _ _ => simp [hslot] at hlink

/-- **The way that is taken** is the way that there is. -/
lemma resolveFrom_eq_ok_iff :
    d.resolveFrom follow links folder key = .ok names ↔ d.Leads follow links folder key names := by
  constructor
  · intro h
    fun_induction d.resolveFrom follow links folder key with
    | case1 => exact Except.ok.inj h ▸ .done
    | case2 _ _ _ ih => exact .root (ih h)
    | case3 _ _ _ ih => exact .here (ih h)
    | case4 _ _ _ ih => exact .up (ih h)
    | case6 links folder text rest hshort names hslot hrest =>
        obtain rfl := List.isEmpty_iff.mp hrest
        exact Except.ok.inj h ▸ .last (not_lt.mp hshort) (.inl hslot)
    | case8 links folder text rest hshort names hslot ih =>
        exact .folder (not_lt.mp hshort) hslot (ih h)
    | case9 links folder text rest hshort names bytes hslot hrest =>
        obtain rfl := List.isEmpty_iff.mp hrest
        exact Except.ok.inj h ▸ .last (not_lt.mp hshort) (.inr ⟨bytes, hslot⟩)
    | case11 links folder text rest hshort names target hslot hend =>
        obtain ⟨rfl, rfl⟩ : rest = [] ∧ follow = false := by simpa using hend
        exact Except.ok.inj h ▸ .unfollowed (not_lt.mp hshort) hslot rfl
    | case13 folder text rest hshort names target hslot hend left ih =>
        exact .link (not_lt.mp hshort) hslot hend (ih h)
    | case5 | case7 | case10 | case12 => simp at h
  · intro h
    induction h with
    | done => rw [resolveFrom]
    | root _ ih | here _ ih | up _ ih => rw [resolveFrom, ih]
    | last hshort hopen =>
        rw [resolveFrom, if_neg (not_lt.mpr hshort)]
        obtain hslot | ⟨bytes, hslot⟩ := hopen <;> simp [hslot]
    | folder hshort hslot _ ih =>
        rw [resolveFrom, if_neg (not_lt.mpr hshort)]
        simp only [hslot, ih]
    | unfollowed hshort hslot hfollow =>
        rw [resolveFrom, if_neg (not_lt.mpr hshort)]
        simp [hslot, hfollow]
    | link hshort hslot hend _ ih =>
        rw [resolveFrom, if_neg (not_lt.mpr hshort)]
        simp only [hslot, ih, if_neg hend]

/-! ### Trees -/

/-- All that is on a disk lies in folders, and the working folder is there. -/
structure IsTree (d : Disk) : Prop where
  listed : ∀ names ∈ d.slots.keys, d.slot? names.dropLast = some .folder
  working : d.slot? d.working = some .folder

instance (d : Disk) : Decidable d.IsTree :=
  decidable_of_iff ((∀ names ∈ d.slots.keys, d.slot? names.dropLast = some .folder) ∧
    d.slot? d.working = some .folder) ⟨fun h => ⟨h.1, h.2⟩, fun h => ⟨h.1, h.2⟩⟩

/-- What is there lies in a folder. -/
lemma IsTree.above (h : d.IsTree) (hslot : d.slot? names = some slot) :
    d.slot? names.dropLast = some .folder := by
  by_cases hnil : names = []
  · subst hnil
    rfl
  · refine h.listed names (by_contra fun hnot => ?_)
    rw [slot?_of_ne_nil d hnil, Dictionary.get?_eq_none_iff.mpr hnot] at hslot
    simp at hslot

/-- **Following links** in a tree ends at a folder, or at what may be written to in one. -/
lemma Leads.isFolder_or_isOpen (h : d.Leads true links folder key names) (htree : d.IsTree)
    (hfolder : d.slot? folder = some .folder) : d.slot? names = some .folder ∨
      d.IsOpen names ∧ names ≠ [] ∧ d.slot? names.dropLast = some .folder := by
  induction h with
  | done => exact .inl hfolder
  | root _ ih => exact ih d.slot?_nil
  | here _ ih => exact ih hfolder
  | up _ ih => exact ih (htree.above hfolder)
  | last _ hopen =>
      refine .inr ⟨hopen, by simp, ?_⟩
      rwa [List.dropLast_concat]
  | folder _ hslot _ ih => exact ih hslot
  | unfollowed _ _ hfollow => simp at hfollow
  | link _ _ _ _ ih => exact ih hfolder

/-! ### Growing -/

/-- Folders and links of a disk stay, files stay files, and no link comes up. -/
structure Grows (d d' : Disk) : Prop where
  working : d'.working = d.working
  folder : ∀ names, d.slot? names = some .folder → d'.slot? names = some .folder
  link : ∀ names target,
    d'.slot? names = some (.link target) ↔ d.slot? names = some (.link target)
  file : ∀ names bytes, d.slot? names = some (.file bytes) →
    ∃ bytes', d'.slot? names = some (.file bytes')

namespace Grows

lemma refl (d : Disk) : d.Grows d :=
  ⟨rfl, fun _ => id, fun _ _ => Iff.rfl, fun _ bytes h => ⟨bytes, h⟩⟩

lemma trans (h : d.Grows d') (h' : d'.Grows d'') : d.Grows d'' where
  working := h'.working.trans h.working
  folder names hslot := h'.folder names (h.folder names hslot)
  link names target := (h'.link names target).trans (h.link names target)
  file names bytes hslot := by
    obtain ⟨bytes', hslot'⟩ := h.file names bytes hslot
    exact h'.file names bytes' hslot'

/-- What may be written to may still be, or is a folder now. -/
lemma isOpen_or_isFolder (h : d.Grows d') (hopen : d.IsOpen names) :
    d'.IsOpen names ∨ d'.slot? names = some .folder := by
  obtain hnone | ⟨bytes, hfile⟩ := hopen
  · cases hslot : d'.slot? names with
    | none => exact .inl (.inl hslot)
    | some slot =>
        cases slot with
        | file bytes => exact .inl (.inr ⟨bytes, hslot⟩)
        | folder => exact .inr rfl
        | link target => simp [(h.link names target).mp hslot] at hnone
  · exact .inl (.inr (h.file names bytes hfile))

/-- Something is put where it may be. -/
lemma put (hopen : d.IsOpen names) (hne : names ≠ []) (hslot : ∀ target, slot ≠ .link target)
    (hfolder : slot = .folder → d.slot? names = none) : d.Grows (d.put names slot) where
  working := rfl
  folder other h := by
    by_cases he : other = names
    · subst he
      exact absurd hopen (not_isOpen_of_folder h)
    · rwa [slot?_put_of_ne d slot he]
  link other target := by
    by_cases he : other = names
    · subst he
      rw [slot?_put_self d slot hne]
      exact iff_of_false (by simpa using hslot target) fun hlink => not_isOpen_of_link hlink hopen
    · rw [slot?_put_of_ne d slot he]
  file other bytes h := by
    by_cases he : other = names
    · subst he
      rw [slot?_put_self d slot hne]
      cases slot with
      | file bytes' => exact ⟨bytes', rfl⟩
      | folder => simp [hfolder rfl] at h
      | link target => exact absurd rfl (hslot target)
    · exact ⟨bytes, by rwa [slot?_put_of_ne d slot he]⟩

end Grows

/-- A tree with something put into one of its folders is a tree. -/
lemma IsTree.put (h : d.IsTree) (hgrows : d.Grows (d.put names slot))
    (habove : d.slot? names.dropLast = some .folder) : (d.put names slot).IsTree where
  listed other hother := by
    refine hgrows.folder _ ?_
    obtain rfl | hother := Dictionary.mem_keys_place.mp hother
    · exact habove
    · exact h.listed other hother
  working := hgrows.folder _ h.working

/-- **What a path leads to** stays. -/
lemma Leads.grows (h : d.Leads follow links folder key names) (hgrows : d.Grows d') :
    d'.Leads follow links folder key names := by
  induction h with
  | done => exact .done
  | root _ ih => exact .root ih
  | here _ ih => exact .here ih
  | up _ ih => exact .up ih
  | last hshort hopen =>
      obtain hopen | hfolder := hgrows.isOpen_or_isFolder hopen
      · exact .last hshort hopen
      · exact .folder hshort hfolder .done
  | folder hshort hslot _ ih => exact .folder hshort (hgrows.folder _ hslot) ih
  | unfollowed hshort hslot hfollow =>
      exact .unfollowed hshort ((hgrows.link _ _).mpr hslot) hfollow
  | link hshort hslot hend _ ih => exact .link hshort ((hgrows.link _ _).mpr hslot) hend ih

/-! ### Folders that are reached -/

/-- A path leads to a folder, with no link on the way. -/
structure Reaches (d : Disk) (path : String) (names : List String) : Prop where
  resolves : d.resolveFrom true 0 d.working (components path) = .ok names
  folder : d.slot? names = some .folder

/-- Without links, a way goes on from the folder that it led to. -/
lemma Leads.append_iff {names' : List String} (h : d.Leads true 0 folder key names)
    (hfolder : d.slot? names = some .folder) :
    d.Leads follow links folder (key ++ rest) names' ↔ d.Leads follow links names rest names' := by
  generalize hnone : 0 = none at h
  induction h with
  | done => rfl
  | root _ ih =>
      rw [← ih hfolder hnone]
      exact ⟨fun h => by cases h; assumption, .root⟩
  | here _ ih =>
      rw [← ih hfolder hnone]
      exact ⟨fun h => by cases h; assumption, .here⟩
  | up _ ih =>
      rw [← ih hfolder hnone]
      exact ⟨fun h => by cases h; assumption, .up⟩
  | last _ hopen => exact absurd hopen (not_isOpen_of_folder hfolder)
  | folder hshort hslot _ ih =>
      rw [← ih hfolder hnone]
      exact ⟨fun h => h.of_folder hslot, .folder hshort hslot⟩
  | unfollowed _ _ hnever => simp at hnever
  | link => simp at hnone

/-- An accepted name is not too long for a disk. -/
lemma size_le_maxNameSize (name : AcceptedName) : name.1.utf8ByteSize ≤ maxNameSize := by
  have hfault := (Name.check_eq_ok_iff.mp name.2).1
  by_contra hlong
  have hlong : Name.maxLength < name.1.utf8ByteSize := not_le.mp hlong
  simp only [Name.fault?, hlong, if_true] at hfault
  split_ifs at hfault

/-- A path that a name was joined to is not empty. -/
lemma join_ne_empty (base : String) (name : AcceptedName) : join base name ≠ "" := fun hnil => by
  have hcomponents := components_join (isName_of_check name.2) base
  rw [hnil] at hcomponents
  exact List.append_ne_nil_of_right_ne_nil _ (by simp) hcomponents.symm

/-- What a look at a slot gives. A link counts as a file. -/
def Slot.entry : Slot → Entry
  | .folder => ⟨.folder, 0⟩
  | .file bytes => ⟨.file, bytes.size⟩
  | .link target => ⟨.file, target.utf8ByteSize⟩

namespace Reaches

variable {base : String} {name : AcceptedName}

/-- A folder that is reached stays so. -/
lemma grows (h : d.Reaches base names) (hgrows : d.Grows d') : d'.Reaches base names where
  resolves := by
    rw [hgrows.working, resolveFrom_eq_ok_iff]
    exact (resolveFrom_eq_ok_iff.mp h.resolves).grows hgrows
  folder := hgrows.folder _ h.folder

/-- **What is behind the path of a folder** is looked for in the folder. -/
lemma resolve_join (h : d.Reaches base names) {found : List String} :
    d.resolve follow (join base name) = .ok found ↔
      d.Leads follow maxLinks names [.name name] found := by
  rw [resolve, if_neg (join_ne_empty base name), resolveFrom_eq_ok_iff,
    components_join (isName_of_check name.2) base,
    (resolveFrom_eq_ok_iff.mp h.resolves).append_iff h.folder]

/-- A folder in a folder that is reached is reached. -/
lemma join (h : d.Reaches base names) (hslot : d.slot? (names ++ [name.1]) = some .folder) :
    d.Reaches (Path.join base name) (names ++ [name.1]) where
  resolves := by
    rw [resolveFrom_eq_ok_iff, components_join (isName_of_check name.2) base,
      (resolveFrom_eq_ok_iff.mp h.resolves).append_iff h.folder]
    exact .folder (size_le_maxNameSize name) hslot .done
  folder := hslot

/-- A link that a path ends with is not followed by a look. -/
lemma resolve_unfollowed (h : d.Reaches base names) :
    d.resolve false (Path.join base name) = .ok (names ++ [name.1]) := by
  have hshort := size_le_maxNameSize name
  rw [h.resolve_join]
  cases hslot : d.slot? (names ++ [name.1]) with
  | none => exact .last hshort (.inl hslot)
  | some slot =>
      cases slot with
      | file bytes => exact .last hshort (.inr ⟨bytes, hslot⟩)
      | folder => exact .folder hshort hslot .done
      | link target => exact .unfollowed hshort hslot rfl

/-- **A look** at a name in a folder that is reached tells of its slot. -/
lemma entry_eq (h : d.Reaches base names) :
    d.entry (Path.join base name) = .ok ((d.slot? (names ++ [name.1])).map Slot.entry) := by
  rw [entry, find, h.resolve_unfollowed]
  cases hslot : d.slot? (names ++ [name.1]) with
  | none => simp [bind, Except.bind, hslot, throw, throwThe, MonadExceptOf.throw]
  | some slot => cases slot <;> simp [bind, Except.bind, hslot, pure, Except.pure, Slot.entry]

/-- A folder is made where nothing is. -/
lemma makeFolder_of_none (h : d.Reaches base names)
    (hslot : d.slot? (names ++ [name.1]) = none) :
    d.makeFolder (Path.join base name) = (.ok (), d.put (names ++ [name.1]) .folder) := by
  have hmade : d.makeOne (Path.join base name) = .ok (d.put (names ++ [name.1]) .folder) := by
    rw [makeOne, h.resolve_unfollowed]
    simp [bind, Except.bind, hslot, pure, Except.pure, put]
  rw [makeFolder, makeWithin, if_neg (join_ne_empty base name), hmade]

/-- **A file is written** where following links leads, unless a folder is there. -/
lemma write_eq_ok_iff (h : d.Reaches base names) {bytes : ByteArray} :
    d.write (Path.join base name) bytes = .ok d' ↔
      ∃ found, d.Leads true maxLinks names [.name name] found ∧ d.slot? found ≠ some .folder ∧
        d' = d.put found (.file bytes) := by
  simp only [← h.resolve_join]
  rw [write]
  cases hfound : d.resolve true (Path.join base name) with
  | error fault => simp [bind, Except.bind]
  | ok found =>
      by_cases hslot : d.slot? found = some .folder
      · simp [bind, Except.bind, hslot, throw, throwThe, MonadExceptOf.throw]
      · simp only [bind, Except.bind, pure, Except.pure, Except.ok.injEq, exists_eq_left', hslot,
          ne_eq, not_false_eq_true, true_and]
        exact eq_comm

end Reaches

end Scaffold.Disk

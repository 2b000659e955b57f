import Mathlib.Tactic
import Scaffold.Preview
import Scaffold.Proofs.Memory
import Scaffold.Proofs.Plan

/-!
What a plan will do to a file system, as far as the file system tells.

* A `Visit` is a folder or a file that a plan comes to;
* `Plan.visits` lists the visits of a plan. A folder is left out with all that is in it
  only if a file is in its place, so the list can be told beforehand;
* `Visit.action` is what becomes of a visit, by what is at its key;
* `key_of_mem_visits` and `path_of_mem_visits`: a visit is below the place where the plan
  is performed, and its path is the output folder joined with the path that is shown.
-/

namespace Scaffold

open Scaffold.Path Variable

/-- A folder or a file that a plan comes to, with the path that is shown of it. -/
structure Visit where
  path : String
  shown : String
  /-- The file and the variables of its scope; a folder has none. -/
  file : Option (FileNode × Environment)

namespace Visit

/-- The key of the path. -/
def key (v : Visit) : Key := components v.path

/-- Whether a folder or a file is visited. -/
def kind (v : Visit) : ItemKind :=
  if v.file.isSome then .file else .folder

/-- What becomes of a visit; nothing does if the path is of the other kind. -/
def action (overwrite : Bool) (fs : Memory) (v : Visit) : Option PreviewAction :=
  match v.file, fs.slot? v.key with
  | _, none => some .create
  | none, some .folder => some .unchanged
  | some _, some (.file _ _) => some (if overwrite then .overwrite else .skip)
  | none, some (.file _ _) | some _, some .folder => none

/-- Whether something is written or made. -/
def isChange (overwrite : Bool) (fs : Memory) (v : Visit) : Bool :=
  v.action overwrite fs = some .create || v.action overwrite fs = some .overwrite

/-- What is recorded of a visit that writes or makes something. -/
def item (overwrite : Bool) (fs : Memory) (v : Visit) : CreatedItem :=
  ⟨v.path, v.kind, v.action overwrite fs = some .overwrite⟩

section Action

variable {overwrite : Bool} {fs : Memory} {path shown : String} {file : FileNode × Environment}

lemma action_of_none {v : Visit} (h : fs.slot? v.key = none) :
    v.action overwrite fs = some .create := by
  rw [action, h]

lemma action_folder_of_folder (h : fs.slot? (components path) = some .folder) :
    action overwrite fs ⟨path, shown, none⟩ = some .unchanged := by
  simp only [action, key, h]

lemma action_folder_of_hasFile (h : fs.HasFile (components path)) :
    action overwrite fs ⟨path, shown, none⟩ = none := by
  obtain ⟨spelling, bytes, hs⟩ := h
  simp only [action, key, hs]

lemma action_file_of_folder (h : fs.slot? (components path) = some .folder) :
    action overwrite fs ⟨path, shown, some file⟩ = none := by
  simp only [action, key, h]

lemma action_file_of_hasFile (h : fs.HasFile (components path)) :
    action overwrite fs ⟨path, shown, some file⟩ =
      some (if overwrite then .overwrite else .skip) := by
  obtain ⟨spelling, bytes, hs⟩ := h
  simp only [action, key, hs]

/-- What becomes of a visit depends on what is at its key. -/
lemma action_congr {gs : Memory} {v : Visit} (h : gs.slot? v.key = fs.slot? v.key) :
    v.action overwrite gs = v.action overwrite fs := by
  simp only [action, h]

end Action

end Visit

namespace Plan

/-- What a plan comes to from a place with a path and a path that is shown. -/
def visits (fs : Memory) : Plan → String → String → List Visit
  | done, _, _ => []
  | report _ next, path, relative | refused _ next, path, relative =>
      next.visits fs path relative
  | file name f env next, path, relative =>
      let here := Cursor.descend { path, relative } name
      ⟨here.path, here.shown, some (f, env)⟩ :: next.visits fs path relative
  | folder name inside next, path, relative =>
      let here := Cursor.descend { path, relative } name
      ⟨here.path, here.shown, none⟩ ::
        ((match fs.slot? (components here.path) with
          | some (.file _ _) => []
          | _ => inside.visits fs here.path here.relative) ++ next.visits fs path relative)
  | group _ inside next, path, relative =>
      inside.visits fs path relative ++ next.visits fs path relative

variable {fs : Memory}

@[simp]
lemma visits_done {path relative : String} : done.visits fs path relative = [] := rfl

/-- A child of a folder that is there can be made. -/
lemma hasParent_descend {place : Cursor} (h : fs.slot? (components place.path) = some .folder)
    (name : AcceptedName) : fs.hasParent (components (place.descend name).path) := by
  have hproper := components_proper (place.descend name).path
  rw [Cursor.components_descend] at hproper ⊢
  exact Memory.hasParent_concat hproper h

lemma visits_folder_of_hasFile {name : AcceptedName} {inside next : Plan} {path relative : String}
    (h : fs.HasFile (components (join path name))) :
    (folder name inside next).visits fs path relative =
      ⟨join path name, (Cursor.descend { path, relative } name).shown, none⟩ ::
        next.visits fs path relative := by
  obtain ⟨spelling, bytes, hs⟩ := h
  simp only [visits, Cursor.descend, hs, List.nil_append]

lemma visits_folder_of_not_hasFile {name : AcceptedName} {inside next : Plan}
    {path relative : String} (h : ¬ fs.HasFile (components (join path name))) :
    (folder name inside next).visits fs path relative =
      ⟨join path name, (Cursor.descend { path, relative } name).shown, none⟩ ::
        (inside.visits fs (join path name) (Cursor.descend { path, relative } name).relative ++
          next.visits fs path relative) := by
  rw [visits]
  congr 2
  simp only [Cursor.descend]
  split
  · rename_i spelling bytes hs
    exact absurd ⟨spelling, bytes, hs⟩ h
  · rfl

/-- What follows a file is visited after it. -/
lemma visits_file_append (name : AcceptedName) (f : FileNode) (env : Environment) (next : Plan)
    (path relative : String) :
    (file name f env next).visits fs path relative =
      (file name f env done).visits fs path relative ++ next.visits fs path relative := rfl

/-- What follows a folder is visited after all that is in it. -/
lemma visits_folder_append (name : AcceptedName) (inside next : Plan) (path relative : String) :
    (folder name inside next).visits fs path relative =
      (folder name inside done).visits fs path relative ++ next.visits fs path relative := by
  by_cases h : fs.HasFile (components (join path name))
  · simp [visits_folder_of_hasFile h]
  · simp [visits_folder_of_not_hasFile h]

/-- A folder is visited before what is in it. -/
lemma visits_folder_done {place : Cursor} {name : AcceptedName} {inside : Plan}
    (h : ¬ fs.HasFile (components (place.descend name).path)) :
    (folder name inside done).visits fs place.path place.relative =
      [⟨(place.descend name).path, (place.descend name).shown, none⟩] ++
        inside.visits fs (place.descend name).path (place.descend name).relative := by
  rw [visits_folder_of_not_hasFile h, visits_done, List.append_nil]
  rfl

lemma mem_visits_folder (fs : Memory) (place : Cursor) (name : AcceptedName) (inside next : Plan) :
    ⟨(place.descend name).path, (place.descend name).shown, none⟩ ∈
      (folder name inside next).visits fs place.path place.relative :=
  List.mem_cons_self

/-- Every visit is below the place where the plan is performed. -/
lemma key_of_mem_visits {p : Plan} {path relative : String} {v : Visit}
    (hv : v ∈ p.visits fs path relative) :
    ∃ below, below ≠ [] ∧ v.key = components path ++ below := by
  induction p generalizing path relative with
  | done => simp at hv
  | report notice next ih => exact ih hv
  | refused kind next ih => exact ih hv
  | file name f env next ih =>
      rcases List.mem_cons.mp hv with rfl | hv
      · exact ⟨[.name name], by simp, components_join (isName_of_check name.2) path⟩
      · exact ih hv
  | folder name inside next ihInside ih =>
      have hhere := components_join (isName_of_check name.2) path
      by_cases hfile : fs.HasFile (components (join path name))
      · rw [visits_folder_of_hasFile hfile] at hv
        rcases List.mem_cons.mp hv with rfl | hv
        · exact ⟨[.name name], by simp, hhere⟩
        · exact ih hv
      · rw [visits_folder_of_not_hasFile hfile] at hv
        rcases List.mem_cons.mp hv with rfl | hv
        · exact ⟨[.name name], by simp, hhere⟩
        rcases List.mem_append.mp hv with hv | hv
        · obtain ⟨below, hbelow, hkey⟩ := ihInside hv
          exact ⟨.name name :: below, by simp, by rw [hkey, hhere]; simp⟩
        · exact ih hv
  | group label inside next ihInside ih =>
      rcases List.mem_append.mp hv with hv | hv
      · exact ihInside hv
      · exact ih hv

/-- The place itself is not visited. -/
lemma place_not_mem_visits {p : Plan} {path relative : String} :
    components path ∉ (p.visits fs path relative).map Visit.key := by
  intro hmem
  obtain ⟨v, hv, hkey⟩ := List.mem_map.mp hmem
  obtain ⟨below, hbelow, hv⟩ := key_of_mem_visits hv
  rw [hkey] at hv
  exact hbelow (List.append_right_eq_self.mp hv.symm)

end Plan

/-- Where visits come to different keys, earlier ones do so, later ones do so, and none comes
to the key of one of the others. -/
lemma Visit.apart_of_nodup {visits visits' : List Visit}
    (h : ((visits ++ visits').map key).Nodup) :
    (visits.map key).Nodup ∧ (visits'.map key).Nodup ∧
      (∀ v ∈ visits, v.key ∉ visits'.map key) ∧ ∀ v ∈ visits', v.key ∉ visits.map key := by
  rw [List.map_append] at h
  have hdisjoint := List.disjoint_of_nodup_append h
  exact ⟨h.of_append_left, h.of_append_right,
    fun v hv hn => hdisjoint (List.mem_map_of_mem hv) hn,
    fun v hv hn => hdisjoint hn (List.mem_map_of_mem hv)⟩

/-- What a walk of a schema comes to. -/
def WalkSettings.visits (s : WalkSettings) (schema : Schema) (output : String) (scope : Scope)
    (fs : Memory) : List Visit :=
  (Plan.ofRoot s schema.root scope).visits fs output ""

/-! ### Paths -/

namespace Path

/-- A path as it is shown: it starts with a name and ends in one. -/
def IsShown (path : String) : Prop :=
  path ≠ "" ∧ isAbsolute path = false ∧ path.toList.getLast? ≠ some '/'

lemma IsName.isShown {name : String} (h : IsName name) : IsShown name :=
  ⟨h.2.1, h.not_isAbsolute, fun hlast => h.1 (List.mem_of_getLast? hlast)⟩

/-- The last character of a joined path is that of its last part. -/
lemma getLast?_join {path : String} (h : path ≠ "") (base : String) :
    (join base path).toList.getLast? = path.toList.getLast? := by
  rcases List.eq_nil_or_concat path.toList with hnil | ⟨front, last, hpath⟩
  · exact absurd hnil (toList_ne h)
  · rw [join]
    split_ifs <;> simp [String.toList_append, hpath, List.getLast?_cons]

lemma join_ne_empty {path : String} (h : path ≠ "") (base : String) : join base path ≠ "" := by
  rw [join]
  split_ifs
  · exact h
  · exact h
  · simp [h]
  · simp [h]

/-- Joining one part after the other. -/
lemma join_join {name relative : String} (hname : IsName name) (hrelative : IsShown relative)
    (base : String) : join (join base relative) name = join base (relative ++ "/" ++ name) := by
  obtain ⟨hne, habs, hlast⟩ := hrelative
  have habs' : isAbsolute (relative ++ "/" ++ name) = false := by
    obtain ⟨first, rest, hcs⟩ := List.exists_cons_of_ne_nil (toList_ne hne)
    simpa [isAbsolute, String.toList_append, hcs] using habs
  have hstep : join (join base relative) name = join base relative ++ "/" ++ name := by
    rw [join, hname.not_isAbsolute, if_neg (by simp), if_neg (join_ne_empty hne base), if_neg]
    rwa [getLast?_join hne]
  rw [hstep, join, join, habs, habs']
  by_cases hb : base = ""
  · simp [hb]
  · by_cases hsep : base.toList.getLast? = some '/'
    · simp [hb, hsep, String.append_assoc]
    · simp [hb, hsep, String.append_assoc]

/-- A shown path goes on to be shown. -/
lemma IsShown.append {name relative : String} (h : IsShown relative) (hname : IsName name) :
    IsShown (relative ++ "/" ++ name) := by
  obtain ⟨hne, habs, -⟩ := h
  refine ⟨by simp [hne], ?_, ?_⟩
  · obtain ⟨first, rest, hcs⟩ := List.exists_cons_of_ne_nil (toList_ne hne)
    simpa [isAbsolute, String.toList_append, hcs] using habs
  · rcases List.eq_nil_or_concat name.toList with hnil | ⟨front, last, hlast⟩
    · exact absurd hnil (toList_ne hname.2.1)
    · simpa [String.toList_append, hlast, List.getLast?_cons] using hname.isShown.2.2

end Path

/-- A path is the output folder, or the output folder joined with the path shown. -/
def IsShownAs (output path relative : String) : Prop :=
  (relative = "" ∧ path = output) ∨ (IsShown relative ∧ path = join output relative)

lemma IsShownAs.descend {output path relative : String} (h : IsShownAs output path relative)
    (name : AcceptedName) :
    IsShown (Cursor.descend { path, relative } name).relative ∧
      join path name = join output (Cursor.descend { path, relative } name).relative := by
  have hname := isName_of_check name.2
  rcases h with ⟨rfl, rfl⟩ | ⟨hshown, rfl⟩
  · exact ⟨hname.isShown, rfl⟩
  · simp only [Cursor.descend, hshown.1, ↓reduceIte]
    exact ⟨hshown.append hname, join_join hname hshown output⟩

/-- What is shown of a child leads to it from the output folder. -/
lemma IsShownAs.join_eq {output path relative : String} (h : IsShownAs output path relative)
    (name : AcceptedName) :
    join path name = join output (Cursor.descend { path, relative } name).shown := by
  obtain ⟨hshown, hpath⟩ := h.descend name
  rw [Cursor.shown, if_neg hshown.1, hpath]

/-- **The path of a visit** is the output folder joined with the path that is shown. -/
theorem Plan.path_of_mem_visits {fs : Memory} {p : Plan} {output path relative : String}
    (h : IsShownAs output path relative) {v : Visit} (hv : v ∈ p.visits fs path relative) :
    v.path = join output v.shown := by
  induction p generalizing path relative with
  | done => simp at hv
  | report notice next ih => exact ih h hv
  | refused kind next ih => exact ih h hv
  | file name f env next ih =>
      rcases List.mem_cons.mp hv with rfl | hv
      · exact h.join_eq name
      · exact ih h hv
  | folder name inside next ihInside ih =>
      by_cases hfile : fs.HasFile (components (join path name))
      · rw [visits_folder_of_hasFile hfile] at hv
        rcases List.mem_cons.mp hv with rfl | hv
        · exact h.join_eq name
        · exact ih h hv
      · rw [visits_folder_of_not_hasFile hfile] at hv
        rcases List.mem_cons.mp hv with rfl | hv
        · exact h.join_eq name
        rcases List.mem_append.mp hv with hv | hv
        · exact ihInside (.inr (h.descend name)) hv
        · exact ih h hv
  | group label inside next ihInside ih =>
      rcases List.mem_append.mp hv with hv | hv
      · exact ihInside h hv
      · exact ih h hv

lemma WalkSettings.path_of_mem_visits {s : WalkSettings} {schema : Schema} {output : String}
    {scope : Scope} {fs : Memory} {v : Visit} (hv : v ∈ s.visits schema output scope fs) :
    v.path = join output v.shown :=
  Plan.path_of_mem_visits (.inl ⟨rfl, rfl⟩) hv

end Scaffold

import Mathlib.Tactic
import Scaffold.Proofs.Calls
import Scaffold.Proofs.Memory

/-!
Where a run can reach.

* `Path.IsBelow`: a path is an output folder followed by one or more accepted names.
  Such a path has the output folder strictly in front of it (`IsBelow.strictPrefix`);
* `create_staysBelow` and `preview_staysBelow`: every call of a run is about such a path,
  whatever is replied, since it is about the place of a visited node;
* `runs_stayBelow`: hence a file system in memory is left alone beside the output folder,
  also when calls to it fail.
-/

namespace Scaffold

open Scaffold.Path Variable

/-! ### Paths below an output folder -/

namespace Path

/-- A path is an output folder followed by accepted names. -/
def IsWithin (output path : String) : Prop :=
  ∃ names : List String, (∀ name ∈ names, Name.check name = .ok name) ∧
    path = names.foldl join output

/-- A path is an output folder followed by one or more accepted names. -/
def IsBelow (output path : String) : Prop :=
  ∃ names : List String, names ≠ [] ∧ (∀ name ∈ names, Name.check name = .ok name) ∧
    path = names.foldl join output

lemma isWithin_self (output : String) : IsWithin output output :=
  ⟨[], by simp, rfl⟩

lemma IsBelow.isWithin {output path : String} (h : IsBelow output path) : IsWithin output path :=
  let ⟨names, _, hnames⟩ := h
  ⟨names, hnames⟩

/-- An accepted name leads on below the output folder. -/
lemma IsWithin.join {output path name : String} (h : IsWithin output path)
    (hname : Name.check name = .ok name) : IsBelow output (join path name) := by
  obtain ⟨names, hnames, rfl⟩ := h
  refine ⟨names ++ [name], by simp, fun other hother => ?_, by simp⟩
  rcases List.mem_append.mp hother with hother | hother
  · exact hnames other hother
  · rwa [List.mem_singleton.mp hother]

/-- Following accepted names adds them to the components of a path. -/
lemma components_foldl_join (output : String) {names : List String}
    (hnames : ∀ name ∈ names, Name.check name = .ok name) :
    components (names.foldl join output) = components output ++ names.map .name := by
  induction names generalizing output with
  | nil => simp
  | cons name rest ih =>
      have hname := isName_of_check (hnames name (by simp))
      rw [List.foldl_cons, ih _ fun other hother => hnames other (by simp [hother]),
        components_join hname]
      simp

/-- The output folder stands strictly in front of what is below it. -/
lemma IsBelow.strictPrefix {output path : String} (h : IsBelow output path) :
    components output <+: components path ∧ components output ≠ components path := by
  obtain ⟨names, hne, hnames, rfl⟩ := h
  rw [components_foldl_join output hnames]
  exact ⟨List.prefix_append _ _, by simpa using hne⟩

end Path

/-- A call that looks at, makes, writes or reads a path below an output folder, or that
is none to a file system. -/
def Call.StaysBelow (output : String) : Call → Prop
  | .entry path | .makeFolder path | .write path _ | .read path => IsBelow output path
  | .list _ | .removeFile _ | .removeFolder _ => False
  | .fetch _ | .generate _ | .command _ _ => True

/-- What may be asked for a place below an output folder stays below it. -/
lemma Creation.admits_staysBelow (s : CreateSettings) {output : String} {place : Cursor}
    (h : IsBelow output place.path) : Admits s (·.StaysBelow output) place where
  entry := h
  makeFolder _ := h
  write _ _ := h
  fetch _ _ _ _ := trivial
  generate _ _ := trivial

/-- A run that creates asks about paths below the output folder only. -/
lemma create_staysBelow (s : CreateSettings) (schema : Schema) (output : String)
    (scope : Scope) : (create s schema output scope).Every (·.StaysBelow output) :=
  create_every (IsWithin output ·.path) (IsBelow output ·.path)
    (fun _ name hplace => hplace.join name.2) (fun _ _ hplace => hplace.isWithin)
    (fun _ hplace => Creation.admits_staysBelow s hplace) (fun _ _ _ => trivial) schema
    (isWithin_self output) scope

/-- A run that previews asks about paths below the output folder only. -/
lemma preview_staysBelow (s : Preview.Settings) (schema : Schema) (output : String)
    (scope : Scope) : (preview s schema output scope).Every (·.StaysBelow output) :=
  preview_every s (IsWithin output ·.path) (IsBelow output ·.path)
    (fun _ name hplace => hplace.join name.2) (fun _ _ hplace => hplace.isWithin)
    (fun _ hplace => ⟨hplace, hplace⟩) schema (isWithin_self output) scope

/-! ### A file system in memory -/

namespace Memory

/-- Making folders sets no slots but those of the folders that are made. -/
lemma makeFolders_slot? (fs : Memory) (done rest k : Key) (hk : ¬ k <+: done ++ rest) :
    (fs.makeFolders done rest).2.slot? k = fs.slot? k := by
  induction rest generalizing fs done with
  | nil => rfl
  | cons component rest ih =>
      have hassoc : done ++ component :: rest = done ++ [component] ++ rest := by simp
      have hhere : k ≠ done ++ [component] := by
        rintro rfl
        exact hk (hassoc ▸ List.prefix_append _ _)
      rw [hassoc] at hk
      simp only [makeFolders]
      split
      · rfl
      · exact ih fs _ hk
      · exact (ih _ _ hk).trans (slot?_set_of_ne fs .folder hhere)

/-- Making folders makes no files, and leaves those that are there alone. -/
lemma makeFolders_file_iff (fs : Memory) (done rest k : Key) (path : String) (bytes : ByteArray) :
    (fs.makeFolders done rest).2.slot? k = some (.file path bytes) ↔
      fs.slot? k = some (.file path bytes) := by
  induction rest generalizing fs done with
  | nil => rfl
  | cons component rest ih =>
      simp only [makeFolders]
      split
      · rfl
      · exact ih fs _
      · rename_i hnone
        refine (ih (fs.set (done ++ [component]) .folder) _).trans ?_
        by_cases hk : k = done ++ [component]
        · simp [hk, hnone]
        · rw [slot?_set_of_ne _ _ hk]

/-- Writing sets no slot but that of the file. -/
lemma write_slot? (fs : Memory) (path : String) (bytes : ByteArray) (k : Key)
    (hk : k ≠ components path) : (fs.write path bytes).2.slot? k = fs.slot? k := by
  unfold write
  dsimp only
  split
  · rfl
  · split_ifs
    · rfl
    · exact slot?_set_of_ne fs _ hk

/-- A call that stays below an output folder leaves alone what is beside it. -/
lemma answer_slot? {output : String} {c : Call} (hc : c.StaysBelow output) (outside : Outside)
    (fs : Memory) {k : Key} (habove : ¬ k <+: components output)
    (hbelow : ¬ components output <+: k) : (fs.answer outside c).2.slot? k = fs.slot? k := by
  cases c with
  | makeFolder path =>
      refine makeFolders_slot? fs [] (components path) k fun hk => ?_
      -- two prefixes of one path lie one before the other
      rcases List.prefix_or_prefix_of_prefix hk (IsBelow.strictPrefix hc).1 with h | h
      · exact habove h
      · exact hbelow h
  | write path bytes =>
      refine write_slot? fs path bytes k ?_
      rintro rfl
      exact hbelow (IsBelow.strictPrefix hc).1
  | list _ | removeFile _ | removeFolder _ => exact hc.elim
  | entry _ | read _ | fetch _ | generate _ | command _ _ => rfl

/-- Whatever stays below an output folder leaves alone what is beside it. -/
lemma slot?_of_staysBelow {α σ : Type} {output : String} {r : Run α}
    (hr : r.Every (·.StaysBelow output)) {host : Host (StateM σ)} {view : σ → Memory}
    (hhost : host.Within view unreliable) (st : σ) {k : Key}
    (habove : ¬ k <+: components output) (hbelow : ¬ components output <+: k) :
    (view (r.on host st).2).slot? k = (view st).slot? k := by
  refine hr.on_eq (fun st => (view st).slot? k) (fun c st hc => ?_) st
  rcases hhost c st with ⟨hstate, -⟩ | ⟨hstate, -⟩
  · rw [hstate]
    exact answer_slot? hc {} (view st) habove hbelow
  · rw [hstate]

end Memory

/-- **Containment.** Whatever is replied, each call of a run that creates or previews is
about the output folder followed by one or more accepted names, or is none to a file
system; the components of the output folder stand strictly in front of those of such a
path. On a host that keeps its files in memory, any calls of which may fail, creating
leaves alone all that is neither below the output folder nor on the way to it. -/
theorem runs_stayBelow (s : CreateSettings) (p : Preview.Settings) (schema : Schema)
    (output : String) (scope : Scope) :
    (create s schema output scope).Every (·.StaysBelow output) ∧
    (preview p schema output scope).Every (·.StaysBelow output) ∧
    (∀ path, IsBelow output path →
      components output <+: components path ∧ components output ≠ components path) ∧
    ∀ {σ : Type} (host : Host (StateM σ)) (view : σ → Memory),
      host.Within view Memory.unreliable → ∀ (st : σ) (k : Key),
        ¬ components output <+: k → ¬ k <+: components output →
        (view ((create s schema output scope).on host st).2).slot? k = (view st).slot? k :=
  ⟨create_staysBelow s schema output scope, preview_staysBelow p schema output scope,
    fun _ h => h.strictPrefix, fun _ _ hhost st _ hbelow habove =>
      Memory.slot?_of_staysBelow (create_staysBelow s schema output scope) hhost st habove hbelow⟩

/-- A schema whose name leads out of the output folder does no harm to `/etc/hosts`. -/
theorem hosts_unchanged_by_run :
    let schema : Schema := { root := .folder "../etc/hosts" [] ∅ }
    let s : CreateSettings :=
      { limits := {}, today := ⟨2024, 1, 1, by decide⟩, equipment := {}, options := {} }
    let before := ((Memory.empty.makeFolder "/etc").2.write "/etc/hosts" ⟨#[1]⟩).2
    let after := ((create s schema "/out" default).on (Memory.host {}) before).2
    after.slot? (components "/etc/hosts") = some (.file "/etc/hosts" ⟨#[1]⟩) := by
  intro schema s before after
  have hhost : (Memory.host {}).Within id Memory.unreliable := fun c fs =>
    Memory.unreliable_of_answering (Memory.host_within {} c fs)
  have hkept := (runs_stayBelow s ⟨s.toWalkSettings, false⟩ schema "/out" default).2.2.2
    (Memory.host {}) id hhost before (components "/etc/hosts") (by decide) (by decide)
  calc after.slot? (components "/etc/hosts")
      = before.slot? (components "/etc/hosts") := hkept
    _ = some (.file "/etc/hosts" ⟨#[1]⟩) := by decide

end Scaffold

import Mathlib.Tactic
import Scaffold.Proofs.Account
import Scaffold.Proofs.Containment

/-!
Runs that create below different output folders.

* `Run.Every.on_agree`: states that the calls of a run cannot tell apart give it the same
  result;
* `Memory.SameBelow`: what calls below a folder can tell of a file system. That is all from
  the folder on, and of the folders above it only which of them are files;
* `create_sameBelow`: so a run that creates does the same in two file systems of which this
  is the same;
* `Creation.create_above`: of the folders above its output folder a run makes all, if it
  makes any folder, and else none;
* `creates_commute`: hence two runs can be made in either order, unless one of the output
  folders lies in the other.
-/

namespace Scaffold

open Scaffold.Path Variable

/-- A run whose calls do not tell two states of a host apart ends alike in both. -/
theorem Run.Every.on_agree {α σ : Type} {host : Host (StateM σ)} {P : Call → Prop}
    {S : σ → σ → Prop}
    (hP : ∀ c s s', P c → S s s' → (host c s).1 = (host c s').1 ∧ S (host c s).2 (host c s').2)
    {r : Run α} (hr : r.Every P) {s s' : σ} (h : S s s') :
    (r.on host s).1 = (r.on host s').1 ∧ S (r.on host s).2 (r.on host s').2 := by
  induction r generalizing s s' with
  | done a => exact ⟨rfl, h⟩
  | ask c next ih =>
      obtain ⟨hreply, hstate⟩ := hP c s s' hr.1 h
      have hgoes := ih (host c s).1 (hr.2 _) hstate
      have hrun : (ask c next).on host s' = (next (host c s).1).on host (host c s').2 := by
        rw [hreply]
        rfl
      rw [hrun]
      exact hgoes

namespace Memory

/-! ### What calls below a folder can tell -/

/-- From a folder on all is the same, and above it the same places are files. -/
structure SameBelow (base : Key) (fs gs : Memory) : Prop where
  below : ∀ k, base <+: k → fs.slot? k = gs.slot? k
  above : ∀ k, k <+: base → (fs.HasFile k ↔ gs.HasFile k)

namespace SameBelow

variable {base : Key} {fs gs : Memory}

lemma symm (h : SameBelow base fs gs) : SameBelow base gs fs :=
  ⟨fun k hk => (h.below k hk).symm, fun k hk => (h.above k hk).symm⟩

lemma set (h : SameBelow base fs gs) (key : Key) (slot : Slot) :
    SameBelow base (fs.set key slot) (gs.set key slot) := by
  refine ⟨fun k hk => ?_, fun k hk => ?_⟩
  · by_cases he : k = key
    · rw [he, slot?_set_self, slot?_set_self]
    · rw [slot?_set_of_ne _ _ he, slot?_set_of_ne _ _ he, h.below k hk]
  · by_cases he : k = key
    · simp [HasFile, he]
    · have hold := h.above k hk
      rwa [HasFile, HasFile, slot?_set_of_ne _ _ he, slot?_set_of_ne _ _ he]

/-- A folder above may be made in one of them only. -/
lemma set_above (h : SameBelow base fs gs) {key : Key} (hne : ¬ base <+: key)
    (hnone : fs.slot? key = none) : SameBelow base (fs.set key .folder) gs := by
  refine ⟨fun k hk => ?_, fun k hk => ?_⟩
  · have he : k ≠ key := fun he => hne (he ▸ hk)
    rw [slot?_set_of_ne _ _ he, h.below k hk]
  · refine Iff.trans ?_ (h.above k hk)
    by_cases he : k = key
    · simp [HasFile, he, hnone]
    · rw [HasFile, HasFile, slot?_set_of_ne _ _ he]

/-- Folders on the way to a place below are made alike, but for those above. -/
lemma makeFolders (h : SameBelow base fs gs) (done rest : Key) (hbelow : base <+: done ++ rest) :
    (fs.makeFolders done rest).1 = (gs.makeFolders done rest).1 ∧
      SameBelow base (fs.makeFolders done rest).2 (gs.makeFolders done rest).2 := by
  induction rest generalizing fs gs done with
  | nil => exact ⟨rfl, h⟩
  | cons component rest ih =>
      have hassoc : done ++ component :: rest = done ++ [component] ++ rest := by simp
      rw [hassoc] at hbelow
      by_cases hhere : base <+: done ++ [component]
      · simp only [Memory.makeFolders]
        rw [← h.below _ hhere]
        split
        · exact ⟨rfl, h⟩
        · exact ih h _ hbelow
        · exact ih (h.set _ _) _ hbelow
      -- what is made above the folder cannot be told from below
      have habove : done ++ [component] <+: base :=
        (List.prefix_or_prefix_of_prefix (List.prefix_append _ _) hbelow).resolve_right hhere
      have hopens : ∀ fs : Memory, ¬ fs.HasFile (done ++ [component]) →
          ∃ fs', fs.makeFolders done (component :: rest) =
              fs'.makeFolders (done ++ [component]) rest ∧
            ∀ gs, SameBelow base fs gs → SameBelow base fs' gs := by
        intro fs hno
        simp only [Memory.makeFolders]
        rcases fs.slot?_trichotomy (done ++ [component]) with hs | hs | hs
        · rw [hs]
          exact ⟨_, rfl, fun gs hgs => hgs.set_above hhere hs⟩
        · exact absurd hs hno
        · rw [hs]
          exact ⟨fs, rfl, fun gs hgs => hgs⟩
      by_cases hfile : fs.HasFile (done ++ [component])
      · obtain ⟨old', b', hgs⟩ := (h.above _ habove).mp hfile
        obtain ⟨old, b, hfs⟩ := hfile
        simp only [Memory.makeFolders, hfs, hgs]
        exact ⟨trivial, h⟩
      · obtain ⟨fs', hfs, hsame⟩ := hopens fs hfile
        obtain ⟨gs', hgs, hsame'⟩ := hopens gs fun hg => hfile ((h.above _ habove).mpr hg)
        rw [hfs, hgs]
        exact ih (hsame' _ (hsame _ h).symm).symm _ hbelow

/-- A file below may be made in both, or in none of them. -/
lemma hasParent_eq (h : SameBelow base fs gs) {key : Key} (hkey : base <+: key) (hne : base ≠ key) :
    fs.hasParent key = gs.hasParent key := by
  unfold hasParent
  split
  · rfl
  · rfl
  · rename_i parent hnil hparent
    obtain ⟨c, -, rfl⟩ := Key.parent?_eq_some_iff.mp hparent
    have hbase : base <+: parent := (List.prefix_concat_iff.mp hkey).resolve_left hne
    rw [h.below _ hbase]

/-- A file below is written alike. -/
lemma write (h : SameBelow base fs gs) {path : String} (bytes : ByteArray)
    (hpath : base <+: components path) (hne : base ≠ components path) :
    (fs.write path bytes).1 = (gs.write path bytes).1 ∧
      SameBelow base (fs.write path bytes).2 (gs.write path bytes).2 := by
  unfold Memory.write
  dsimp only
  rw [h.below _ hpath, h.hasParent_eq hpath hne]
  split
  · exact ⟨rfl, h⟩
  · split_ifs
    · exact ⟨rfl, h⟩
    · exact ⟨rfl, h.set _ _⟩

/-- **Calls below a folder** are answered alike, and lead on alike. -/
theorem answer {output : String} (h : SameBelow (components output) fs gs) {c : Call}
    (hc : c.StaysBelow output) (outside : Outside) :
    (fs.answer outside c).1 = (gs.answer outside c).1 ∧
      SameBelow (components output) (fs.answer outside c).2 (gs.answer outside c).2 := by
  cases c with
  | entry path =>
      have hslot := h.below _ (IsBelow.strictPrefix hc).1
      exact ⟨by simp only [Memory.answer, entry, hslot], h⟩
  | read path =>
      have hslot := h.below _ (IsBelow.strictPrefix hc).1
      exact ⟨by simp only [Memory.answer, Memory.read, bytes?, hslot], h⟩
  | makeFolder path => exact h.makeFolders [] _ (IsBelow.strictPrefix hc).1
  | write path bytes => exact h.write bytes (IsBelow.strictPrefix hc).1 (IsBelow.strictPrefix hc).2
  | list _ | removeFile _ | removeFolder _ => exact hc.elim
  | fetch _ | generate _ | command _ _ => exact ⟨rfl, h⟩

end SameBelow

end Memory

/-- A run that creates does the same in two file systems of which all that calls below its
output folder can tell is the same. -/
lemma create_sameBelow (s : CreateSettings) (outside : Outside) (schema : Schema)
    (output : String) (scope : Scope) {fs gs : Memory}
    (h : Memory.SameBelow (components output) fs gs) :
    let run := (create s schema output scope).on (Memory.host outside)
    (run fs).1 = (run gs).1 ∧ Memory.SameBelow (components output) (run fs).2 (run gs).2 :=
  (create_staysBelow s schema output scope).on_agree
    (fun _ _ _ hc hsame => hsame.answer hc outside) h

/-! ### Folders above -/

namespace Creation

/-- A folder is recorded. -/
def RecordsFolder (c : Creation) : Prop := ∃ item ∈ c.items, item.kind = .folder

/-- A folder is above the output folder of a run that recorded one. -/
def MakesAbove (c : Creation) (base k : Key) : Prop := k <+: base ∧ k ≠ [] ∧ c.RecordsFolder

/-- Of the folders above the output folder all are there as soon as a folder is recorded, and
nothing is changed before. -/
structure Above (base : Key) (before : Memory) (c : Creation) (fs : Memory) : Prop where
  made : c.RecordsFolder → ∀ k, k <+: base → k ≠ [] → fs.slot? k = some .folder
  kept : ∀ k, k <+: base → (c.RecordsFolder → k = []) → fs.slot? k = before.slot? k

namespace Above

variable {s : CreateSettings} {base : Key} {before : Memory} {c c' : Creation} {fs gs : Memory}
  {x y : Creation × Memory}

lemma start (before : Memory) : Above base before {} before where
  made hrec := by simp [RecordsFolder] at hrec
  kept _ _ _ := rfl

/-- Nothing becomes of the folders above, and no other folder is recorded. -/
lemma stays (h : Above base before c fs) (hitems : c'.RecordsFolder ↔ c.RecordsFolder)
    (hslots : ∀ k, k <+: base → gs.slot? k = fs.slot? k) : Above base before c' gs where
  made hrec k hk hne := (hslots k hk).trans (h.made (hitems.mp hrec) k hk hne)
  kept k hk hnil := (hslots k hk).trans (h.kept k hk fun hrec => hnil (hitems.mpr hrec))

/-- **Each step** of a run that creates makes all folders above, or none. -/
theorem step (h : Above base before x.1 x.2) (hstep : Step s base x y) :
    Above base before y.1 y.2 := by
  have hquiet : ∀ {c c' : Creation} {fs : Memory}, Above base before c fs →
      c'.items = c.items → Above base before c' fs := fun h hitems =>
    h.stays (by rw [RecordsFolder, hitems, RecordsFolder]) fun _ _ => rfl
  cases hstep with
  | note hitems => exact hquiet h hitems
  | file place name hin hvisit =>
      cases hvisit with
      | wrote preExisted bytes hpre hoverwrite hcontent hwrote =>
          obtain ⟨spelling, hy, -⟩ := hwrote.slot
          refine h.stays ?_ fun k hk => ?_
          · rw [RecordsFolder, hwrote.items, RecordsFolder]
            simp
          · obtain ⟨hbelow, hne⟩ := hin.below name
            rw [hy, Memory.slot?_set_of_ne]
            rintro rfl
            exact hne (hbelow.eq_of_length (le_antisymm hbelow.length_le hk.length_le))
      | kept hfile hoverwrite hitems hskipped hfound => exact hquiet h hitems
      | blocked hfolder hsame => exact hquiet h hsame.items
      | failed hmay hsame => exact hquiet h hsame.items
  | folder place name hin hvisit =>
      cases hvisit with
      | made hnone hitems hskipped hfound hgs hmade hkept =>
          refine ⟨fun _ k hk hne => (hmade k hne (hk.trans (hin.below name).1)).1,
            fun k hk hnil => ?_⟩
          obtain rfl : k = [] := hnil ⟨_, by rw [hitems]; exact Array.mem_push_self, rfl⟩
          exact (hkept [] (.inl rfl)).trans (h.kept [] hk fun _ => rfl)
      | entered hfolder hitems hskipped hfound => exact hquiet h hitems
      | blocked hfile hsame => exact hquiet h hsame.items
      | failed hmay hsame => exact hquiet h hsame.items

/-- **A run that creates** makes all folders above its output folder, or none. -/
theorem steps (hsteps : Steps s base ({}, before) (c, fs)) : Above base before c fs := by
  have hrun : ∀ x, Steps s base ({}, before) x → Above base before x.1 x.2 := by
    intro x hx
    induction hx with
    | refl => exact start before
    | tail _ hstep ih => exact ih.step hstep
  exact hrun (c, fs) hsteps

end Above

lemma create_above (s : CreateSettings) (outside : Outside) (schema : Schema) (output : String)
    (scope : Scope) {before : Memory} (hbefore : before.Tidy) :
    let run := (create s schema output scope).on (Memory.host outside) before
    Above (components output) before run.1 run.2 := by
  intro run
  have hhost : (Memory.host outside).Within id Memory.unreliable := fun c fs =>
    Memory.unreliable_of_answering (Memory.host_within outside c fs)
  cases hdry : s.options.dryRun with
  | false =>
      have hserving : (Memory.host outside).Within id
          (Memory.serving True s.limits.maxDownloadBytes) := fun c fs =>
        Memory.serving_of_answering (Memory.host_within outside c fs)
      exact .steps (hserving.on (create_ensures_steps hdry schema output scope hbefore))
  | true =>
      have hkept : run.2 = before :=
        (create_inspects hdry schema output scope).on_eq id (Memory.still hhost) before
      have hany : (Memory.host outside).Within (fun _ => ()) anyReply := fun _ _ => trivial
      have hidle := hany.on (s := before) (create_idles hdry schema output scope)
      rw [hkept]
      exact (Above.start before).stays (by rw [RecordsFolder, hidle.items, RecordsFolder])
        fun _ _ => rfl

end Creation

/-! ### Two runs -/

namespace Memory

/-- A call below a folder makes no files but below it, and leaves the others there. -/
lemma answer_hasFile_iff {output : String} {c : Call} (hc : c.StaysBelow output)
    (outside : Outside) (fs : Memory) {k : Key} (hbelow : ¬ components output <+: k) :
    (fs.answer outside c).2.HasFile k ↔ fs.HasFile k := by
  cases c with
  | makeFolder path =>
      exact exists₂_congr fun old bytes => makeFolders_file_iff fs [] _ k old bytes
  | write path bytes =>
      have hne : k ≠ components path := by
        rintro rfl
        exact hbelow (IsBelow.strictPrefix hc).1
      rw [HasFile, HasFile, answer, write_slot? fs path bytes k hne]
  | list _ | removeFile _ | removeFolder _ => exact hc.elim
  | entry _ | read _ | fetch _ | generate _ | command _ _ => rfl

/-- **What is done below one folder** cannot be told below another, unless one of them lies
in the other. -/
lemma sameBelow_on {α : Type} {output output' : String} {r : Run α}
    (hr : r.Every (·.StaysBelow output')) (outside : Outside)
    (hapart : ¬ components output <+: components output')
    (hapart' : ¬ components output' <+: components output) (fs : Memory) :
    SameBelow (components output) fs (r.on (Memory.host outside) fs).2 := by
  refine ⟨fun k hk => ?_, fun k hk => ?_⟩
  · have hhost : (Memory.host outside).Within id unreliable := fun c fs =>
      unreliable_of_answering (host_within outside c fs)
    refine (slot?_of_staysBelow hr hhost fs (fun h => hapart (hk.trans h)) fun h => ?_).symm
    exact (List.prefix_or_prefix_of_prefix hk h).elim hapart hapart'
  · have hsame : ∀ c fs, c.StaysBelow output' →
        (Memory.host outside c fs).2.HasFile k = fs.HasFile k := fun c fs hc =>
      propext (answer_hasFile_iff hc outside fs fun h => hapart' (h.trans hk))
    rw [hr.on_eq (fun fs => fs.HasFile k) hsame fs]

end Memory

section Order

variable {s s' : CreateSettings} {outside outside' : Outside} {schema schema' : Schema}
  {output output' : String} {scope scope' : Scope} {fs : Memory}

lemma create_tidy (hfs : fs.Tidy) :
    ((create s schema output scope).on (Memory.host outside) fs).2.Tidy :=
  (create_staysBelow s schema output scope).on_induct (fun _ _ _ h => h.answer outside _) hfs

/-- Beside its output folder a run makes the folders above it, or nothing. -/
lemma slot?_of_not_below (hfs : fs.Tidy) {k : Key} (hk : ¬ components output <+: k)
    {c : Creation} {after : Memory}
    (hrun : (create s schema output scope).on (Memory.host outside) fs = (c, after)) :
    (c.MakesAbove (components output) k → after.slot? k = some .folder) ∧
      (¬ c.MakesAbove (components output) k → after.slot? k = fs.slot? k) := by
  have habove := Creation.create_above s outside schema output scope hfs
  rw [hrun] at habove
  refine ⟨fun ⟨hpre, hne, hrec⟩ => habove.made hrec k hpre hne, fun hno => ?_⟩
  by_cases hpre : k <+: components output
  · exact habove.kept k hpre fun hrec => by_contra fun hne => hno ⟨hpre, hne, hrec⟩
  · have hhost : (Memory.host outside).Within id Memory.unreliable := fun c fs =>
      Memory.unreliable_of_answering (Memory.host_within outside c fs)
    have hkept := Memory.slot?_of_staysBelow (create_staysBelow s schema output scope) hhost fs
      hpre hk
    rwa [hrun] at hkept

/-- Below its output folder a run leaves the same, whether the other run comes before it or
after it. -/
lemma slot?_of_below (hapart : ¬ components output <+: components output')
    (hapart' : ¬ components output' <+: components output) {k : Key}
    (hk : components output <+: k) :
    let first := fun fs => (create s schema output scope).on (Memory.host outside) fs
    let second := fun fs => (create s' schema' output' scope').on (Memory.host outside') fs
    (second (first fs).2).2.slot? k = (first (second fs).2).2.slot? k := by
  intro first second
  have hsame := Memory.sameBelow_on (create_staysBelow s' schema' output' scope') outside' hapart
    hapart'
  have hfirst := (create_sameBelow s outside schema output scope (hsame fs)).2
  calc (second (first fs).2).2.slot? k
      = (first fs).2.slot? k := ((hsame (first fs).2).below k hk).symm
    _ = (first (second fs).2).2.slot? k := hfirst.below k hk

end Order

/-- **Runs below different output folders commute.** Unless one of the two output folders
lies in the other or is the same, creating in either order leads from a reachable file system
in memory to the same file system, and each of the two runs ends with the same result in both
orders. -/
theorem creates_commute (s s' : CreateSettings) (outside outside' : Outside)
    (schema schema' : Schema) {output output' : String} (scope scope' : Scope)
    (hapart : ¬ components output <+: components output')
    (hapart' : ¬ components output' <+: components output) {fs : Memory} (hfs : fs.Reachable) :
    let first := fun fs => (create s schema output scope).on (Memory.host outside) fs
    let second := fun fs => (create s' schema' output' scope').on (Memory.host outside') fs
    (second (first fs).2).2 = (first (second fs).2).2 ∧
      (first (second fs).2).1 = (first fs).1 ∧ (second (first fs).2).1 = (second fs).1 := by
  intro first second
  have hsame := Memory.sameBelow_on (create_staysBelow s' schema' output' scope') outside' hapart
    hapart' fs
  have hsame' := Memory.sameBelow_on (create_staysBelow s schema output scope) outside hapart'
    hapart fs
  have hfirst : (first (second fs).2).1 = (first fs).1 :=
    (create_sameBelow s outside schema output scope hsame).1.symm
  have hsecond : (second (first fs).2).1 = (second fs).1 :=
    (create_sameBelow s' outside' schema' output' scope' hsame').1.symm
  refine ⟨?_, hfirst, hsecond⟩
  have htidy := hfs.tidy
  refine (create_tidy (create_tidy htidy)).ext (create_tidy (create_tidy htidy)) fun k => ?_
  by_cases hk : components output <+: k
  · exact slot?_of_below hapart hapart' hk
  by_cases hk' : components output' <+: k
  · exact (slot?_of_below hapart' hapart hk').symm
  -- beside both, each run makes the folders above its output folder in either order
  have hrun : first (second fs).2 = ((first fs).1, (first (second fs).2).2) := Prod.ext hfirst rfl
  have hrun' : second (first fs).2 = ((second fs).1, (second (first fs).2).2) :=
    Prod.ext hsecond rfl
  obtain ⟨hmade₁, hkept₁⟩ := slot?_of_not_below htidy hk (rfl : first fs = (_, _))
  obtain ⟨hmade₁', hkept₁'⟩ := slot?_of_not_below htidy hk' (rfl : second fs = (_, _))
  obtain ⟨hmade₂, hkept₂⟩ := slot?_of_not_below (create_tidy htidy) hk hrun
  obtain ⟨hmade₂', hkept₂'⟩ := slot?_of_not_below (create_tidy htidy) hk' hrun'
  by_cases hfolder : (first fs).1.MakesAbove (components output) k
  · rw [hmade₂ hfolder]
    by_cases hfolder' : (second fs).1.MakesAbove (components output') k
    · exact hmade₂' hfolder'
    · rw [hkept₂' hfolder', hmade₁ hfolder]
  · rw [hkept₂ hfolder]
    by_cases hfolder' : (second fs).1.MakesAbove (components output') k
    · rw [hmade₂' hfolder', hmade₁' hfolder']
    · rw [hkept₂' hfolder', hkept₁ hfolder, hkept₁' hfolder']

/-- Two runs make the folder above both of their output folders, whichever of them is first. -/
theorem creates_commute_of_siblings :
    let s : CreateSettings :=
      { limits := {}, today := ⟨2024, 1, 1, by decide⟩, equipment := {}, options := {} }
    let schema : Schema := { root := .folder "a" [.file { name := "b", content := some "one" }] ∅ }
    let first := fun fs => (create s schema "top/left" default).on (Memory.host {}) fs
    let second := fun fs => (create s schema "top/right" default).on (Memory.host {}) fs
    (¬ components "top/left" <+: components "top/right") ∧
      (¬ components "top/right" <+: components "top/left") ∧ Memory.empty.Reachable ∧
      (second (first .empty).2).2 = (first (second .empty).2).2 ∧
      (first (second .empty).2).1 = (first .empty).1 ∧
      (second (first .empty).2).1 = (second .empty).1 :=
  ⟨by decide, by decide, .empty,
    creates_commute _ _ {} {} _ _ default default (by decide) (by decide) .empty⟩

end Scaffold

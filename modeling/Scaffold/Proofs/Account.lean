import Mathlib.Tactic
import Scaffold.Proofs.DryRun
import Scaffold.Proofs.Recording

/-!
What the record of a run that creates says of each path.

* `Creation.Accounts`: what is recorded is there, as what it is recorded; the first item of
  a path tells whether something was there before; and no item tells of a file that was
  overwritten unless files may be. Each step of a run keeps to this (`Accounts.step`);
* `Honest.changed` and `Honest.made_or_above`: what has changed is recorded;
* `record_is_complete`: so it is with the record of any run, also if any calls fail.
-/

namespace Scaffold

open Scaffold.Path Creation Undo Variable

namespace Creation

/-- The record of a run that creates gives account of the paths in it. -/
structure Accounts (s : CreateSettings) (before : Memory) (items : List CreatedItem)
    (fs : Memory) : Prop where
  file_there : ∀ item ∈ items, item.kind = .file → fs.HasFile (components item.path)
  folder_there : ∀ item ∈ items, item.kind = .folder →
    fs.slot? (components item.path) = some .folder
  /-- The first item of a path tells whether something was there before. -/
  first : ∀ k item, items.find? (components ·.path = k) = some item →
    (item.preExisted ↔ before.slot? k ≠ none)
  kept : s.options.overwrite = false → ∀ item ∈ items, item.preExisted = false

namespace Accounts

variable {s : CreateSettings} {base : Key} {before : Memory} {items : List CreatedItem}
  {fs gs : Memory} {x y : Creation × Memory}

lemma start : Accounts s before [] before where
  file_there := by simp
  folder_there := by simp
  first := by simp
  kept := by simp

/-- A further item is accounted for if it is there as what it is, and, as the first one of
its path, tells whether something was there before. -/
lemma concat (h : Accounts s before items fs) (hgrown : fs.Grown gs) {item : CreatedItem}
    (hitemFile : item.kind = .file → gs.HasFile (components item.path))
    (hitemFolder : item.kind = .folder → gs.slot? (components item.path) = some .folder)
    (hfirst : (∀ other ∈ items, components other.path ≠ components item.path) →
      (item.preExisted ↔ before.slot? (components item.path) ≠ none))
    (hkept : s.options.overwrite = false → item.preExisted = false) :
    Accounts s before (items ++ [item]) gs := by
  refine ⟨?_, ?_, fun k first hfound => ?_, ?_⟩
  · simp only [List.forall_mem_append, List.forall_mem_singleton]
    exact ⟨fun other hother hkind => hgrown.file _ (h.file_there other hother hkind), hitemFile⟩
  · simp only [List.forall_mem_append, List.forall_mem_singleton]
    exact ⟨fun other hother hkind => hgrown.folder _ (h.folder_there other hother hkind),
      hitemFolder⟩
  · rw [List.find?_append, Option.or_eq_some_iff] at hfound
    rcases hfound with hfound | ⟨hnone, hfound⟩
    · exact h.first k first hfound
    · obtain ⟨rfl, rfl⟩ : components item.path = k ∧ item = first := by
        simpa [List.find?_singleton] using hfound
      exact hfirst (by simpa using hnone)
  · simp only [List.forall_mem_append, List.forall_mem_singleton]
    exact fun hno => ⟨h.kept hno, hkept hno⟩

/-- Writing a file is accounted for. -/
lemma wrote (h : Accounts s before x.1.items.toList x.2)
    (honest : Honest base before x.1.items.toList x.2) (hgrown : x.2.Grown y.2) {place : Cursor}
    {preExisted : Bool} {bytes : ByteArray} (hpre : preExisted ↔ x.2.HasFile (components place.path))
    (hoverwrite : preExisted → s.options.overwrite) (hwrote : Wrote place preExisted bytes x y) :
    Accounts s before y.1.items.toList y.2 := by
  obtain ⟨spelling, hy, -⟩ := hwrote.slot
  have hhere : y.2.HasFile (components place.path) := ⟨spelling, bytes, by rw [hy]; simp⟩
  rw [hwrote.items, Array.toList_push]
  refine h.concat hgrown (fun _ => hhere) (by simp) (fun hfirst => ?_) (fun hno => ?_)
  · dsimp only
    rw [hpre]
    constructor
    · intro hfile
      -- a file that is not recorded was there before
      rcases honest.file_new _ hfile with hold | ⟨-, hrec⟩
      · exact hold.ne_none
      · obtain ⟨item, hitem, -, -, hpath⟩ := mem_recorded.mp hrec
        exact absurd hpath (hfirst item hitem)
    · intro hold
      rcases x.2.slot?_trichotomy (components place.path) with hs | hs | hs
      · exact absurd (honest.none_before hs) hold
      · exact hs
      · exact absurd hs hwrote.free
  · by_contra hyes
    simp [hoverwrite (by simpa using hyes)] at hno

/-- **Each step** of a run that creates accounts for what it records. -/
theorem step (h : Accounts s before x.1.items.toList x.2)
    (honest : Honest base before x.1.items.toList x.2) (hstep : Step s base x y) :
    Accounts s before y.1.items.toList y.2 := by
  have hquiet : ∀ {c c' : Creation} {fs : Memory}, Accounts s before c.items.toList fs →
      c'.items = c.items → Accounts s before c'.items.toList fs := fun h hitems => by
    rwa [hitems]
  have hgrown := hstep.grown
  cases hstep with
  | note hitems => exact hquiet h hitems
  | file place name hin hvisit =>
      cases hvisit with
      | wrote preExisted bytes hpre hoverwrite hcontent hwrote =>
          exact h.wrote honest hgrown hpre hoverwrite hwrote
      | kept hfile hoverwrite hitems hskipped hfound => exact hquiet h hitems
      | blocked hfolder hsame => exact hquiet h hsame.items
      | failed hmay hsame => exact hquiet h hsame.items
  | folder place name hin hvisit =>
      cases hvisit with
      | made hnone hitems hskipped hfound hgs hmade hkept =>
          have hne := place.components_descend_ne_nil name
          rw [hitems, Array.toList_push]
          refine h.concat hgrown (by simp) (fun _ => (hmade _ hne (List.prefix_refl _)).1)
            (fun _ => ?_) (fun _ => rfl)
          simpa using honest.none_before hnone
      | entered hfolder hitems hskipped hfound => exact hquiet h hitems
      | blocked hfile hsame => exact hquiet h hsame.items
      | failed hmay hsame => exact hquiet h hsame.items

/-- **A run that creates** accounts for what it records. -/
theorem steps {c : Creation} {fs : Memory} (hbefore : before.Tidy)
    (hsteps : Steps s base ({}, before) (c, fs)) : Accounts s before c.items.toList fs := by
  have hrun : ∀ x, Steps s base ({}, before) x → Accounts s before x.1.items.toList x.2 := by
    intro x hx
    induction hx with
    | refl => exact .start
    | tail hsteps hstep ih => exact ih.step (Honest.steps hbefore hsteps) hstep
  exact hrun (c, fs) hsteps

end Accounts

namespace Honest

variable {base : Key} {before : Memory} {items : List CreatedItem} {fs : Memory}

/-- A file that is not what it was is recorded as a file. -/
lemma changed (h : Honest base before items fs) {k : Key} (hfile : fs.HasFile k)
    (hne : fs.slot? k ≠ before.slot? k) :
    ∃ item ∈ items, components item.path = k ∧ item.kind = .file := by
  rcases h.file_new k hfile with hold | ⟨-, hrec⟩
  · obtain ⟨item, hitem, hpath, hpre⟩ : ∃ item ∈ items, components item.path = k ∧
        item.preExisted ≠ false := by
      by_contra! hall
      exact hne (h.bytes_kept k hold hall)
    refine ⟨item, hitem, hpath, ?_⟩
    cases hkind : item.kind with
    | file => rfl
    | folder => exact absurd (h.folder_fresh item hitem hkind) hpre
  · obtain ⟨item, hitem, -, hkind, hpath⟩ := mem_recorded.mp hrec
    exact ⟨item, hitem, hpath, hkind⟩

/-- A folder that is new is recorded as a folder, or on the way to the output folder. -/
lemma made_or_above (h : Honest base before items fs) {k : Key}
    (hfolder : fs.slot? k = some .folder) (hnone : before.slot? k = none) :
    k <+: base ∨ ∃ item ∈ items, components item.path = k ∧ item.kind = .folder := by
  rcases h.folder_new k hfolder with hold | ⟨-, hway | hrec⟩
  · simp [hnone] at hold
  · exact .inl hway
  · obtain ⟨item, hitem, -, hkind, hpath⟩ := mem_recorded.mp hrec
    exact .inr ⟨item, hitem, hpath, hkind⟩

end Honest

/-- Where files are kept in memory, any run that creates keeps its record honest and
accounts for what it records, also if any calls fail. -/
lemma create_on {σ : Type} {host : Host (StateM σ)} {view : σ → Memory}
    (hhost : host.Within view Memory.unreliable) (s : CreateSettings) (schema : Schema)
    (output : String) (scope : Scope) {before : σ} (hbefore : (view before).Tidy) :
    ∃ c after, (create s schema output scope).on host before = (c, after) ∧
      Honest (components output) (view before) c.items.toList (view after) ∧
      Accounts s (view before) c.items.toList (view after) := by
  refine ⟨_, _, rfl, ?_⟩
  cases hdry : s.options.dryRun with
  | false =>
      have hserving : host.Within view (Memory.serving True s.limits.maxDownloadBytes) :=
        fun c st => ⟨hhost c st, fun hno => absurd trivial hno⟩
      have hsteps := hserving.on (create_ensures_steps hdry schema output scope hbefore)
      exact ⟨Honest.steps hbefore hsteps, Accounts.steps hbefore hsteps⟩
  | true =>
      have hkept := (create_inspects hdry schema output scope).on_eq view (Memory.still hhost) before
      have hany : host.Within (fun _ => ()) anyReply := fun _ _ => trivial
      have hidle := hany.on (s := before) (create_idles hdry schema output scope)
      rw [hkept, hidle.items]
      exact ⟨.start hbefore, .start⟩

end Creation

/-- **The record is complete and honest.** On a host that keeps its files in memory, any
calls of which may fail, creating makes nothing disappear or change its kind. Each file
that is new or not what it was is recorded as a file, and each folder that is new is
recorded as a folder, but for the output folder and those above it. What is recorded is
there as what it is recorded. The first item of a path tells whether something was there
before, and items of folders say that nothing was. If files may not be overwritten then
those that were there are what they were. -/
theorem record_is_complete {σ : Type} {host : Host (StateM σ)} {view : σ → Memory}
    (hhost : host.Within view Memory.unreliable) (s : CreateSettings) (schema : Schema)
    (output : String) (scope : Scope) {before : σ} (hbefore : (view before).Reachable) :
    ∃ c after, (create s schema output scope).on host before = (c, after) ∧
      (∀ k, (view before).slot? k = some .folder → (view after).slot? k = some .folder) ∧
      (∀ k, (view before).HasFile k → (view after).HasFile k) ∧
      (∀ k, (view after).HasFile k → (view after).slot? k ≠ (view before).slot? k →
        ∃ item ∈ c.items, components item.path = k ∧ item.kind = .file) ∧
      (∀ k, (view after).slot? k = some .folder → (view before).slot? k = none →
        k <+: components output ∨
          ∃ item ∈ c.items, components item.path = k ∧ item.kind = .folder) ∧
      (∀ item ∈ c.items, match item.kind with
        | .file => (view after).HasFile (components item.path)
        | .folder => (view after).slot? (components item.path) = some .folder) ∧
      (∀ k item, c.items.toList.find? (components ·.path = k) = some item →
        (item.preExisted ↔ (view before).slot? k ≠ none)) ∧
      (∀ item ∈ c.items, item.kind = .folder → item.preExisted = false) ∧
      (s.options.overwrite = false → ∀ k, (view before).HasFile k →
        (view after).slot? k = (view before).slot? k) := by
  obtain ⟨c, after, hrun, honest, haccounts⟩ :=
    create_on hhost s schema output scope hbefore.tidy
  simp only [← Array.mem_toList_iff]
  refine ⟨c, after, hrun, honest.folder_kept, honest.file_kept, fun k => honest.changed,
    fun k => honest.made_or_above, fun item hitem => ?_, haccounts.first, honest.folder_fresh,
    fun hno k hold => ?_⟩
  · split
    · exact haccounts.file_there item hitem ‹_›
    · exact haccounts.folder_there item hitem ‹_›
  · exact honest.bytes_kept k hold fun item hitem _ => haccounts.kept hno item hitem

/-- A file that was there and is written twice, beside one that cannot be written, is first
recorded as overwritten. -/
theorem record_is_complete_of_file :
    let s : CreateSettings :=
      { limits := {}, today := ⟨2024, 1, 1, by decide⟩, equipment := {},
        options := { overwrite := true } }
    let schema : Schema :=
      { root := .folder "a" [.file { name := "b", content := some "one" },
          .file { name := "b", content := some "two" }, .file { name := "c" }] ∅ }
    let faults : Faults := fun
      | .write => [components "out/a/c"]
      | _ => []
    let before := ((Memory.empty.makeFolder "out/a").2.write "out/a/b" ⟨#[1]⟩).2
    ∃ c after, (create s schema "out" default).on ((Memory.host {}).failing faults) before =
        (c, after) ∧ after.HasFile (components "out/a/b") ∧
      ∀ item, c.items.toList.find? (components ·.path = components "out/a/b") = some item →
        item.preExisted := by
  intro s schema faults before
  have hbefore : (id before : Memory).Reachable :=
    .call {} (.write "out/a/b" ⟨#[1]⟩) (.call {} (.makeFolder "out/a") .empty)
  have hfile : before.HasFile (components "out/a/b") := ⟨"out/a/b", ⟨#[1]⟩, by decide⟩
  obtain ⟨c, after, hrun, -, hkept, -, -, -, hfirst, -⟩ :=
    record_is_complete (Memory.failing_within {} faults) s schema "out" default hbefore
  exact ⟨c, after, hrun, hkept _ hfile, fun item hitem => (hfirst _ item hitem).mpr hfile.ne_none⟩

end Scaffold

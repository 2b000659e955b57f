import Mathlib.Tactic
import Scaffold.Proofs.Calls
import Scaffold.Proofs.Parallel

/-!
What a walk comes to.

* `Encounter`: a folder or a file that a visitor is handed, or a name that is refused;
* `Visitor.noting`: a visitor that also notes what it is handed. Its walk goes as the walk
  without notes (`noting_walk`);
* `Visitor.encounters`: what the walk of a visitor comes to on a host;
* `ensures_note_framed`: what a program ensures that notes something first.
-/

namespace Scaffold

open Variable

variable {α ρ κ σ Item Opened : Type}

/-! ### Notes -/

/-- What a walk comes to. -/
inductive Encounter where
  | folder (name : String) (place : Cursor)
  | file (name : String) (f : FileNode) (place : Cursor) (env : Environment)
  /-- A node whose name is refused, and the place it would be in. -/
  | refused (kind : ItemKind) (place : Cursor)

/-- Whether a name was refused. -/
def Encounter.isRefused : Encounter → Bool
  | refused _ _ => true
  | folder _ _ | file _ _ _ _ => false

/-- Notes an encounter. -/
def note (e : Encounter) : StateT (ρ × List Encounter) Run Unit :=
  modify fun t => (t.1, t.2 ++ [e])

/-- A visitor that also notes what it is handed. -/
def Visitor.noting (v : Visitor (StateT ρ Run) Item Opened) :
    Visitor (StateT (ρ × List Encounter) Run) Item Opened :=
  { v.framed with
    enterFolder := fun name place => do
      note (.folder name place)
      Scaffold.framed (v.enterFolder name place)
    file := fun name f place env => do
      note (.file name f place env)
      Scaffold.framed (v.file name f place env)
    invalidName := fun kind place => do
      note (.refused kind place)
      Scaffold.framed (v.invalidName kind place) }

/-- What the walk of a visitor comes to on a host. -/
def Visitor.encounters (v : Visitor (StateT ρ Run) Item Opened) (s : WalkSettings) (root : Node)
    (output : String) (scope : Scope) (start : ρ) (host : Host (StateM σ)) (st : σ) :
    List Encounter :=
  (((walk s v.noting root output scope).run (start, [])).on host st).1.2.2

/-- A note makes no other difference. -/
lemma parallel_note_bind {e : Encounter} {x : StateT (ρ × List Encounter) Run α}
    {x' : StateT ρ Run α} (h : Parallel (fun t t' => t' = t.1) x x') :
    Parallel (fun t t' => t' = t.1) (do note e; x) x' := by
  have hnote : Parallel (fun t t' => t' = t.1) (note e : StateT (ρ × List Encounter) Run Unit)
      (pure () : StateT ρ Run Unit) :=
    parallel_modify_pure fun _ _ ht => ht
  simpa using hnote.bind fun _ => h

/-- A visitor goes about its visits as it does without notes. -/
lemma noting_mirrors (v : Visitor (StateT ρ Run) Item Opened) :
    v.noting.Mirrors v (fun t t' => t' = t.1) fun _ => false where
  report _ _ := .framed fun _ => parallel_refl _
  mute _ hmuted := by simp at hmuted
  enterFolder _ _ := parallel_note_bind (.framed fun _ => parallel_refl _)
  leaveFolder _ _ := .framed fun _ => parallel_refl _
  file _ _ _ _ := parallel_note_bind (.framed fun _ => parallel_refl _)
  group _ _ _ := .framed fun _ => parallel_refl _
  invalidName _ _ := parallel_note_bind (.framed fun _ => parallel_refl _)

/-- A walk goes as it does without notes. -/
lemma noting_walk (v : Visitor (StateT ρ Run) Item Opened) (s : WalkSettings) (root : Node)
    (output : String) (scope : Scope) :
    Parallel (fun t t' => t' = t.1) (walk s v.noting root output scope)
      (walk s v root output scope) := by
  rw [walk_eq_perform, walk_eq_perform]
  simpa [Plan.mute_never] using (noting_mirrors v).perform (Plan.ofRoot s root scope) _

/-! ### Programs with notes -/

section Ensures

variable {β : Type} {rule : Run.Rule σ}

/-- A program leaves alone what is added to its state. -/
lemma ensures_framed {x : StateT ρ Run α} {t : ρ × κ} {s : σ} {after : α → ρ × κ → σ → Prop} :
    Ensures rule (framed x) t s after ↔ Ensures rule x t.1 s fun a r => after a (r, t.2) := by
  unfold Ensures
  exact Run.ensures_bind

/-- A note is added to what was met, and the program goes on. -/
lemma ensures_note_framed {e : Encounter} {x : StateT ρ Run α} {t : ρ × List Encounter} {s : σ}
    {after : α → ρ × List Encounter → σ → Prop} :
    Ensures rule (do note e; framed x) t s after ↔
      Ensures rule x t.1 s fun a r => after a (r, t.2 ++ [e]) := by
  rw [ensures_bind, note, ensures_modify, ensures_framed]

/-- Something is made of the result. -/
@[simp]
lemma ensures_map {f : α → β} {x : StateT ρ Run α} {t : ρ} {s : σ} {after : β → ρ → σ → Prop} :
    Ensures rule (f <$> x) t s after ↔ Ensures rule x t s fun a => after (f a) := by
  rw [map_eq_pure_bind, ensures_bind]
  simp only [ensures_pure]

end Ensures

end Scaffold

import Mathlib.Tactic
import Scaffold.Proofs.Plan

/-!
Two runs side by side.

* `Run.Alike`: two runs make the same calls, whatever is replied, and end with related
  results. On one host they then leave the same state (`Alike.on`);
* `Parallel`: so it is for two programs, whenever their own states are related;
* `framed`: a program on states of which its own is a part. It leaves the rest alone;
* `Plan.mute`: a plan without some of its reports;
* `Visitor.Mirrors`: the visits of two visitors are parallel, but for some reports that only
  the first one makes. Then so are a plan and the muted plan (`Mirrors.perform`).
-/

namespace Scaffold

open Variable

variable {α β γ δ ρ ρ' κ σ : Type}

/-! ### Runs and programs -/

namespace Run

/-- Two runs make the same calls, whatever is replied, and end with related results. -/
inductive Alike (R : α → β → Prop) : Run α → Run β → Prop
  | done {a : α} {b : β} : R a b → Alike R (done a) (done b)
  | ask (c : Call) {next : c.Reply → Run α} {next' : c.Reply → Run β} :
      (∀ reply, Alike R (next reply) (next' reply)) → Alike R (ask c next) (ask c next')

namespace Alike

variable {R : α → β → Prop} {r : Run α} {r' : Run β}

lemma refl (r : Run α) : Alike (fun a b => b = a) r r := by
  induction r with
  | done a => exact .done rfl
  | ask c next ih => exact .ask c ih

lemma mono {R' : α → β → Prop} (h : Alike R r r') (hR : ∀ a b, R a b → R' a b) :
    Alike R' r r' := by
  induction h with
  | done hab => exact .done (hR _ _ hab)
  | ask c _ ih => exact .ask c ih

lemma bind {R' : γ → δ → Prop} {f : α → Run γ} {f' : β → Run δ} (h : Alike R r r')
    (hf : ∀ a b, R a b → Alike R' (f a) (f' b)) : Alike R' (r >>= f) (r' >>= f') := by
  induction h with
  | done hab => exact hf _ _ hab
  | ask c _ ih => exact .ask c ih

/-- **Two runs that are alike**, on one host, leave the same state and end with related
results. -/
theorem on (h : Alike R r r') (host : Host (StateM σ)) (s : σ) :
    R (r.on host s).1 (r'.on host s).1 ∧ (r'.on host s).2 = (r.on host s).2 := by
  induction h generalizing s with
  | done hab => exact ⟨hab, rfl⟩
  | ask c _ ih => exact ih (host c s).1 (host c s).2

end Alike

end Run

/-- Started in related states, two programs make the same calls, whatever is replied, and
end with the same result in related states. -/
def Parallel (R : ρ → ρ' → Prop) (x : StateT ρ Run α) (x' : StateT ρ' Run α) : Prop :=
  ∀ t t', R t t' → Run.Alike (fun p p' => p'.1 = p.1 ∧ R p.2 p'.2) (x.run t) (x'.run t')

section Parallel

variable {R : ρ → ρ' → Prop} {x : StateT ρ Run α} {x' : StateT ρ' Run α}

lemma parallel_pure (a : α) : Parallel R (pure a) (pure a) := fun _ _ h => .done ⟨rfl, h⟩

lemma parallel_call (c : Call) : Parallel R (liftM (Run.call c)) (liftM (Run.call c)) :=
  fun _ _ h => .ask c fun _ => .done ⟨rfl, h⟩

/-- A program is parallel to itself. -/
lemma parallel_refl (x : StateT ρ Run α) : Parallel (fun t t' => t' = t) x x := by
  rintro t t' rfl
  exact (Run.Alike.refl (x.run t')).mono fun p p' hp => ⟨congrArg Prod.fst hp, congrArg Prod.snd hp⟩

lemma parallel_modify {f : ρ → ρ} {f' : ρ' → ρ'} (h : ∀ t t', R t t' → R (f t) (f' t')) :
    Parallel R (modify f) (modify f') := fun t t' ht => .done ⟨rfl, h t t' ht⟩

/-- One of two programs changes its state, and the other does nothing. -/
lemma parallel_modify_pure {f : ρ → ρ} (h : ∀ t t', R t t' → R (f t) t') :
    Parallel R (modify f) (pure ⟨⟩) := fun t t' ht => .done ⟨rfl, h t t' ht⟩

lemma Parallel.bind {f : α → StateT ρ Run β} {f' : α → StateT ρ' Run β} (hx : Parallel R x x')
    (hf : ∀ a, Parallel R (f a) (f' a)) : Parallel R (x >>= f) (x' >>= f') := by
  intro t t' ht
  rw [StateT.run_bind, StateT.run_bind]
  refine (hx t t' ht).bind ?_
  rintro ⟨a, u⟩ ⟨a', u'⟩ ⟨ha, hu⟩
  obtain rfl : a' = a := ha
  exact hf _ _ _ hu

lemma parallel_forM {items : List γ} {f : γ → StateT ρ Run PUnit} {f' : γ → StateT ρ' Run PUnit}
    (h : ∀ item, Parallel R (f item) (f' item)) : Parallel R (items.forM f) (items.forM f') := by
  induction items with
  | nil => exact parallel_pure _
  | cons item rest ih => exact (h item).bind fun _ => ih

end Parallel

/-- A program, on states of which its own is a part. It leaves the rest alone. -/
def framed (x : StateT ρ Run α) : StateT (ρ × κ) Run α := fun t => do
  let (a, r) ← x.run t.1
  return (a, (r, t.2))

/-- A program goes as it does without the rest of the states. -/
lemma Parallel.framed {R : κ → ρ → ρ' → Prop} {x : StateT ρ Run α} {x' : StateT ρ' Run α}
    (h : ∀ k, Parallel (R k) x x') :
    Parallel (fun t t' => R t.2 t.1 t') (framed x : StateT (ρ × κ) Run α) x' := by
  rintro ⟨r, k⟩ r' hr
  have hx : Run.Alike (fun p p' => p'.1 = p.1 ∧ R p.2.2 p.2.1 p'.2)
      (x.run r >>= fun p => pure (p.1, (p.2, k))) (x'.run r' >>= pure) :=
    (h k r r' hr).bind fun p p' hp => .done hp
  rwa [bind_pure] at hx

/-- A visitor, on states of which its own is a part. -/
def Visitor.framed {Item Opened : Type} (v : Visitor (StateT ρ Run) Item Opened) :
    Visitor (StateT (ρ × κ) Run) Item Opened where
  isDry := v.isDry
  report entry := Scaffold.framed (v.report entry)
  enterFolder name place := Scaffold.framed (v.enterFolder name place)
  leaveFolder opened items := Scaffold.framed (v.leaveFolder opened items)
  file name f place env := Scaffold.framed (v.file name f place env)
  group label place items := Scaffold.framed (v.group label place items)
  invalidName kind place := Scaffold.framed (v.invalidName kind place)

/-! ### Plans -/

/-- A plan without some of its reports. -/
def Plan.mute (muted : Notice → Bool) : Plan → Plan
  | done => done
  | report notice next =>
    if muted notice then next.mute muted else report notice (next.mute muted)
  | refused kind next => refused kind (next.mute muted)
  | file name f env next => file name f env (next.mute muted)
  | folder name inside next => folder name (inside.mute muted) (next.mute muted)
  | group label inside next => group label (inside.mute muted) (next.mute muted)

namespace Plan

variable {muted : Notice → Bool}

lemma mute_append (p q : Plan) : (p.append q).mute muted = (p.mute muted).append (q.mute muted) := by
  induction p with
  | done => rfl
  | report notice next ih => by_cases h : muted notice <;> simp [append, mute, h, ih]
  | refused kind next ih => simp [append, mute, ih]
  | file name f env next ih => simp [append, mute, ih]
  | folder name inside next _ ih => simp [append, mute, ih]
  | group label inside next _ ih => simp [append, mute, ih]

lemma mute_concat (ps : List Plan) : (concat ps).mute muted = concat (ps.map (mute muted)) := by
  induction ps with
  | nil => rfl
  | cons p rest ih => simp [concat, mute_append, ih]

/-- Nothing is muted. -/
lemma mute_never (p : Plan) : p.mute (fun _ => false) = p := by
  induction p with
  | done => rfl
  | report notice next ih => simp [mute, ih]
  | refused kind next ih => simp [mute, ih]
  | file name f env next ih => simp [mute, ih]
  | folder name inside next ihInside ih => simp [mute, ihInside, ih]
  | group label inside next ihInside ih => simp [mute, ihInside, ih]

end Plan

variable {Item Opened : Type}

/-- The visits of two visitors are parallel. Some reports are made by the first one only. -/
structure Visitor.Mirrors (v : Visitor (StateT ρ Run) Item Opened)
    (v' : Visitor (StateT ρ' Run) Item Opened) (R : ρ → ρ' → Prop) (muted : Notice → Bool) :
    Prop where
  report : ∀ notice, muted notice = false →
    Parallel R (v.report (notice.entry v.isDry)) (v'.report (notice.entry v'.isDry))
  mute : ∀ notice, muted notice = true → Parallel R (v.report (notice.entry v.isDry)) (pure ())
  enterFolder : ∀ name place, Parallel R (v.enterFolder name place) (v'.enterFolder name place)
  leaveFolder : ∀ opened items,
    Parallel R (v.leaveFolder opened items) (v'.leaveFolder opened items)
  file : ∀ name f place env, Parallel R (v.file name f place env) (v'.file name f place env)
  group : ∀ label place items, Parallel R (v.group label place items) (v'.group label place items)
  invalidName : ∀ kind place, Parallel R (v.invalidName kind place) (v'.invalidName kind place)

namespace Visitor.Mirrors

variable {v : Visitor (StateT ρ Run) Item Opened} {v' : Visitor (StateT ρ' Run) Item Opened}
  {R : ρ → ρ' → Prop} {muted : Notice → Bool}

lemma openFolder (hv : v.Mirrors v' R muted) (name : String) (place : Cursor)
    {walk : Cursor → StateT ρ Run (List Item)} {walk' : Cursor → StateT ρ' Run (List Item)}
    (hinside : ∀ inner, Parallel R (walk inner) (walk' inner)) :
    Parallel R (Plan.openFolder v name place walk) (Plan.openFolder v' name place walk') := by
  refine (hv.enterFolder _ _).bind fun opened => ?_
  cases opened with
  | none => exact parallel_pure _
  | some opened => exact (hinside _).bind fun items => hv.leaveFolder _ _

/-- **A plan and the muted plan** are parallel, as each of the visits is. -/
theorem perform (hv : v.Mirrors v' R muted) (p : Plan) (place : Cursor) :
    Parallel R (p.perform v place) ((p.mute muted).perform v' place) := by
  induction p generalizing place with
  | done => exact parallel_pure _
  | report notice next ih =>
      by_cases hmuted : muted notice
      · simpa [Plan.perform, Plan.mute, hmuted] using
          (hv.mute notice hmuted).bind fun _ => ih place
      · simpa [Plan.perform, Plan.mute, hmuted] using
          (hv.report notice (by simpa using hmuted)).bind fun _ => ih place
  | refused kind next ih =>
      refine (hv.invalidName kind place).bind fun item => ?_
      exact (ih place).bind fun items => parallel_pure _
  | file name f env next ih =>
      refine (hv.file name f _ env).bind fun item => ?_
      exact (ih place).bind fun items => parallel_pure _
  | folder name inside next ihInside ih =>
      refine (hv.openFolder name place ihInside).bind fun item => ?_
      exact (ih place).bind fun items => parallel_pure _
  | group label inside next ihInside ih =>
      refine (ihInside place).bind fun children => ?_
      refine (hv.group label place children).bind fun item => ?_
      exact (ih place).bind fun items => parallel_pure _

end Visitor.Mirrors

end Scaffold

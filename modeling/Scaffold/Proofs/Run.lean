import Mathlib.Tactic
import Scaffold.Host

/-!
What holds of the ways in which a run can go.

* `Run.Every`: each call of a run has a property, whatever is replied;
* `Run.Ensures`: whenever calls are answered within some rule, the run ends in some
  condition. The rule says which replies a call may get in a state of the
  surroundings, and in which state it leaves them;
* `Host.Within`: a host answers within a rule, as far as a view of its states shows;
* `Run.Follows`: it does so along one run;
* `Follows.on`: what a run ensures under the rule then holds when the host carries it out;
* `Ensures` for programs with a state of their own comes with one equation for each way
  to build a program, so that programs are carried out by rewriting.
-/

namespace Scaffold

/-- The path of a call to a file system. -/
def Call.path? : Call → Option String
  | entry path | makeFolder path | write path _ | read path | list path | removeFile path
  | removeFolder path => some path
  | fetch _ | generate _ | command _ _ => none

namespace Run

variable {α β σ τ : Type}

/-! ### All calls of a run -/

/-- Each call of a run has a property, whatever is replied. -/
def Every (P : Call → Prop) : Run α → Prop
  | done _ => True
  | ask c next => P c ∧ ∀ reply, (next reply).Every P

lemma Every.bind {P : Call → Prop} {r : Run α} {f : α → Run β} (hr : r.Every P)
    (hf : ∀ a, (f a).Every P) : (r >>= f).Every P := by
  induction r with
  | done a => exact hf a
  | ask c next ih => exact ⟨hr.1, fun reply => ih reply (hr.2 reply)⟩

lemma Every.mono {P Q : Call → Prop} {r : Run α} (hr : r.Every P) (h : ∀ c, P c → Q c) :
    r.Every Q := by
  induction r with
  | done a => trivial
  | ask c next ih => exact ⟨h c hr.1, fun reply => ih reply (hr.2 reply)⟩

/-- What holds of a host's state, and goes on to hold with each call, holds in the end. -/
theorem Every.on_induct {host : Host (StateM σ)} {P : Call → Prop} {I : σ → Prop}
    (hP : ∀ c s, P c → I s → I (host c s).2) {r : Run α} (hr : r.Every P) {s : σ}
    (hs : I s) : I (r.on host s).2 := by
  induction r generalizing s with
  | done a => exact hs
  | ask c next ih => exact ih _ (hr.2 _) (hP c s hr.1 hs)

/-- Calls that leave a part of a host's state alone, one by one, leave it alone. -/
theorem Every.on_eq {host : Host (StateM σ)} {P : Call → Prop} (part : σ → τ)
    (hP : ∀ c s, P c → part (host c s).2 = part s) {r : Run α} (hr : r.Every P) (s : σ) :
    part (r.on host s).2 = part s :=
  hr.on_induct (I := fun st => part st = part s)
    (fun c st hc hst => (hP c st hc).trans hst) rfl

/-! ### Runs within a rule -/

/-- A rule: the replies that a call may get in a state, and the states after it. -/
abbrev Rule (σ : Type) := σ → (c : Call) → c.Reply → σ → Prop

/-- Whenever its calls are answered within a rule, a run ends in some condition. -/
def Ensures (rule : Rule σ) (after : α → σ → Prop) : Run α → σ → Prop
  | done a, s => after a s
  | ask c next, s => ∀ reply s', rule s c reply s' → (next reply).Ensures rule after s'

variable {rule rule' : Rule σ} {after after' : α → σ → Prop}

lemma ensures_bind {r : Run α} {f : α → Run β} {after : β → σ → Prop} {s : σ} :
    (r >>= f).Ensures rule after s ↔
      r.Ensures rule (fun a s' => (f a).Ensures rule after s') s := by
  induction r generalizing s with
  | done a => rfl
  | ask c next ih => simp only [ask_bind, Ensures, ih]

/-- A run ensures less under a wider rule. -/
lemma Ensures.mono {r : Run α} {s : σ} (h : r.Ensures rule after s)
    (hrule : ∀ s c reply s', rule' s c reply s' → rule s c reply s')
    (hafter : ∀ a s, after a s → after' a s) : r.Ensures rule' after' s := by
  induction r generalizing s with
  | done a => exact hafter a s h
  | ask c next ih => exact fun reply s' hs => ih reply (h reply s' (hrule s c reply s' hs))

/-- What holds of the surroundings, and goes on to hold with each call of a run, holds in the
end. -/
lemma Every.ensures {P : Call → Prop} {I : σ → Prop} {r : Run α} (hr : r.Every P)
    (hstep : ∀ c s reply s', P c → I s → rule s c reply s' → I s') {s : σ} (hs : I s) :
    r.Ensures rule (fun _ => I) s := by
  induction r generalizing s with
  | done a => exact hs
  | ask c next ih => exact fun reply s' hrule => ih reply (hr.2 reply) (hstep _ _ _ _ hr.1 hs hrule)

/-- What a run ensures one by one, it ensures together. -/
lemma Ensures.and {r : Run α} {s : σ} (h : r.Ensures rule after s)
    (h' : r.Ensures rule after' s) : r.Ensures rule (fun a s => after a s ∧ after' a s) s := by
  induction r generalizing s with
  | done a => exact ⟨h, h'⟩
  | ask c next ih => exact fun reply s' hs => ih reply (h reply s' hs) (h' reply s' hs)

end Run

/-- A host answers within a rule, as far as a view of its states shows. -/
def Host.Within {σ τ : Type} (host : Host (StateM σ)) (view : σ → τ) (rule : Run.Rule τ) : Prop :=
  ∀ c s, rule (view s) c (host c s).1 (view (host c s).2)

/-- The calls of a run that a host carries out are answered within a rule, as far as a view
of the states of the host shows. -/
def Run.Follows {α σ τ : Type} (host : Host (StateM σ)) (view : σ → τ) (rule : Run.Rule τ) :
    Run α → σ → Prop
  | done _, _ => True
  | ask c next, s =>
    rule (view s) c (host c s).1 (view (host c s).2) ∧
      (next (host c s).1).Follows host view rule (host c s).2

section Follows

variable {α σ τ : Type} {host : Host (StateM σ)} {view : σ → τ} {rule rule' rule'' : Run.Rule τ}
  {after : α → τ → Prop} {r : Run α} {s : σ}

/-- **What a run ensures** holds when it is carried out within the rule. -/
theorem Run.Follows.on (hr : r.Follows host view rule s) (h : r.Ensures rule after (view s)) :
    after (r.on host s).1 (view (r.on host s).2) := by
  induction r generalizing s with
  | done a => exact h
  | ask c next ih => exact ih _ hr.2 (h _ _ hr.1)

/-- A host that answers within a rule does so along each run. -/
lemma Run.Follows.of_within (hhost : host.Within view rule) (hr : r.Follows host view rule' s)
    (h : ∀ t c reply t', rule t c reply t' → rule' t c reply t' → rule'' t c reply t') :
    r.Follows host view rule'' s := by
  induction r generalizing s with
  | done a => exact hr
  | ask c next ih => exact ⟨h _ _ _ _ (hhost c s) hr.1, ih _ hr.2⟩

lemma Host.Within.follows (hhost : host.Within view rule) : r.Follows host view rule s := by
  induction r generalizing s with
  | done a => trivial
  | ask c next ih => exact ⟨hhost c s, ih _⟩

/-- What a run ensures holds when a host carries it out. -/
theorem Host.Within.on (hhost : host.Within view rule) (h : r.Ensures rule after (view s)) :
    after (r.on host s).1 (view (r.on host s).2) :=
  hhost.follows.on h

end Follows

/-! ### Programs with a state of their own -/

section Program

variable {α β ρ σ : Type} {rule : Run.Rule σ}

/-- Started in a state of its own and a state of its surroundings, a program ends in some
condition whenever its calls are answered within a rule. -/
def Ensures (rule : Run.Rule σ) (x : StateT ρ Run α) (t : ρ) (s : σ)
    (after : α → ρ → σ → Prop) : Prop :=
  (x.run t).Ensures rule (fun p s' => after p.1 p.2 s') s

@[simp]
lemma ensures_pure {a : α} {t : ρ} {s : σ} {after : α → ρ → σ → Prop} :
    Ensures rule (pure a) t s after ↔ after a t s := Iff.rfl

@[simp]
lemma ensures_bind {x : StateT ρ Run α} {f : α → StateT ρ Run β} {t : ρ} {s : σ}
    {after : β → ρ → σ → Prop} :
    Ensures rule (x >>= f) t s after ↔
      Ensures rule x t s fun a t' s' => Ensures rule (f a) t' s' after := by
  simp only [Ensures, StateT.run_bind, Run.ensures_bind]

/-- An item may come first, and others after it. -/
lemma ensures_items {x : StateT ρ Run (Option α)} {rest : StateT ρ Run (List α)} {t : ρ} {s : σ}
    {after : List α → ρ → σ → Prop} :
    Ensures rule (do let item ← x; let items ← rest; pure (item.toList ++ items)) t s after ↔
      Ensures rule x t s fun item t' s' =>
        Ensures rule rest t' s' fun items => after (item.toList ++ items) := by
  simp only [ensures_bind, ensures_pure]

@[simp]
lemma ensures_modify {change : ρ → ρ} {t : ρ} {s : σ} {after : PUnit → ρ → σ → Prop} :
    Ensures rule (modify change) t s after ↔ after ⟨⟩ (change t) s := Iff.rfl

@[simp]
lemma ensures_get {t : ρ} {s : σ} {after : ρ → ρ → σ → Prop} :
    Ensures rule get t s after ↔ after t t s := Iff.rfl

/-- A call may be answered in any way that the rule allows. -/
@[simp]
lemma ensures_call {c : Call} {t : ρ} {s : σ} {after : c.Reply → ρ → σ → Prop} :
    Ensures rule (liftM (Run.call c)) t s after ↔
      ∀ reply s', rule s c reply s' → after reply t s' := Iff.rfl

/-- The first of some things is dealt with before the others. -/
lemma ensures_forM_cons {γ : Type} {item : γ} {rest : List γ} {f : γ → StateT ρ Run PUnit}
    {t : ρ} {s : σ} {after : PUnit → ρ → σ → Prop} :
    Ensures rule ((item :: rest).forM f) t s after ↔
      Ensures rule (f item) t s fun _ t' s' => Ensures rule (rest.forM f) t' s' after :=
  ensures_bind

lemma Ensures.mono {x : StateT ρ Run α} {t : ρ} {s : σ} {after after' : α → ρ → σ → Prop}
    (h : Ensures rule x t s after) (hafter : ∀ a t s, after a t s → after' a t s) :
    Ensures rule x t s after' :=
  Run.Ensures.mono h (fun _ _ _ _ hs => hs) fun p s hp => hafter p.1 p.2 s hp

lemma Ensures.and {x : StateT ρ Run α} {t : ρ} {s : σ} {after after' : α → ρ → σ → Prop}
    (h : Ensures rule x t s after) (h' : Ensures rule x t s after') :
    Ensures rule x t s fun a t s => after a t s ∧ after' a t s :=
  Run.Ensures.and h h'

/-- What is made of the result changes no state. -/
lemma Ensures.map {x : StateT ρ Run α} {t : ρ} {s : σ} {after : ρ → σ → Prop}
    (h : Ensures rule x t s fun _ => after) (f : α → β) :
    Ensures rule (do let a ← x; pure (f a)) t s fun _ => after :=
  ensures_bind.mpr (h.mono fun _ _ _ hs => ensures_pure.mpr hs)

/-- A program leaves its surroundings alone and changes its own state only in ways that do
not count; its result has some property. -/
def Keeps (rule : Run.Rule σ) (rel : ρ → ρ → Prop) (x : StateT ρ Run α) (Q : α → Prop) : Prop :=
  ∀ t s, Ensures rule x t s fun a t' s' => Q a ∧ rel t t' ∧ s' = s

section Keeps

variable {rel : ρ → ρ → Prop} {Q : α → Prop} {Q' : β → Prop}

lemma keeps_pure [Std.Refl rel] {a : α} (h : Q a) : Keeps rule rel (pure a) Q :=
  fun t _ => ensures_pure.mpr ⟨h, Std.Refl.refl t, rfl⟩

lemma keeps_modify {change : ρ → ρ} (h : ∀ t, rel t (change t)) :
    Keeps rule rel (modify change) fun _ => True :=
  fun t _ => ensures_modify.mpr ⟨trivial, h t, rfl⟩

lemma Keeps.mono {P : α → Prop} {x : StateT ρ Run α} (hx : Keeps rule rel x P)
    (h : ∀ a, P a → Q a) : Keeps rule rel x Q :=
  fun t s => (hx t s).mono fun a _ _ ⟨ha, hrest⟩ => ⟨h a ha, hrest⟩

lemma Keeps.bind [IsTrans ρ rel] {x : StateT ρ Run α} {f : α → StateT ρ Run β}
    (hx : Keeps rule rel x Q) (hf : ∀ a, Q a → Keeps rule rel (f a) Q') :
    Keeps rule rel (x >>= f) Q' := by
  intro t s
  rw [ensures_bind]
  refine (hx t s).mono ?_
  rintro a t' s' ⟨ha, hrel, hs⟩
  subst hs
  refine (hf a ha t' s').mono ?_
  rintro b t'' s'' ⟨hb, hrel', hs'⟩
  exact ⟨hb, IsTrans.trans _ _ _ hrel hrel', hs'⟩

lemma keeps_forM [Std.Refl rel] [IsTrans ρ rel] {γ : Type} {items : List γ}
    {f : γ → StateT ρ Run PUnit} (h : ∀ item, Keeps rule rel (f item) fun _ => True) :
    Keeps rule rel (items.forM f) fun _ => True := by
  induction items with
  | nil => exact keeps_pure trivial
  | cons item rest ih => exact (h item).bind fun _ _ => ih

end Keeps

/-- A program leaves its surroundings alone, and what is counted of its own state goes up by
an amount; its result has some property. -/
def Raises {A : Type} [Add A] (rule : Run.Rule σ) (tally : ρ → A) (s : σ) (x : StateT ρ Run α)
    (amount : A) (Q : α → Prop) : Prop :=
  ∀ t, Ensures rule x t s fun a t' s' => Q a ∧ tally t' = tally t + amount ∧ s' = s

section Raises

variable {A : Type} [AddMonoid A] {tally : ρ → A} {amount amount' : A} {s : σ} {Q : α → Prop}
  {Q' : β → Prop}

lemma raises_pure {a : α} (h : Q a) : Raises rule tally s (pure a) 0 Q :=
  fun _ => ensures_pure.mpr ⟨h, (add_zero _).symm, rfl⟩

lemma raises_modify {change : ρ → ρ} (h : ∀ t, tally (change t) = tally t + amount) :
    Raises rule tally s (modify change) amount fun _ => True :=
  fun t => ensures_modify.mpr ⟨trivial, h t, rfl⟩

lemma Raises.mono {Q' : α → Prop} {x : StateT ρ Run α} (hx : Raises rule tally s x amount Q)
    (h : ∀ a, Q a → Q' a) : Raises rule tally s x amount Q' :=
  fun t => (hx t).mono fun a _ _ ⟨ha, hrest⟩ => ⟨h a ha, hrest⟩

lemma Raises.bind {x : StateT ρ Run α} {f : α → StateT ρ Run β}
    (hx : Raises rule tally s x amount Q) (hf : ∀ a, Q a → Raises rule tally s (f a) amount' Q') :
    Raises rule tally s (x >>= f) (amount + amount') Q' := by
  intro t
  rw [ensures_bind]
  refine (hx t).mono ?_
  rintro a t' s' ⟨ha, htally, hs⟩
  subst hs
  refine (hf a ha t').mono ?_
  rintro b t'' s'' ⟨hb, htally', hs'⟩
  exact ⟨hb, by rw [htally', htally, add_assoc], hs'⟩

/-- What comes first adds nothing. -/
lemma Raises.andThen {x : StateT ρ Run α} {f : α → StateT ρ Run β}
    (hx : Raises rule tally s x 0 Q) (hf : ∀ a, Q a → Raises rule tally s (f a) amount Q') :
    Raises rule tally s (x >>= f) amount Q' :=
  zero_add amount ▸ hx.bind hf

lemma raises_forM {γ : Type} {items : List γ} {f : γ → StateT ρ Run PUnit}
    (h : ∀ item, Raises rule tally s (f item) 0 fun _ => True) :
    Raises rule tally s (items.forM f) 0 fun _ => True := by
  induction items with
  | nil => exact raises_pure trivial
  | cons item rest ih => exact (h item).andThen fun _ _ => ih

end Raises

/-- A program is run, and something is made of its result. -/
lemma ensures_run {x : StateT ρ Run α} {t : ρ} {f : α × ρ → Run β} {s : σ}
    {after : β → σ → Prop} :
    (x.run t >>= f).Ensures rule after s ↔
      Ensures rule x t s fun a t' s' => (f (a, t')).Ensures rule after s' :=
  Run.ensures_bind

/-- Each call of a program has a property, in whatever state of its own it starts. -/
def EveryCall (P : Call → Prop) (x : StateT ρ Run α) : Prop :=
  ∀ t, (x.run t).Every P

variable {P : Call → Prop}

@[simp]
lemma everyCall_pure (a : α) : EveryCall P (pure a : StateT ρ Run α) := fun _ => trivial

@[simp]
lemma everyCall_modify (change : ρ → ρ) : EveryCall P (modify change : StateT ρ Run PUnit) :=
  fun _ => trivial

@[simp]
lemma everyCall_get : EveryCall P (get : StateT ρ Run ρ) := fun _ => trivial

lemma everyCall_call {c : Call} (hc : P c) :
    EveryCall P (liftM (Run.call c) : StateT ρ Run c.Reply) :=
  fun _ => ⟨hc, fun _ => trivial⟩

lemma EveryCall.bind {x : StateT ρ Run α} {f : α → StateT ρ Run β} (hx : EveryCall P x)
    (hf : ∀ a, EveryCall P (f a)) : EveryCall P (x >>= f) := fun t => by
  rw [StateT.run_bind]
  exact (hx t).bind fun p => hf p.1 p.2

/-- The same where the first part may fail. -/
lemma EveryCall.bindResult {ε : Type} {x : StateT ρ Run (Except ε α)}
    {f : Except ε α → StateT ρ Run β} (hx : EveryCall P x)
    (herror : ∀ e, EveryCall P (f (.error e))) (hok : ∀ a, EveryCall P (f (.ok a))) :
    EveryCall P (x >>= f) :=
  hx.bind fun result => match result with
    | .error e => herror e
    | .ok a => hok a

/-- A program asks what its parts ask, one for each of some things. -/
lemma everyCall_forM {γ : Type} {items : List γ} {f : γ → StateT ρ Run PUnit}
    (hf : ∀ item, EveryCall P (f item)) : EveryCall P (items.forM f) := by
  induction items with
  | nil => exact everyCall_pure _
  | cons item rest ih => exact (hf item).bind fun _ => ih

lemma EveryCall.run {x : StateT ρ Run α} (hx : EveryCall P x) (t : ρ) : (x.run t).Every P :=
  hx t

/-- What each call of a program leaves to hold of its surroundings holds in the end. -/
lemma EveryCall.ensures {I : σ → Prop} {x : StateT ρ Run α} (hx : EveryCall P x)
    (hstep : ∀ c s reply s', P c → I s → rule s c reply s' → I s') (t : ρ) {s : σ} (hs : I s) :
    Ensures rule x t s fun _ _ => I :=
  (hx t).ensures hstep hs

end Program

-- Otherwise a program is carried out wherever one of these is compared with another.
attribute [irreducible] Ensures EveryCall Run.Follows

end Scaffold

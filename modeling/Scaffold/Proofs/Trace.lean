import Mathlib.Tactic
import Scaffold.Proofs.Perform

/-!
What a run does, call by call.

* `Run.trace`: the calls of a run that a host carries out, with their replies;
* `Run.Ensures.trace`: what a run ensures of the calls that it notes holds of its trace;
* `Arrival`: the visit of a file in the course of a run. `Plan.arrivals` lists them, with
  the states in which they are made;
* `mem_arrivals_goesOn`: after each of them the run goes on with what follows in the plan;
* `OnlyFiles.filter_events`: calls that only visits of files make are made in these;
* `Visitor.Advances.arrivals`: each visit is made in a state that allows its place.
-/

namespace Scaffold

open Variable

variable {α β σ τ : Type}

/-- A call and the reply to it. -/
structure Event where
  call : Call
  reply : call.Reply

namespace Run

/-- The calls of a run that a host carries out, with their replies. -/
def trace (host : Host (StateM σ)) : Run α → σ → List Event
  | done _, _ => []
  | ask c next, st => ⟨c, (host c st).1⟩ :: (next (host c st).1).trace host (host c st).2

variable {host : Host (StateM σ)} {st : σ}

lemma trace_bind {r : Run α} {f : α → Run β} :
    (r >>= f).trace host st =
      r.trace host st ++ (f (r.on host st).1).trace host (r.on host st).2 := by
  induction r generalizing st with
  | done a => rfl
  | ask c next ih => exact congrArg (_ :: ·) (ih _)

/-- A property of all calls of a run is one of those that are carried out. -/
lemma Every.trace {P : Call → Prop} {r : Run α} (hr : r.Every P) :
    ∀ e ∈ r.trace host st, P e.call := by
  induction r generalizing st with
  | done a => simp [Run.trace]
  | ask c next ih =>
      intro e he
      rcases List.mem_cons.mp he with rfl | he
      · exact hr.1
      · exact ih _ (hr.2 _) e he

/-- What none of the calls of a run changes is left as it is. -/
theorem on_eq_of_trace (part : σ → τ) {r : Run α}
    (h : ∀ e ∈ r.trace host st, ∀ st, part (host e.call st).2 = part st) :
    part (r.on host st).2 = part st := by
  induction r generalizing st with
  | done a => rfl
  | ask c next ih =>
      rw [Run.trace, List.forall_mem_cons] at h
      exact (ih _ h.2).trans (h.1 st)

/-- Any reply may come, and it is noted with its call. -/
def noting : Rule (List Event) := fun events c reply events' => events' = events ++ [⟨c, reply⟩]

/-- **What is ensured of the calls that are noted** holds of those that are carried out. -/
theorem Ensures.trace {r : Run α} {after : α → List Event → Prop} {events : List Event}
    (h : r.Ensures noting after events) :
    after (r.on host st).1 (events ++ r.trace host st) := by
  induction r generalizing st events with
  | done a =>
      rw [Run.trace, List.append_nil]
      exact h
  | ask c next ih =>
      rw [Run.trace, List.append_cons]
      exact ih _ (h (host c st).1 _ rfl)

/-- A run notes calls that have the property of all its calls. -/
lemma Every.ensures_noting {P : Call → Prop} {r : Run α} (hr : r.Every P) (events : List Event) :
    r.Ensures noting (fun _ events' => ∃ more, events' = events ++ more ∧ ∀ e ∈ more, P e.call)
      events := by
  induction r generalizing events with
  | done a => exact ⟨[], by simp⟩
  | ask c next ih =>
      rintro reply _ rfl
      refine (ih reply (hr.2 reply) _).mono (fun _ _ _ _ h => h) ?_
      rintro _ _ ⟨more, rfl, hmore⟩
      exact ⟨⟨c, reply⟩ :: more, by simp, List.forall_mem_cons.mpr ⟨hr.1, hmore⟩⟩

end Run

/-! ### Programs -/

section Programs

variable {ρ : Type} {host : Host (StateM σ)}

/-- A program is carried out by a host, from a state of its own and one of the host. -/
def carryOut (host : Host (StateM σ)) (x : StateT ρ Run α) (s : ρ × σ) : α × ρ × σ :=
  let p := (x.run s.1).on host s.2
  (p.1.1, p.1.2, p.2)

/-- The calls of a program that a host carries out. -/
def events (host : Host (StateM σ)) (x : StateT ρ Run α) (s : ρ × σ) : List Event :=
  (x.run s.1).trace host s.2

lemma events_bind (x : StateT ρ Run α) (f : α → StateT ρ Run β) (s : ρ × σ) :
    events host (x >>= f) s =
      events host x s ++ events host (f (carryOut host x s).1) (carryOut host x s).2 := by
  simp [events, carryOut, Run.trace_bind]

@[simp]
lemma events_pure (a : α) (s : ρ × σ) : events host (pure a : StateT ρ Run α) s = [] := rfl

/-- What none of the calls of a program changes is left as it is. -/
lemma carryOut_eq_of_events (part : σ → τ) {x : StateT ρ Run α} {s : ρ × σ}
    (h : ∀ e ∈ events host x s, ∀ st, part (host e.call st).2 = part st) :
    part (carryOut host x s).2.2 = part s.2 :=
  Run.on_eq_of_trace part h

/-- What a program ensures within a rule holds when a host carries it out. -/
lemma Host.Within.carryOut {view : σ → τ} {rule : Run.Rule τ} (hhost : host.Within view rule)
    {x : StateT ρ Run α} {s : ρ × σ} {after : α → ρ → τ → Prop}
    (h : Ensures rule x s.1 (view s.2) after) :
    after (carryOut host x s).1 (carryOut host x s).2.1 (view (carryOut host x s).2.2) := by
  unfold Ensures at h
  exact hhost.on h

/-- What a program ensures of the calls that it notes holds of those that are carried out. -/
lemma Ensures.events {x : StateT ρ Run α} {s : ρ × σ} {after : α → ρ → List Event → Prop}
    (h : Ensures Run.noting x s.1 [] after) :
    after (carryOut host x s).1 (carryOut host x s).2.1 (events host x s) := by
  unfold Ensures at h
  exact h.trace

lemma EveryCall.ensures_noting {P : Call → Prop} {x : StateT ρ Run α} (hx : EveryCall P x)
    (t : ρ) (events : List Event) :
    Ensures Run.noting x t events fun _ _ events' =>
      ∃ more, events' = events ++ more ∧ ∀ e ∈ more, P e.call := by
  unfold Ensures
  exact (hx.run t).ensures_noting events

lemma EveryCall.events {P : Call → Prop} {x : StateT ρ Run α} (hx : EveryCall P x) (s : ρ × σ) :
    ∀ e ∈ events host x s, P e.call :=
  (hx.run s.1).trace

end Programs

/-! ### Visits of files -/

/-- The visit of a file in the course of a run: its name, the file and the variables of its
scope, the folder, what follows in the plan, and the states in which the visit is made. -/
structure Arrival (ρ σ : Type) where
  name : AcceptedName
  file : FileNode
  env : Environment
  folder : Cursor
  next : Plan
  start : ρ × σ

section Arrivals

variable {ρ Item Opened : Type} (v : Visitor (StateT ρ Run) Item Opened) (host : Host (StateM σ))

namespace Arrival

/-- The place of the file. -/
def place (a : Arrival ρ σ) : Cursor := a.folder.descend a.name

/-- The visit. -/
def visit (a : Arrival ρ σ) : StateT ρ Run (Option Item) := v.file a.name a.file a.place a.env

/-- The states after the visit. -/
def finish (a : Arrival ρ σ) : ρ × σ := (carryOut host (a.visit v) a.start).2

/-- The calls of the visit. -/
def events (a : Arrival ρ σ) : List Event := Scaffold.events host (a.visit v) a.start

end Arrival

namespace Plan

/-- The visits of files when a plan is performed at a place, from a state of the visitor and
one of the host. -/
def arrivals : Plan → Cursor → ρ × σ → List (Arrival ρ σ)
  | done, _, _ => []
  | report notice next, place, s =>
      next.arrivals place (carryOut host (v.report (notice.entry v.isDry)) s).2
  | refused kind next, place, s =>
      next.arrivals place (carryOut host (v.invalidName kind place) s).2
  | file name f env next, place, s =>
      let here : Arrival ρ σ := ⟨name, f, env, place, next, s⟩
      here :: next.arrivals place (here.finish v host)
  | folder name inside next, place, s =>
      let entered := carryOut host (v.enterFolder name (place.descend name)) s
      (match entered.1 with
        | none => []
        | some (_, isPlanned) =>
          inside.arrivals
            { place.descend name with isPlanned := place.isPlanned || isPlanned } entered.2) ++
        next.arrivals place (carryOut host (openFolder v name place (inside.perform v)) s).2
  | group label inside next, place, s =>
      let walked := carryOut host (inside.perform v place) s
      inside.arrivals place s ++
        next.arrivals place (carryOut host (v.group label place walked.1) walked.2).2

variable {v host}

/-- One visit and then the rest of a plan. -/
lemma events_andThen (x : StateT ρ Run (Option Item)) (rest : StateT ρ Run (List Item))
    (s : ρ × σ) :
    events host (do let item ← x; let items ← rest; pure (item.toList ++ items)) s =
      events host x s ++ events host rest (carryOut host x s).2 := by
  rw [events_bind, events_bind, events_pure, List.append_nil]

section OpenFolder

variable {name : String} {place : Cursor} {walkChildren : Cursor → StateT ρ Run (List Item)}
  {s : ρ × σ}

lemma events_openFolder_of_none
    (h : (carryOut host (v.enterFolder name (place.descend name)) s).1 = none) :
    events host (openFolder v name place walkChildren) s =
      events host (v.enterFolder name (place.descend name)) s := by
  rw [openFolder, events_bind, h]
  exact List.append_nil _

lemma events_openFolder_of_some {opened : Opened} {isPlanned : Bool}
    (h : (carryOut host (v.enterFolder name (place.descend name)) s).1 = some (opened, isPlanned)) :
    let entered := (carryOut host (v.enterFolder name (place.descend name)) s).2
    let inner := { place.descend name with isPlanned := place.isPlanned || isPlanned }
    let walked := carryOut host (walkChildren inner) entered
    events host (openFolder v name place walkChildren) s =
      events host (v.enterFolder name (place.descend name)) s ++
        (events host (walkChildren inner) entered ++
          events host (v.leaveFolder opened walked.1) walked.2) := by
  intro entered inner walked
  rw [openFolder, events_bind, h]
  exact congrArg (_ ++ ·) (events_bind _ _ _)

end OpenFolder

/-- **After each visit** of a file the run goes on with what follows in the plan. -/
theorem mem_arrivals_goesOn {p : Plan} {place : Cursor} {s : ρ × σ} {a : Arrival ρ σ}
    (ha : a ∈ p.arrivals v host place s) :
    a.events v host ++ events host (a.next.perform v a.folder) (a.finish v host) <:+:
      events host (p.perform v place) s := by
  induction p generalizing place s with
  | done => simp [arrivals] at ha
  | report notice next ih =>
      rw [perform, events_bind]
      exact (ih ha).trans (List.suffix_append _ _).isInfix
  | refused kind next ih =>
      rw [perform, events_andThen]
      exact (ih ha).trans (List.suffix_append _ _).isInfix
  | file name f env next ih =>
      rw [perform, events_andThen]
      rcases List.mem_cons.mp ha with rfl | ha
      · exact List.infix_rfl
      · exact (ih ha).trans (List.suffix_append _ _).isInfix
  | folder name inside next ihInside ih =>
      rw [perform, events_andThen]
      rcases List.mem_append.mp ha with ha | ha
      · refine List.IsInfix.trans ?_ (List.prefix_append _ _).isInfix
        rcases h : (carryOut host (v.enterFolder name (place.descend name)) s).1 with
          _ | ⟨opened, isPlanned⟩
        · simp [h] at ha
        · rw [h] at ha
          rw [events_openFolder_of_some h]
          refine (ihInside ha).trans ?_
          exact (List.prefix_append _ _).isInfix.trans (List.suffix_append _ _).isInfix
      · exact (ih ha).trans (List.suffix_append _ _).isInfix
  | group label inside next ihInside ih =>
      rw [perform, events_bind]
      rcases List.mem_append.mp ha with ha | ha
      · exact (ihInside ha).trans (List.prefix_append _ _).isInfix
      · rw [events_andThen]
        refine (ih ha).trans ?_
        exact (List.suffix_append _ _).isInfix.trans (List.suffix_append _ _).isInfix

end Plan

/-- Only visits of files make some calls. -/
structure Visitor.OnlyFiles (P : Call → Bool) : Prop where
  report : ∀ entry, EveryCall (P · = false) (v.report entry)
  enterFolder : ∀ name place, EveryCall (P · = false) (v.enterFolder name place)
  leaveFolder : ∀ opened items, EveryCall (P · = false) (v.leaveFolder opened items)
  group : ∀ label place items, EveryCall (P · = false) (v.group label place items)
  invalidName : ∀ kind place, EveryCall (P · = false) (v.invalidName kind place)

variable {v host}

lemma EveryCall.filter_events {P : Call → Bool} {x : StateT ρ Run α}
    (hx : EveryCall (P · = false) x) (s : ρ × σ) :
    (Scaffold.events host x s).filter (P ·.call) = [] := by
  simpa [List.filter_eq_nil_iff] using hx.events s

/-- **Calls that only visits of files make** are made in these, one visit after the other. -/
theorem Visitor.OnlyFiles.filter_events {P : Call → Bool} (hv : v.OnlyFiles P) (p : Plan)
    (place : Cursor) (s : ρ × σ) :
    (events host (p.perform v place) s).filter (P ·.call) =
      (p.arrivals v host place s).flatMap fun a => (a.events v host).filter (P ·.call) := by
  induction p generalizing place s with
  | done => rfl
  | report notice next ih =>
      rw [Plan.perform, events_bind, List.filter_append, (hv.report _).filter_events, ih]
      rfl
  | refused kind next ih =>
      rw [Plan.perform, Plan.events_andThen, List.filter_append,
        (hv.invalidName _ _).filter_events, ih]
      rfl
  | file name f env next ih =>
      rw [Plan.perform, Plan.events_andThen, List.filter_append, ih]
      rfl
  | folder name inside next ihInside ih =>
      rw [Plan.perform, Plan.events_andThen, List.filter_append, ih, Plan.arrivals,
        List.flatMap_append]
      congr 1
      rcases h : (carryOut host (v.enterFolder name (place.descend name)) s).1 with
        _ | ⟨opened, isPlanned⟩
      · rw [Plan.events_openFolder_of_none h]
        exact (hv.enterFolder _ _).filter_events s
      · rw [Plan.events_openFolder_of_some h, List.filter_append, List.filter_append,
          (hv.enterFolder _ _).filter_events, (hv.leaveFolder _ _).filter_events, ihInside,
          List.append_nil]
        rfl
  | group label inside next ihInside ih =>
      rw [Plan.perform, events_bind, List.filter_append, ihInside, Plan.events_andThen,
        List.filter_append, (hv.group _ _ _).filter_events, ih, Plan.arrivals,
        List.flatMap_append]
      rfl

/-- **Each visit of a file** is made in a state that allows its folder. -/
theorem Visitor.Advances.arrivals {view : σ → τ} {rule : Run.Rule τ}
    {R : ρ × τ → ρ × τ → Prop} {At : Cursor → ρ × τ → Prop} (hv : v.Advances rule R At)
    (hhost : host.Within view rule) {p : Plan} {place : Cursor} {s : ρ × σ}
    (hplace : At place (s.1, view s.2)) {a : Arrival ρ σ} (ha : a ∈ p.arrivals v host place s) :
    At a.folder (a.start.1, view a.start.2) := by
  induction p generalizing place s with
  | done => simp [Plan.arrivals] at ha
  | report notice next ih =>
      refine ih (hv.stays hplace ?_) ha
      exact hhost.carryOut (hv.report notice s.1 (view s.2))
  | refused kind next ih =>
      refine ih (hv.stays hplace ?_) ha
      exact hhost.carryOut (hv.invalidName kind place s.1 (view s.2))
  | file name f env next ih =>
      rcases List.mem_cons.mp ha with rfl | ha
      · exact hplace
      · refine ih (hv.stays hplace ?_) ha
        exact hhost.carryOut (hv.file name f place env s.1 (view s.2) hplace)
  | folder name inside next ihInside ih =>
      rcases List.mem_append.mp ha with ha | ha
      · have hentered := hhost.carryOut (hv.enterFolder name place s.1 (view s.2) hplace)
        rcases h : (carryOut host (v.enterFolder name (place.descend name)) s).1 with
          _ | ⟨opened, isPlanned⟩
        · simp [h] at ha
        · rw [h] at ha
          exact ihInside (hentered.2 _ _ h) ha
      · refine ih (hv.stays hplace ?_) ha
        refine hhost.carryOut (hv.openFolder name hplace ?_)
        exact fun inner t' s' hinner => hv.perform inside hinner
  | group label inside next ihInside ih =>
      rcases List.mem_append.mp ha with ha | ha
      · exact ihInside hplace ha
      · have hwalked := hv.stays hplace (hhost.carryOut (hv.perform inside hplace))
        refine ih (hv.stays hwalked ?_) ha
        exact hhost.carryOut (hv.group label place _ _ _)

end Arrivals

end Scaffold

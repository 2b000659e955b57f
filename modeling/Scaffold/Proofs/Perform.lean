import Mathlib.Tactic
import Scaffold.Creation
import Scaffold.Proofs.Plan
import Scaffold.Proofs.Run

/-!
What holds of a plan that is performed, from what holds of each visit.

* `Visitor.CallsAt`: at places of some kind, all calls of a visitor have a property.
  Then so have all calls of a plan that is performed there (`CallsAt.perform`);
* `Visitor.Advances`: each visit leads on in some preorder of states, from places that
  the states allow. Then so does a plan (`Advances.perform`).

Both are inductions on plans. What they ask of a visitor is one fact for each of its
operations.

* `Creation.CommandsKeep` asks the same of the commands that run after a walk; then all of them
  together leave the surroundings alone (`CommandsKeep.run`).
-/

namespace Scaffold

open Variable

variable {ρ σ Item Opened : Type}

/-! ### Calls -/

/-- At places of some kind, all calls of a visitor have a property. The places are
closed under going to an accepted name, and folders lie at such places. -/
structure Visitor.CallsAt (v : Visitor (StateT ρ Run) Item Opened) (P : Call → Prop)
    (Outer Inner : Cursor → Prop) : Prop where
  descend : ∀ place (name : AcceptedName), Outer place → Inner (place.descend name)
  inside : ∀ place isPlanned, Inner place → Outer { place with isPlanned }
  report : ∀ entry, EveryCall P (v.report entry)
  enterFolder : ∀ name place, Inner place → EveryCall P (v.enterFolder name place)
  leaveFolder : ∀ opened items, EveryCall P (v.leaveFolder opened items)
  file : ∀ name f place env, Inner place → EveryCall P (v.file name f place env)
  group : ∀ label place items, EveryCall P (v.group label place items)
  invalidName : ∀ kind place, EveryCall P (v.invalidName kind place)

namespace Visitor.CallsAt

variable {v : Visitor (StateT ρ Run) Item Opened} {P : Call → Prop} {Outer Inner : Cursor → Prop}

lemma openFolder (hv : v.CallsAt P Outer Inner) (name : AcceptedName) {place : Cursor}
    (hplace : Outer place) {walkChildren : Cursor → StateT ρ Run (List Item)}
    (hinside : ∀ inner, Outer inner → EveryCall P (walkChildren inner)) :
    EveryCall P (Plan.openFolder v name place walkChildren) := by
  have hhere := hv.descend place name hplace
  refine (hv.enterFolder _ _ hhere).bind fun opened => ?_
  cases opened with
  | none => exact everyCall_pure _
  | some opened =>
      refine (hinside _ (hv.inside _ _ hhere)).bind fun items => ?_
      exact hv.leaveFolder _ _

/-- **All calls of a plan** have the property that all calls of its visitor have. -/
theorem perform (hv : v.CallsAt P Outer Inner) (p : Plan) {place : Cursor}
    (hplace : Outer place) : EveryCall P (p.perform v place) := by
  induction p generalizing place with
  | done => exact everyCall_pure _
  | report notice next ih => exact (hv.report _).bind fun _ => ih hplace
  | refused kind next ih =>
      refine (hv.invalidName kind place).bind fun item => ?_
      exact (ih hplace).bind fun items => everyCall_pure _
  | file name f env next ih =>
      refine (hv.file _ f _ env (hv.descend place name hplace)).bind fun item => ?_
      exact (ih hplace).bind fun items => everyCall_pure _
  | folder name inside next ihInside ih =>
      refine (hv.openFolder name hplace fun inner hinner => ihInside hinner).bind fun item => ?_
      exact (ih hplace).bind fun items => everyCall_pure _
  | group label inside next ihInside ih =>
      refine (ihInside hplace).bind fun children => ?_
      refine (hv.group label place children).bind fun item => ?_
      exact (ih hplace).bind fun items => everyCall_pure _

end Visitor.CallsAt

/-! ### States -/

/-- Each visit leads on in a preorder of states. Where a walk is must be allowed in the
state (`At`), and stays so. -/
structure Visitor.Advances (v : Visitor (StateT ρ Run) Item Opened) (rule : Run.Rule σ)
    (R : ρ × σ → ρ × σ → Prop) (At : Cursor → ρ × σ → Prop) : Prop where
  refl : ∀ x, R x x
  trans : ∀ {x y z}, R x y → R y z → R x z
  stays : ∀ {place x y}, At place x → R x y → At place y
  report : ∀ (notice : Notice) t s,
    Ensures rule (v.report (notice.entry v.isDry)) t s fun _ t' s' => R (t, s) (t', s')
  /-- A folder that is opened is a place from which the walk goes on. -/
  enterFolder : ∀ (name : AcceptedName) place t s, At place (t, s) →
    Ensures rule (v.enterFolder name (place.descend name)) t s fun opened t' s' =>
      R (t, s) (t', s') ∧ ∀ o isPlanned, opened = some (o, isPlanned) →
        At { place.descend name with isPlanned := place.isPlanned || isPlanned } (t', s')
  leaveFolder : ∀ opened items t s,
    Ensures rule (v.leaveFolder opened items) t s fun _ t' s' => R (t, s) (t', s')
  file : ∀ (name : AcceptedName) f place env t s, At place (t, s) →
    Ensures rule (v.file name f (place.descend name) env) t s fun _ t' s' => R (t, s) (t', s')
  group : ∀ label place items t s,
    Ensures rule (v.group label place items) t s fun _ t' s' => R (t, s) (t', s')
  invalidName : ∀ kind place t s,
    Ensures rule (v.invalidName kind place) t s fun _ t' s' => R (t, s) (t', s')

namespace Visitor.Advances

variable {v : Visitor (StateT ρ Run) Item Opened} {rule : Run.Rule σ}
  {R : ρ × σ → ρ × σ → Prop} {At : Cursor → ρ × σ → Prop}

/-- One visit and then the rest of a plan. -/
lemma andThen (hv : v.Advances rule R At) {place : Cursor} {t : ρ} {s : σ}
    (hplace : At place (t, s)) {x : StateT ρ Run (Option Item)} {rest : StateT ρ Run (List Item)}
    (hx : Ensures rule x t s fun _ t' s' => R (t, s) (t', s'))
    (hrest : ∀ t' s', At place (t', s') →
      Ensures rule rest t' s' fun _ t'' s'' => R (t', s') (t'', s'')) :
    Ensures rule (do let item ← x; let items ← rest; pure (item.toList ++ items)) t s
      fun _ t' s' => R (t, s) (t', s') := by
  refine ensures_items.mpr (hx.mono fun item t' s' hstep => ?_)
  exact (hrest t' s' (hv.stays hplace hstep)).mono fun items t'' s'' hmore =>
    hv.trans hstep hmore

lemma openFolder (hv : v.Advances rule R At) (name : AcceptedName) {place : Cursor} {t : ρ}
    {s : σ} (hplace : At place (t, s)) {walkChildren : Cursor → StateT ρ Run (List Item)}
    (hinside : ∀ inner t' s', At inner (t', s') →
      Ensures rule (walkChildren inner) t' s' fun _ t'' s'' => R (t', s') (t'', s'')) :
    Ensures rule (Plan.openFolder v name place walkChildren) t s
      fun _ t' s' => R (t, s) (t', s') := by
  rw [Plan.openFolder, ensures_bind]
  refine (hv.enterFolder name place t s hplace).mono ?_
  rintro opened t' s' ⟨hstep, hopened⟩
  cases opened with
  | none => exact ensures_pure.mpr hstep
  | some opened =>
      rw [ensures_bind]
      refine (hinside _ t' s' (hopened _ _ rfl)).mono fun items t'' s'' hwalk => ?_
      refine (hv.leaveFolder _ items t'' s'').mono fun item t₃ s₃ hleave => ?_
      exact hv.trans hstep (hv.trans hwalk hleave)

/-- **A plan leads on** as each of its visits does. -/
theorem perform (hv : v.Advances rule R At) (p : Plan) {place : Cursor} {t : ρ} {s : σ}
    (hplace : At place (t, s)) :
    Ensures rule (p.perform v place) t s fun _ t' s' => R (t, s) (t', s') := by
  induction p generalizing place t s with
  | done => exact ensures_pure.mpr (hv.refl _)
  | report notice next ih =>
      rw [Plan.perform, ensures_bind]
      refine (hv.report _ t s).mono fun _ t' s' hstep => ?_
      exact (ih (hv.stays hplace hstep)).mono fun _ _ _ hmore => hv.trans hstep hmore
  | refused kind next ih =>
      exact hv.andThen hplace (hv.invalidName kind place t s) fun t' s' hat => ih hat
  | file name f env next ih =>
      exact hv.andThen hplace (hv.file name f place env t s hplace) fun t' s' hat => ih hat
  | folder name inside next ihInside ih =>
      refine hv.andThen hplace (hv.openFolder name hplace ?_) fun t' s' hat => ih hat
      exact fun inner t' s' hinner => ihInside hinner
  | group label inside next ihInside ih =>
      rw [Plan.perform, ensures_bind]
      refine (ihInside hplace).mono fun children t' s' hstep => ?_
      refine (hv.andThen (hv.stays hplace hstep) (hv.group label place children t' s')
        fun t'' s'' hat => ih hat).mono fun _ _ _ hmore => hv.trans hstep hmore

end Visitor.Advances

/-! ### Commands -/

namespace Creation

/-- What commands do leaves the surroundings alone, and changes the summary only in ways that do
not count. -/
structure CommandsKeep (rule : Run.Rule σ) (rel : Creation → Creation → Prop) : Prop where
  entry : ∀ path, Keeps rule rel (ask (.entry path)) fun _ => True
  command : ∀ text folder, Keeps rule rel (ask (.command text folder)) fun _ => True
  report : ∀ command result, Keeps rule rel (reportCommand command result) fun _ => True
  would : ∀ (command : String) details,
    Keeps rule rel (log .info s!"Would run hook: {command}" details) fun _ => True
  skipped : ∀ details, Keeps rule rel (log .warning "Hooks skipped" details) fun _ => True

namespace CommandsKeep

variable {rule : Run.Rule σ} {rel : Creation → Creation → Prop} [Std.Refl rel]
  [IsTrans Creation rel]

lemma hookFolder (h : CommandsKeep rule rel) (root : Node) (output : String)
    (env : Environment) : Keeps rule rel (hookFolder root output env) fun _ => True := by
  unfold Creation.hookFolder
  split
  · dsimp only
    split
    · exact keeps_pure trivial
    · refine (h.entry _).bind fun found _ => ?_
      split <;> exact keeps_pure trivial
  · exact keeps_pure trivial

lemma runCommands (h : CommandsKeep rule rel) (env : Environment) (folder : String)
    (commands : List String) :
    Keeps rule rel (runCommands env folder commands) fun _ => True := by
  induction commands with
  | nil => exact keeps_pure trivial
  | cons command rest ih =>
      exact (h.command _ folder).bind fun result _ => (h.report _ result).bind fun _ _ => ih

lemma runHooks (h : CommandsKeep rule rel) (s : CreateSettings) (commands : List String)
    (folder : String) (env : Environment) :
    Keeps rule rel (runHooks s commands folder env) fun _ => True := by
  unfold Creation.runHooks
  split
  · exact keeps_pure trivial
  split
  · exact keeps_forM fun command => h.would _ _
  split
  · exact h.skipped _
  · exact h.runCommands env folder commands

/-- **The commands of a run** keep to what each of their operations keeps to. -/
theorem run (h : CommandsKeep rule rel) (s : CreateSettings) (schema : Schema) (output : String)
    (env : Environment) :
    Keeps rule rel (do
      let folder ← Creation.hookFolder schema.root output env
      Creation.runHooks s schema.commands folder env) fun _ => True :=
  (h.hookFolder schema.root output env).bind fun folder _ =>
    h.runHooks s schema.commands folder env

end CommandsKeep

end Creation

end Scaffold

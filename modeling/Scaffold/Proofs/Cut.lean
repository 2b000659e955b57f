import Mathlib.Tactic
import Scaffold.Proofs.Parallel

/-!
A schema cut at the greatest depth.

* `Node.cut` takes away what is more than some levels below a node;
* `Plan.ofRoot_cut`: the plan of a schema cut at the greatest depth is the plan of the whole
  schema without its reports of that depth;
* `Walk.watchNode` is the walk, and counts the nodes at a depth that it comes to;
* `Walk.watchList_eq`: counting the nodes one level below the greatest depth is counting the
  reports of that depth.
-/

namespace Scaffold

open Variable

/-! ### Cutting -/

namespace Node

/-- A node with other children; a file has none. -/
def withChildren (children : List Node) : Node → Node
  | folder raw _ attributes => folder raw children attributes
  | file f => file f
  | branch condition _ => branch condition children
  | otherwise _ => otherwise children
  | loop count item _ => loop count item children

/-- A node with some levels below it, and nothing below those. -/
def cut : Nat → Node → Node
  | 0, node => node.withChildren []
  | levels + 1, node => node.withChildren (node.children.map (cut levels))

end Node

/-- Whether a notice tells of a node below the greatest depth. -/
def Notice.isTooDeep : Notice → Bool
  | tooDeep _ _ => true
  | _ => false

namespace Plan

variable {s : WalkSettings} {depth : Nat}

lemma mute_ofList_of_deep (hdeep : s.limits.maxDepth < depth) (nodes : List Node)
    (relative : String) (scope : Scope) (lastIf : Option Bool) :
    (ofList s nodes relative scope depth lastIf).mute Notice.isTooDeep = done := by
  rw [ofList_of_deep hdeep, mute_concat, List.map_map]
  induction nodes with
  | nil => rfl
  | cons node rest ih => simpa [concat, mute, append, Notice.isTooDeep] using ih

/-- What is wrong with a repetition is not its depth. -/
lemma isTooDeep_of_readLoop {count item : String} {env : Environment} {notice : Notice}
    (h : readLoop s count item env = .error notice) : notice.isTooDeep = false := by
  unfold readLoop at h
  split at h
  · cases h
    rfl
  · split at h <;> cases h <;> rfl

/-- A node whose children are changed in a way that mutes their plan. -/
lemma ofNode_withChildren (hdepth : depth ≤ s.limits.maxDepth) {node : Node}
    {children : List Node} (hinside : ∀ relative scope,
      ofList s children relative scope (depth + 1) none =
        (ofList s node.children relative scope (depth + 1) none).mute Notice.isTooDeep)
    (relative : String) (scope : Scope) (lastIf : Option Bool) :
    ofNode s (node.withChildren children) relative scope depth lastIf =
      (ofNode s node relative scope depth lastIf).mute Notice.isTooDeep := by
  have hshallow : ¬ s.limits.maxDepth < depth := by omega
  cases node with
  | folder raw before attributes =>
      simp only [Node.withChildren, Node.children, ofNode, hshallow, ↓reduceIte] at hinside ⊢
      cases AcceptedName.of (substitute (scope.environment s.today) raw) with
      | error fault => simp [refuse, mute, Notice.isTooDeep]
      | ok name => simp [mute, hinside]
  | file f =>
      simp only [Node.withChildren, ofNode, hshallow, ↓reduceIte]
      cases AcceptedName.of (substitute (scope.environment s.today) f.name) with
      | error fault => simp [refuse, mute, Notice.isTooDeep]
      | ok name => simp [mute]
  | branch condition before =>
      simp only [Node.withChildren, Node.children, ofNode, hshallow, ↓reduceIte] at hinside ⊢
      by_cases hholds : Walk.holds scope condition <;> simp [hholds, mute, hinside]
  | otherwise before =>
      simp only [Node.withChildren, Node.children, ofNode, hshallow, ↓reduceIte] at hinside ⊢
      rcases lastIf with _ | _ | _
      · simp [mute, Notice.isTooDeep]
      · simp [mute, hinside]
      · simp [mute]
  | loop count item before =>
      simp only [Node.withChildren, Node.children, ofNode, hshallow, ↓reduceIte] at hinside ⊢
      cases hloop : readLoop s count item (scope.environment s.today) with
      | error notice => simp [mute, isTooDeep_of_readLoop hloop]
      | ok loop => simp [mute, mute_concat, hinside, Notice.isTooDeep, Function.comp_def]

lemma nextIf_withChildren (node : Node) (children : List Node) (scope : Scope) :
    nextIf s (node.withChildren children) scope depth = nextIf s node scope depth := by
  cases node <;> rfl

/-- Changing the children of each node in a way that mutes their plans. -/
lemma ofList_map_withChildren (hdepth : depth ≤ s.limits.maxDepth)
    {change : Node → List Node} (hinside : ∀ node relative scope,
      ofList s (change node) relative scope (depth + 1) none =
        (ofList s node.children relative scope (depth + 1) none).mute Notice.isTooDeep)
    (nodes : List Node) (relative : String) (scope : Scope) (lastIf : Option Bool) :
    ofList s (nodes.map fun node => node.withChildren (change node)) relative scope depth lastIf =
      (ofList s nodes relative scope depth lastIf).mute Notice.isTooDeep := by
  induction nodes generalizing lastIf with
  | nil => rfl
  | cons node rest ih =>
      rw [List.map_cons, ofList, ofList, mute_append,
        ofNode_withChildren hdepth (hinside node), nextIf_withChildren, ih]

/-- Cutting siblings at the greatest depth mutes their plan. -/
lemma ofList_cut (levels : Nat) (hlevels : depth + levels = s.limits.maxDepth)
    (nodes : List Node) (relative : String) (scope : Scope) (lastIf : Option Bool) :
    ofList s (nodes.map (Node.cut levels)) relative scope depth lastIf =
      (ofList s nodes relative scope depth lastIf).mute Notice.isTooDeep := by
  induction levels generalizing depth nodes relative scope lastIf with
  | zero =>
      refine ofList_map_withChildren (by omega) (fun node relative scope => ?_) nodes relative
        scope lastIf
      rw [mute_ofList_of_deep (by omega)]
      rfl
  | succ levels ih =>
      refine ofList_map_withChildren (by omega) (fun node relative scope => ?_) nodes relative
        scope lastIf
      exact ih (by omega) node.children relative scope none

/-- **A schema cut at the greatest depth** has the plan of the whole schema, without the
reports of that depth. -/
theorem ofRoot_cut (s : WalkSettings) (root : Node) (scope : Scope) :
    ofRoot s (root.cut s.limits.maxDepth) scope =
      (ofRoot s root scope).mute Notice.isTooDeep :=
  ofList_cut s.limits.maxDepth (Nat.zero_add _) [root] "" scope none

end Plan

/-! ### Counting the nodes at a depth -/

/-- Whether a message tells of a node below the greatest depth. -/
def LogEntry.IsTooDeep (entry : LogEntry) : Prop :=
  entry.message = "Maximum schema depth exceeded"

instance (entry : LogEntry) : Decidable entry.IsTooDeep :=
  inferInstanceAs (Decidable (_ = _))

/-- A message that starts otherwise tells of something else. -/
lemma LogEntry.not_isTooDeep {entry : LogEntry} (h : entry.message.toList.head? ≠ some 'M') :
    ¬ entry.IsTooDeep := by
  intro hdeep
  rw [IsTooDeep] at hdeep
  rw [hdeep] at h
  exact h (by decide)

lemma Notice.entry_isTooDeep (notice : Notice) (isDry : Bool) :
    (notice.entry isDry).IsTooDeep ↔ notice.isTooDeep = true := by
  cases notice with
  | tooDeep limit shown => simp [entry, LogEntry.IsTooDeep, isTooDeep]
  | rounds times name =>
      refine iff_of_false (LogEntry.not_isTooDeep ?_) (by simp [isTooDeep])
      cases isDry <;> simp [entry, toString]
  | _ => exact iff_of_false (LogEntry.not_isTooDeep (by simp [entry, toString])) (by simp [isTooDeep])

namespace Walk

section Watch

variable {m : Type → Type} [Monad m] {Item Opened : Type}

mutual

/-- The visit of a node, in which `tick` is done for each node at some depth that the walk
comes to. -/
def watchNode (s : WalkSettings) (v : Visitor m Item Opened) (level : Nat) (tick : m Unit)
    (node : Node) (place : Cursor) (scope : Scope) (depth : Nat) (lastIf : Option Bool) :
    m (Option Item × Option Bool) := do
  if depth = level then tick
  if s.limits.maxDepth < depth then
    v.report ((Notice.tooDeep s.limits.maxDepth place.shown).entry v.isDry)
    return (none, none)
  else
    match node with
    | .folder raw children _ =>
      let item ← visitFolder v raw place (scope.environment s.today) fun inner =>
        watchList s v level tick children inner scope (depth + 1) none
      return (item, none)
    | .file f => return (← visitFile v f place (scope.environment s.today), none)
    | .branch condition children =>
      if holds scope condition then
        let items ← watchList s v level tick children place scope (depth + 1) none
        return (← v.group s!"[if {condition}]" place items, some true)
      else return (none, some false)
    | .otherwise children =>
      match lastIf with
      | some false =>
        let items ← watchList s v level tick children place scope (depth + 1) none
        return (← v.group "[else]" place items, none)
      | some true => return (none, none)
      | none =>
        v.report (Notice.orphaned.entry v.isDry)
        return (none, none)
    | .loop count item children =>
      let group ← visitLoop s v count item place scope fun inner =>
        watchList s v level tick children place inner (depth + 1) none
      return (group, none)

/-- The visit of siblings, in which `tick` is done for each node at some depth. -/
def watchList (s : WalkSettings) (v : Visitor m Item Opened) (level : Nat) (tick : m Unit)
    (nodes : List Node) (place : Cursor) (scope : Scope) (depth : Nat) (lastIf : Option Bool) :
    m (List Item) := do
  match nodes with
  | [] => return []
  | node :: rest =>
    let (item, next) ← watchNode s v level tick node place scope depth lastIf
    return item.toList ++ (← watchList s v level tick rest place scope depth next)

end

end Watch

end Walk

/-- A visitor that does `tick` before each report of a node below the greatest depth. -/
def Visitor.ticking {m : Type → Type} [Monad m] {Item Opened : Type} (v : Visitor m Item Opened)
    (tick : m Unit) : Visitor m Item Opened :=
  { v with report := fun entry => do
      if entry.IsTooDeep then tick
      v.report entry }

namespace Walk

variable {m : Type → Type} [Monad m] {Item Opened : Type} {s : WalkSettings}
  {v : Visitor m Item Opened} {tick : m Unit}

lemma ticking_report (v : Visitor m Item Opened) (tick : m Unit) (notice : Notice)
    (h : notice.isTooDeep = false) :
    (v.ticking tick).report (notice.entry v.isDry) = v.report (notice.entry v.isDry) := by
  have hentry : ¬ (notice.entry v.isDry).IsTooDeep := by
    simp [Notice.entry_isTooDeep, h]
  simp [Visitor.ticking, hentry]

lemma refuseName_ticking (kind : ItemKind) (raw : String) (fault : Violation) (place : Cursor) :
    refuseName (v.ticking tick) kind raw fault place = refuseName v kind raw fault place := by
  have hreport := ticking_report v tick (.invalidName raw fault) rfl
  rw [refuseName, refuseName]
  exact congrArg (· >>= fun _ => v.invalidName kind place) hreport

lemma visitFile_ticking (f : FileNode) (place : Cursor) (env : Environment) :
    visitFile (v.ticking tick) f place env = visitFile v f place env := by
  rw [Plan.visitFile_eq, Plan.visitFile_eq]
  cases AcceptedName.of (substitute env f.name) with
  | error fault => exact refuseName_ticking _ _ _ _
  | ok name => rfl

lemma visitFolder_ticking (raw : String) (place : Cursor) (env : Environment)
    (walkChildren : Cursor → m (List Item)) :
    visitFolder (v.ticking tick) raw place env walkChildren =
      visitFolder v raw place env walkChildren := by
  rw [Plan.visitFolder_eq, Plan.visitFolder_eq]
  cases AcceptedName.of (substitute env raw) with
  | error fault => exact refuseName_ticking _ _ _ _
  | ok name => rfl

lemma readLoop_ticking (count item : String) (env : Environment) :
    readLoop s (v.ticking tick) count item env = readLoop s v count item env := by
  rw [Plan.readLoop_eq, Plan.readLoop_eq]
  cases hloop : Plan.readLoop s count item env with
  | error notice =>
      exact congrArg (· >>= fun _ => (pure none : m (Option (Nat × String))))
        (ticking_report v tick notice (Plan.isTooDeep_of_readLoop hloop))
  | ok loop => rfl

lemma visitLoop_ticking (count item : String) (place : Cursor) (scope : Scope)
    (walkRound : Scope → m (List Item)) :
    visitLoop s (v.ticking tick) count item place scope walkRound =
      visitLoop s v count item place scope walkRound := by
  rw [visitLoop, visitLoop, readLoop_ticking]
  congr 1
  funext loop
  rcases loop with _ | ⟨times, name⟩
  · rfl
  · have hreport := ticking_report v tick (.rounds times name) rfl
    exact congrArg (· >>= fun _ => (do
      let rounds ← (List.range times).mapM fun round => walkRound (roundScope scope name round)
      v.group s!"[repeat {times} as {name}]" place rounds.flatten : m (Option Item))) hreport

variable [LawfulMonad m]

mutual

/-- Counting nodes one level below the greatest depth is counting its reports. -/
lemma watchNode_eq (node : Node) (place : Cursor) (scope : Scope) {depth : Nat}
    (hdepth : depth ≤ s.limits.maxDepth + 1) (lastIf : Option Bool) :
    watchNode s v (s.limits.maxDepth + 1) tick node place scope depth lastIf =
      walkNode s (v.ticking tick) node place scope depth lastIf := by
  rw [watchNode.eq_def, walkNode.eq_def]
  by_cases hdeep : s.limits.maxDepth < depth
  · have hlevel : depth = s.limits.maxDepth + 1 := by omega
    simp [hlevel, Visitor.ticking, LogEntry.IsTooDeep, Notice.entry]
  have hlevel : depth ≠ s.limits.maxDepth + 1 := by omega
  have hinside : depth + 1 ≤ s.limits.maxDepth + 1 := by omega
  simp only [hlevel, hdeep, ↓reduceIte]
  match node with
  | .folder raw children attributes =>
      have hchildren := fun inner => watchList_eq children inner scope hinside none
      simp only [visitFolder_ticking, hchildren]
  | .file f => simp only [visitFile_ticking]
  | .branch condition children =>
      simp only [watchList_eq children place scope hinside none]
      rfl
  | .otherwise children =>
      simp only [watchList_eq children place scope hinside none]
      match lastIf with
      | some false | some true => rfl
      | none =>
          have hreport := ticking_report v tick .orphaned rfl
          exact congrArg (· >>= fun _ => pure (none, none)) hreport.symm
  | .loop count item children =>
      have hchildren := fun inner => watchList_eq children place inner hinside none
      simp only [visitLoop_ticking, hchildren]

/-- The same for siblings. -/
lemma watchList_eq (nodes : List Node) (place : Cursor) (scope : Scope) {depth : Nat}
    (hdepth : depth ≤ s.limits.maxDepth + 1) (lastIf : Option Bool) :
    watchList s v (s.limits.maxDepth + 1) tick nodes place scope depth lastIf =
      walkList s (v.ticking tick) nodes place scope depth lastIf := by
  match nodes with
  | [] => simp [watchList, walkList]
  | node :: rest =>
      have hrest := fun next => watchList_eq rest place scope hdepth next
      simp [watchList, walkList, watchNode_eq node place scope hdepth lastIf, hrest]

end

end Walk

end Scaffold

import Mathlib.Tactic
import Scaffold.Creation
import Scaffold.Preview
import Scaffold.Proofs.Plan

/-!
Conditions and their alternatives.

A walk hands on from each node to its next sibling whether a condition held. The same can
be said of the schema alone, before anything is walked.

* `Paired` nodes have each alternative beside its condition; `Paired.ofList` pairs the
  nodes of one list, and depends on no scope, place or visitor;
* `Paired.walkAll` visits paired nodes. Nothing is handed on from node to node;
* `Walk.walkList_eq_walkAll`: a walk is the visit of the paired nodes;
* `Walk.walkList_orphan`: an alternative without a condition is reported once and left out;
* `Walk.Agree`: two lists differ at most in what is not taken. Their plans are the same
  (`Agree.ofList_eq`);
* `alternatives_are_paired` is all of this, and that what is not taken makes no difference
  to what is created or previewed.
-/

namespace Scaffold

open Variable

/-- A node of a schema, with each alternative put to the condition directly in front. -/
inductive Paired where
  /-- A node below the greatest depth. -/
  | tooDeep
  | folder (raw : String) (inside : List Paired)
  | file (f : FileNode)
  /-- A condition that no alternative follows. -/
  | branch (condition : String) (body : List Paired)
  /-- A condition with its alternative. -/
  | choice (condition : String) (body alternative : List Paired)
  /-- An alternative without a condition; its children are left out. -/
  | orphan
  | loop (count item : String) (body : List Paired)

namespace Paired

mutual

/-- The pairing of a node by itself, with `room` levels below it. -/
def ofNode (room : Nat) (node : Node) : Paired :=
  match node with
  | .folder raw children _ => .folder raw (ofList room children)
  | .file f => .file f
  | .branch condition children => .branch condition (ofList room children)
  | .otherwise _ => .orphan
  | .loop count item children => .loop count item (ofList room children)

/-- The pairing of siblings, with `room` levels from theirs on. It depends on nothing but
these. -/
def ofList (room : Nat) (nodes : List Node) : List Paired :=
  match room, nodes with
  | 0, nodes => nodes.map fun _ => .tooDeep
  | _ + 1, [] => []
  | room + 1, .branch condition body :: .otherwise alternative :: rest =>
    .choice condition (ofList room body) (ofList room alternative) :: ofList (room + 1) rest
  | room + 1, node :: rest => ofNode room node :: ofList (room + 1) rest

end

/-- A node is paired with nothing unless it is a condition in front of an alternative. -/
lemma ofList_cons {room : Nat} {node : Node} {rest : List Node}
    (h : (∀ condition body, node ≠ .branch condition body) ∨
      ∀ alternative, rest.head? ≠ some (.otherwise alternative)) :
    ofList (room + 1) (node :: rest) = ofNode room node :: ofList (room + 1) rest := by
  rw [ofList]
  rintro condition body alternative more rfl rfl
  exact h.elim (fun hnode => hnode _ _ rfl) fun hrest => hrest _ rfl

/-- Nothing is paired across a cut that no condition stands in front of. -/
lemma ofList_append (room : Nat) (front back : List Node)
    (h : ∀ condition body, front.getLast? ≠ some (.branch condition body)) :
    ofList (room + 1) (front ++ back) = ofList (room + 1) front ++ ofList (room + 1) back := by
  match front with
  | [] => simp [ofList]
  | [node] =>
      have hnode : ∀ condition body, node ≠ .branch condition body := by simpa using h
      rw [List.singleton_append, ofList_cons (.inl hnode), ofList_cons (.inl hnode)]
      simp [ofList]
  | node :: next :: rest =>
      by_cases hpair : ∃ condition body alternative,
          node = .branch condition body ∧ next = .otherwise alternative
      · obtain ⟨condition, body, alternative, rfl, rfl⟩ := hpair
        have ih := ofList_append room rest back fun condition body hrest =>
          h condition body (by simp [List.getLast?_cons, hrest])
        simp [ofList, ih]
      · have ih := ofList_append room (next :: rest) back (by simpa using h)
        have hnode : (∀ condition body, node ≠ .branch condition body) ∨
            ∀ alternative, next ≠ .otherwise alternative := by
          by_contra! hboth
          obtain ⟨⟨condition, body, hbranch⟩, alternative, hotherwise⟩ := hboth
          exact hpair ⟨condition, body, alternative, hbranch, hotherwise⟩
        have hcons (tail : List Node) : ofList (room + 1) (node :: next :: tail) =
            ofNode room node :: ofList (room + 1) (next :: tail) :=
          ofList_cons (by simpa using hnode)
        rw [List.cons_append, List.cons_append, hcons, hcons, ← List.cons_append, ih,
          List.cons_append]
termination_by front.length

section Walk

variable {m : Type → Type} [Monad m] {Item Opened : Type}

/-- Reports a node below the greatest depth. -/
def reportDepth (s : WalkSettings) (v : Visitor m Item Opened) (place : Cursor) : m Unit :=
  v.report ((Notice.tooDeep s.limits.maxDepth place.shown).entry v.isDry)

/-- Reports an alternative without a condition. -/
def reportOrphan (v : Visitor m Item Opened) : m Unit :=
  v.report (Notice.orphaned.entry v.isDry)

mutual

/-- Visits a paired node: of a condition and its alternative exactly one is walked, and
nothing has to be remembered from one sibling to the next. -/
def walk (s : WalkSettings) (v : Visitor m Item Opened) (node : Paired) (place : Cursor)
    (scope : Scope) : m (Option Item) := do
  match node with
  | .tooDeep =>
    reportDepth s v place
    return none
  | .folder raw inside =>
    Walk.visitFolder v raw place (scope.environment s.today) fun inner =>
      walkAll s v inside inner scope
  | .file f => Walk.visitFile v f place (scope.environment s.today)
  | .branch condition body =>
    if Walk.holds scope condition then
      v.group s!"[if {condition}]" place (← walkAll s v body place scope)
    else return none
  | .choice condition body alternative =>
    if Walk.holds scope condition then
      v.group s!"[if {condition}]" place (← walkAll s v body place scope)
    else v.group "[else]" place (← walkAll s v alternative place scope)
  | .orphan =>
    reportOrphan v
    return none
  | .loop count item body =>
    Walk.visitLoop s v count item place scope fun inner => walkAll s v body place inner

/-- Visits paired siblings from left to right. -/
def walkAll (s : WalkSettings) (v : Visitor m Item Opened) (nodes : List Paired) (place : Cursor)
    (scope : Scope) : m (List Item) := do
  match nodes with
  | [] => return []
  | node :: rest =>
    let item ← walk s v node place scope
    return item.toList ++ (← walkAll s v rest place scope)

end

lemma walkAll_append [LawfulMonad m] {s : WalkSettings} {v : Visitor m Item Opened}
    (front back : List Paired) (place : Cursor) (scope : Scope) :
    walkAll s v (front ++ back) place scope = (do
      let items ← walkAll s v front place scope
      let more ← walkAll s v back place scope
      return items ++ more) := by
  induction front with
  | nil => simp [walkAll]
  | cons node rest ih =>
      simp only [List.cons_append, walkAll, ih, bind_assoc, pure_bind, List.append_assoc]

end Walk

end Paired

namespace Walk

variable {m : Type → Type} [Monad m] [LawfulMonad m] {Item Opened : Type} {s : WalkSettings}
  {v : Visitor m Item Opened}

/-- A list that starts with no alternative is walked as it is by itself. -/
lemma walkList_of_head {nodes : List Node} (h : ∀ body, nodes.head? ≠ some (.otherwise body))
    (place : Cursor) (scope : Scope) (depth : Nat) (lastIf : Option Bool) :
    walkList s v nodes place scope depth lastIf = walkList s v nodes place scope depth none := by
  cases nodes with
  | nil => simp [walkList]
  | cons node rest =>
      have hnode : walkNode s v node place scope depth lastIf =
          walkNode s v node place scope depth none := by
        cases node with
        | otherwise body => exact absurd rfl (h body)
        | folder raw children attributes => simp [walkNode]
        | file f => simp [walkNode]
        | branch condition children => simp [walkNode]
        | loop count item children => simp [walkNode]
      rw [walkList, hnode, walkList]

open Paired in
/-- Below the greatest depth each node is reported. -/
lemma walkList_of_deep {depth : Nat} (hdeep : s.limits.maxDepth < depth) (nodes : List Node)
    (place : Cursor) (scope : Scope) (lastIf : Option Bool) :
    walkList s v nodes place scope depth lastIf =
      walkAll s v (nodes.map fun _ => .tooDeep) place scope := by
  induction nodes generalizing lastIf with
  | nil => simp [walkList, walkAll]
  | cons node rest ih =>
      rw [walkList, walkNode.eq_def, if_pos hdeep, List.map_cons, walkAll, ← ih none]
      simp [Paired.walk, reportDepth, Notice.entry]

open Paired in
/-- Siblings are walked as if each alternative had been put to its condition before. -/
lemma walkList_eq_walkAll (nodes : List Node) (place : Cursor) (scope : Scope) (depth : Nat) :
    walkList s v nodes place scope depth none =
      walkAll s v (Paired.ofList (s.limits.maxDepth + 1 - depth) nodes) place scope := by
  by_cases hdeep : s.limits.maxDepth < depth
  · rw [walkList_of_deep hdeep, Nat.sub_eq_zero_of_le hdeep, Paired.ofList]
  obtain ⟨room, hroom⟩ : ∃ room, s.limits.maxDepth + 1 - depth = room + 1 :=
    ⟨s.limits.maxDepth - depth, by omega⟩
  -- a condition and its alternative are taken together, so the recursion is on the size
  have hinside : ∀ (children : List Node) (inner : Cursor) (scope : Scope),
      sizeOf children < sizeOf nodes →
      walkList s v children inner scope (depth + 1) none =
        walkAll s v (Paired.ofList room children) inner scope := by
    intro children inner scope hsize
    rw [walkList_eq_walkAll children inner scope (depth + 1),
      show s.limits.maxDepth + 1 - (depth + 1) = room by omega]
  have hrest : ∀ rest, sizeOf rest < sizeOf nodes →
      walkList s v rest place scope depth none =
        walkAll s v (Paired.ofList (room + 1) rest) place scope := by
    intro rest hsize
    rw [walkList_eq_walkAll rest place scope depth, hroom]
  rw [hroom]
  match nodes with
  | [] => simp [walkList, Paired.ofList, walkAll]
  | .folder raw children attributes :: rest =>
      have hchildren := fun inner => hinside children inner scope (by simp; omega)
      simp [walkList, walkNode, hdeep, Paired.ofList, Paired.ofNode, walkAll, Paired.walk,
        hchildren, hrest rest (by simp)]
  | .file f :: rest =>
      simp [walkList, walkNode, hdeep, Paired.ofList, Paired.ofNode, walkAll, Paired.walk,
        hrest rest (by simp)]
  | .branch condition body :: rest =>
      have hbody := hinside body place scope (by simp; omega)
      by_cases hhead : ∃ alternative, rest.head? = some (.otherwise alternative)
      · obtain ⟨alternative, hhead⟩ := hhead
        obtain ⟨more, rfl⟩ := List.head?_eq_some_iff.mp hhead
        have halternative := hinside alternative place scope (by simp; omega)
        by_cases hholds : holds scope condition <;>
          simp [walkList, walkNode, hdeep, hholds, Paired.ofList, walkAll, Paired.walk, hbody,
            halternative, hrest more (by simp; omega)]
      · have hhead := not_exists.mp hhead
        rw [ofList_cons (.inr hhead)]
        by_cases hholds : holds scope condition <;>
          simp [walkList, walkNode, hdeep, hholds, Paired.ofNode, walkAll, Paired.walk, hbody,
            walkList_of_head hhead _ _ _ (some _), hrest rest (by simp)]
  | .otherwise body :: rest =>
      simp [walkList, walkNode, hdeep, Paired.ofList, Paired.ofNode, walkAll, Paired.walk,
        reportOrphan, Notice.entry, hrest rest (by simp)]
  | .loop count item body :: rest =>
      have hchildren := fun scope => hinside body place scope (by simp; omega)
      simp [walkList, walkNode, hdeep, Paired.ofList, Paired.ofNode, walkAll, Paired.walk,
        hchildren, hrest rest (by simp)]
termination_by sizeOf nodes

/-- An alternative that no condition is directly in front of is reported and left out. -/
lemma walkList_orphan {depth : Nat} (hdepth : depth ≤ s.limits.maxDepth) (front back : List Node)
    (h : ∀ condition body, front.getLast? ≠ some (.branch condition body)) (body : List Node)
    (place : Cursor) (scope : Scope) :
    walkList s v (front ++ .otherwise body :: back) place scope depth none = (do
      let items ← walkList s v front place scope depth none
      Paired.reportOrphan v
      let more ← walkList s v back place scope depth none
      return items ++ more) := by
  obtain ⟨room, hroom⟩ : ∃ room, s.limits.maxDepth + 1 - depth = room + 1 :=
    ⟨s.limits.maxDepth - depth, by omega⟩
  simp only [walkList_eq_walkAll, hroom, Paired.ofList_append _ front _ h]
  rw [Paired.ofList_cons (.inl (by simp))]
  simp [Paired.walkAll_append, Paired.walkAll, Paired.ofNode, Paired.walk]

end Walk

/-! ### What is not taken -/

/-- Two lists of siblings that differ at most in what is not taken: in the children of
conditions that do not hold, and of alternatives that are left out. In a repetition they do
so in each round. -/
inductive Walk.Agree (s : WalkSettings) :
    Scope → Option Bool → List Node → List Node → Prop
  | nil {scope : Scope} {lastIf : Option Bool} : Agree s scope lastIf [] []
  | folder {scope : Scope} {lastIf : Option Bool} {raw : String} {children children' : List Node}
      {attributes : Dictionary String String} {rest rest' : List Node} :
      Agree s scope none children children' → Agree s scope none rest rest' →
      Agree s scope lastIf (.folder raw children attributes :: rest)
        (.folder raw children' attributes :: rest')
  | file {scope : Scope} {lastIf : Option Bool} {f : FileNode} {rest rest' : List Node} :
      Agree s scope none rest rest' → Agree s scope lastIf (.file f :: rest) (.file f :: rest')
  | taken {scope : Scope} {lastIf : Option Bool} {condition : String} {body body' : List Node}
      {rest rest' : List Node} : Walk.holds scope condition = true →
      Agree s scope none body body' → Agree s scope (some true) rest rest' →
      Agree s scope lastIf (.branch condition body :: rest) (.branch condition body' :: rest')
  /-- The condition does not hold, and its children may be any. -/
  | untaken {scope : Scope} {lastIf : Option Bool} {condition : String}
      {body body' rest rest' : List Node} : Walk.holds scope condition = false →
      Agree s scope (some false) rest rest' →
      Agree s scope lastIf (.branch condition body :: rest) (.branch condition body' :: rest')
  | alternative {scope : Scope} {body body' rest rest' : List Node} :
      Agree s scope none body body' → Agree s scope none rest rest' →
      Agree s scope (some false) (.otherwise body :: rest) (.otherwise body' :: rest')
  /-- The condition held, or there is none, and the children may be any. -/
  | leftOut {scope : Scope} {lastIf : Option Bool} {body body' rest rest' : List Node} :
      lastIf ≠ some false → Agree s scope none rest rest' →
      Agree s scope lastIf (.otherwise body :: rest) (.otherwise body' :: rest')
  | loop {scope : Scope} {lastIf : Option Bool} {count item : String}
      {body body' rest rest' : List Node} :
      (∀ times name round, Plan.readLoop s count item (scope.environment s.today) =
        .ok (times, name) → round < times →
        Agree s (Walk.roundScope scope name round) none body body') →
      Agree s scope none rest rest' →
      Agree s scope lastIf (.loop count item body :: rest) (.loop count item body' :: rest')

namespace Walk.Agree

variable {s : WalkSettings} {scope : Scope} {lastIf : Option Bool} {nodes nodes' : List Node}

/-- A list agrees with itself. -/
lemma refl (nodes : List Node) (scope : Scope) (lastIf : Option Bool) :
    Agree s scope lastIf nodes nodes := by
  match nodes with
  | [] => exact .nil
  | .folder raw children attributes :: rest =>
      exact .folder (refl children scope none) (refl rest scope none)
  | .file f :: rest => exact .file (refl rest scope none)
  | .branch condition body :: rest =>
      by_cases hholds : holds scope condition = true
      · exact .taken hholds (refl body scope none) (refl rest scope (some true))
      · exact .untaken (by simpa using hholds) (refl rest scope (some false))
  | .otherwise body :: rest =>
      by_cases hlast : lastIf = some false
      · subst hlast
        exact .alternative (refl body scope none) (refl rest scope none)
      · exact .leftOut hlast (refl rest scope none)
  | .loop count item body :: rest =>
      exact .loop (fun _ name round _ _ => refl body (roundScope scope name round) none)
        (refl rest scope none)

lemma length_eq (h : Agree s scope lastIf nodes nodes') : nodes.length = nodes'.length := by
  induction h with
  | nil => rfl
  | folder _ _ _ ih | file _ ih | taken _ _ _ _ ih | untaken _ _ ih | alternative _ _ _ ih
  | leftOut _ _ ih | loop _ _ _ ih => simp [ih]

/-- Below the greatest depth only the number of nodes counts. -/
lemma ofList_eq_of_shallow (h : Agree s scope lastIf nodes nodes') {relative : String}
    {depth : Nat} (hshallow : ¬s.limits.maxDepth < depth →
      Plan.ofList s nodes relative scope depth lastIf =
        Plan.ofList s nodes' relative scope depth lastIf) :
    Plan.ofList s nodes relative scope depth lastIf =
      Plan.ofList s nodes' relative scope depth lastIf := by
  by_cases hdeep : s.limits.maxDepth < depth
  · rw [Plan.ofList_of_deep hdeep, Plan.ofList_of_deep hdeep, List.map_const', List.map_const',
      h.length_eq]
  · exact hshallow hdeep

/-- What is not taken is no part of a plan. -/
lemma ofList_eq (h : Agree s scope lastIf nodes nodes') (relative : String) (depth : Nat) :
    Plan.ofList s nodes relative scope depth lastIf =
      Plan.ofList s nodes' relative scope depth lastIf := by
  induction h generalizing relative depth with
  | nil => rfl
  | folder hchildren hrest ihChildren ih =>
      refine (folder hchildren hrest).ofList_eq_of_shallow fun hdeep => ?_
      simp [Plan.ofList, Plan.ofNode, Plan.nextIf, hdeep, ihChildren, ih]
  | file hrest ih => simp [Plan.ofList, Plan.nextIf, ih]
  | taken hholds hbody hrest ihBody ih =>
      refine (taken hholds hbody hrest).ofList_eq_of_shallow fun hdeep => ?_
      simp [Plan.ofList, Plan.ofNode, Plan.nextIf, hdeep, hholds, ihBody, ih]
  | untaken hholds hrest ih =>
      refine (untaken hholds hrest).ofList_eq_of_shallow fun hdeep => ?_
      simp [Plan.ofList, Plan.ofNode, Plan.nextIf, hdeep, hholds, ih]
  | alternative hbody hrest ihBody ih =>
      refine (alternative hbody hrest).ofList_eq_of_shallow fun hdeep => ?_
      simp [Plan.ofList, Plan.ofNode, Plan.nextIf, hdeep, ihBody, ih]
  | @leftOut scope lastIf body body' rest rest' hlast hrest ih =>
      refine (leftOut hlast hrest).ofList_eq_of_shallow fun hdeep => ?_
      rcases lastIf with _ | _ | _
      · simp [Plan.ofList, Plan.ofNode, Plan.nextIf, hdeep, ih]
      · exact absurd rfl hlast
      · simp [Plan.ofList, Plan.ofNode, Plan.nextIf, hdeep, ih]
  | @loop scope lastIf count item body body' rest rest' hbody hrest ihBody ih =>
      refine (loop hbody hrest).ofList_eq_of_shallow fun hdeep => ?_
      cases hloop : Plan.readLoop s count item (scope.environment s.today) with
      | error notice => simp [Plan.ofList, Plan.ofNode, Plan.nextIf, hloop, ih]
      | ok loop =>
          have hrounds := List.map_congr_left fun round hround =>
            ihBody loop.1 loop.2 round hloop (List.mem_range.mp hround) relative (depth + 1)
          simp [Plan.ofList, Plan.ofNode, Plan.nextIf, hloop, hrounds, ih]

/-- What is not taken is no part of a walk. -/
lemma walk_eq {root root' : Node} (h : Agree s scope none [root] [root']) {m : Type → Type}
    [Monad m] [LawfulMonad m] {Item Opened : Type} (v : Visitor m Item Opened) (output : String) :
    walk s v root output scope = walk s v root' output scope := by
  rw [walk_eq_perform, walk_eq_perform, Plan.ofRoot, Plan.ofRoot, h.ofList_eq]

/-- Commands run in the same folder. -/
lemma hookFolder_eq {root root' : Node} (h : Agree s scope none [root] [root']) (output : String)
    (env : Environment) :
    Creation.hookFolder root output env = Creation.hookFolder root' output env := by
  cases h <;> rfl

end Walk.Agree

/-- **Conditions and their alternatives** are paired as they stand in the schema.

* A walk, with what it hands on from node to node, does what the evaluator of paired nodes
  does, for each visitor: the pairs are known before the walk, list by list;
* an alternative that no condition is directly in front of is reported once when it is
  visited, and its children are not;
* what is not taken makes no difference to what is created or previewed. -/
theorem alternatives_are_paired :
    (∀ {m : Type → Type} [Monad m] [LawfulMonad m] {Item Opened : Type} (s : WalkSettings)
      (v : Visitor m Item Opened) (scope : Scope),
      (∀ (root : Node) (output : String), walk s v root output scope =
        Paired.walkAll s v (Paired.ofList (s.limits.maxDepth + 1) [root])
          { path := output } scope) ∧
      (∀ (nodes : List Node) (place : Cursor) (depth : Nat),
        Walk.walkList s v nodes place scope depth none =
          Paired.walkAll s v (Paired.ofList (s.limits.maxDepth + 1 - depth) nodes) place scope) ∧
      ∀ (front back body : List Node) (place : Cursor) (depth : Nat), depth ≤ s.limits.maxDepth →
        (∀ condition taken, front.getLast? ≠ some (.branch condition taken)) →
        Walk.walkList s v (front ++ .otherwise body :: back) place scope depth none = (do
          let items ← Walk.walkList s v front place scope depth none
          Paired.reportOrphan v
          let more ← Walk.walkList s v back place scope depth none
          return items ++ more)) ∧
    ∀ (root root' : Node) (hooks : Option (List String)) (output : String) (scope : Scope),
      (∀ s : CreateSettings, Walk.Agree s.toWalkSettings scope none [root] [root'] →
        create s ⟨root, hooks⟩ output scope = create s ⟨root', hooks⟩ output scope) ∧
      ∀ s : Preview.Settings, Walk.Agree s.toWalkSettings scope none [root] [root'] →
        preview s ⟨root, hooks⟩ output scope = preview s ⟨root', hooks⟩ output scope := by
  refine ⟨fun s v scope => ⟨fun root output => ?_, fun nodes place depth => ?_,
    fun front back body place depth hdepth h => ?_⟩,
    fun root root' hooks output scope => ⟨fun s h => ?_, fun s h => ?_⟩⟩
  · exact Walk.walkList_eq_walkAll [root] _ scope 0
  · exact Walk.walkList_eq_walkAll nodes place scope depth
  · exact Walk.walkList_orphan hdepth front back h body place scope
  · simp only [create, h.walk_eq, h.hookFolder_eq, Schema.commands]
  · simp only [preview, h.walk_eq]

/-- So it is for a condition that holds in no round of a repetition, and for an alternative
that follows another one. -/
theorem alternatives_are_paired_in_rounds :
    let s : CreateSettings :=
      { limits := {}, today := ⟨2024, 1, 1, by decide⟩, equipment := {}, options := {} }
    let root : List Node → Node := fun body =>
      .loop "2" "i" [.branch "missing" body, .otherwise [.file { name := "a%i%" }]]
    let body : List Node := [.otherwise [], .file { name := "b" }]
    let front : List Node := [.branch "i" [], .otherwise body]
    Walk.Agree s.toWalkSettings default none [root []] [root body] ∧
      create s ⟨root [], none⟩ "out" default = create s ⟨root body, none⟩ "out" default ∧
      Walk.walkList s.toWalkSettings (Creation.visitor s) (front ++ .otherwise body :: [])
          { path := "out" } default 0 none = (do
        let items ← Walk.walkList s.toWalkSettings (Creation.visitor s) front
          { path := "out" } default 0 none
        Paired.reportOrphan (Creation.visitor s)
        let more ← Walk.walkList s.toWalkSettings (Creation.visitor s) []
          { path := "out" } default 0 none
        return items ++ more) := by
  intro s root body front
  have htwo : ∀ env, substitute env "2" = "2" := fun _ => substitute_of_not_mem (by decide)
  have hloop : Plan.readLoop s.toWalkSettings "2" "i"
      ((default : Scope).environment s.today) = .ok (2, "i") := by
    rw [Plan.readLoop, htwo]
    rfl
  have hagree : Walk.Agree s.toWalkSettings default none [root []] [root body] := by
    refine .loop (fun times name round h hround => ?_) .nil
    obtain ⟨rfl, rfl⟩ : 2 = times ∧ "i" = name := by simpa [hloop] using h
    have hholds : Walk.holds (Walk.roundScope default "i" round) "missing" = false := by
      interval_cases round <;> decide
    exact .untaken hholds (.refl _ _ _)
  refine ⟨hagree, (alternatives_are_paired.2 _ _ none "out" default).1 s hagree, ?_⟩
  exact (alternatives_are_paired.1 s.toWalkSettings (Creation.visitor s) default).2.2 front [] body
    { path := "out" } 0 (by decide) (by simp [front])

end Scaffold

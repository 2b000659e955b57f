import Mathlib.Tactic
import Scaffold.Proofs.Path
import Scaffold.Walk

/-!
What a walk will do, before it does it.

Which nodes a walk comes to depends on a visitor in one way only: a folder that is not
opened is not walked. All else (depth, names, conditions, rounds) is settled by the
schema and its variables.

* A `Plan` is what is settled: the reports, files, folders and groups that a walk hands
  to its visitor, in order, with accepted names and the values of their scope;
* `Plan.perform` hands a plan to a visitor;
* `Plan.ofList` is the plan of a list of nodes;
* `walk_eq_perform`: a walk is its plan, performed. So what holds of a run follows by
  induction on plans, which have no depths, scopes or conditions.
-/

namespace Scaffold

open Variable

/-- A text without percent signs is made of single characters. -/
lemma pieces_of_not_mem {cs : List Char} (h : '%' ∉ cs) : pieces cs = cs.map .plain := by
  induction cs with
  | nil => simp [pieces]
  | cons c rest ih =>
      rw [List.mem_cons, not_or] at h
      have hc : (c == '%') = false := by simpa using Ne.symm h.1
      rw [pieces, hc, if_neg (by simp), ih h.2, List.map_cons]

/-- A text without percent signs stays as it is. -/
lemma substitute_of_not_mem {env : Environment} {text : String} (h : '%' ∉ text.toList) :
    substitute env text = text := by
  have hchars : ∀ cs : List Char, (cs.map Piece.plain).flatMap (Piece.replace env id) = cs := by
    intro cs
    induction cs with
    | nil => rfl
    | cons c rest ih => rw [List.map_cons, List.flatMap_cons, ih]; rfl
  rw [substitute, substituteWith, substituteChars, pieces_of_not_mem h, hchars,
    String.ofList_toList]

/-- A name without fault. -/
abbrev AcceptedName := { name : String // Name.check name = .ok name }

/-- A name, if it has no fault. -/
def AcceptedName.of (name : String) : Except Violation AcceptedName :=
  match h : Name.check name with
  | .ok _ => .ok ⟨name, by rw [h, (Name.check_eq_ok_iff.mp h).2]⟩
  | .error fault => .error fault

/-- Checking a name gives the name itself. -/
lemma AcceptedName.check_eq (name : String) :
    Name.check name = (AcceptedName.of name).map Subtype.val := by
  unfold AcceptedName.of
  split
  · rename_i accepted h
    exact h.trans (congrArg Except.ok (Name.check_eq_ok_iff.mp h).2)
  · rename_i fault h
    exact h

/-- A child has one component more than the place above it. -/
lemma Cursor.components_descend (place : Cursor) (name : AcceptedName) :
    Path.components (place.descend name).path = Path.components place.path ++ [.name name] :=
  Path.components_join (Path.isName_of_check name.2) place.path

lemma Cursor.components_descend_ne_nil (place : Cursor) (name : AcceptedName) :
    Path.components (place.descend name).path ≠ [] := by
  rw [components_descend]
  simp

/-- What a walk reports. -/
inductive Notice where
  | tooDeep (limit : Nat) (shown : String)
  | invalidName (raw : String) (fault : Violation)
  /-- An alternative without a condition. -/
  | orphaned
  | invalidVariable (item : String) (fault : Violation)
  | noRounds (count : String)
  | invalidCount (count text : String)
  | tooManyRounds (times limit : Nat)
  | rounds (times : Nat) (name : String)

/-- The message of a notice, in a run that is dry or not. -/
def Notice.entry (isDry : Bool) : Notice → LogEntry
  | tooDeep limit shown => ⟨.error, "Maximum schema depth exceeded",
      s!"{(Violation.depthExceeded limit).message} (at {shown})"⟩
  | invalidName raw fault => ⟨.error, s!"Invalid name: {raw}", fault.message⟩
  | orphaned => ⟨.warning, "Skipped orphaned else block (no preceding if)",
      "Else blocks must immediately follow an if block"⟩
  | invalidVariable item fault =>
      ⟨.error, s!"Invalid repeat variable name: '{item}'", fault.message⟩
  | noRounds count =>
      ⟨.info, "Skipping repeat block (count is 0)", s!"Count '{count}' resolved to 0"⟩
  | invalidCount count text => ⟨.warning, s!"Invalid repeat count: '{text}'",
      s!"Count must be a non-negative integer (resolved from '{count}')"⟩
  | tooManyRounds times limit => ⟨.error, "Repeat count exceeds maximum",
      (Violation.repeatLimitExceeded times limit).message⟩
  | rounds times name =>
      let verb := if isDry then "Would repeat" else "Repeating"
      ⟨.info, s!"{verb} {times} times (as %{name}%)", none⟩

/-- What a walk hands to its visitor, one thing after the other. -/
inductive Plan where
  | done
  | report (notice : Notice) (next : Plan)
  /-- A node whose name is refused. -/
  | refused (kind : ItemKind) (next : Plan)
  | file (name : AcceptedName) (f : FileNode) (env : Environment) (next : Plan)
  | folder (name : AcceptedName) (inside next : Plan)
  | group (label : String) (inside next : Plan)

namespace Plan

/-- A plan followed by another. -/
def append : Plan → Plan → Plan
  | done, q => q
  | report notice next, q => report notice (next.append q)
  | refused kind next, q => refused kind (next.append q)
  | file name f env next, q => file name f env (next.append q)
  | folder name inside next, q => folder name inside (next.append q)
  | group label inside next, q => group label inside (next.append q)

/-- Plans one after the other. -/
def concat : List Plan → Plan
  | [] => done
  | p :: rest => p.append (concat rest)

section Perform

variable {m : Type → Type} [Monad m] {Item Opened : Type}

/-- Visits a folder with an accepted name; `walkChildren` walks what is in it. -/
def openFolder (v : Visitor m Item Opened) (name : String) (place : Cursor)
    (walkChildren : Cursor → m (List Item)) : m (Option Item) := do
  let here := place.descend name
  match ← v.enterFolder name here with
  | none => return none
  | some (opened, isPlanned) =>
    let items ← walkChildren { here with isPlanned := here.isPlanned || isPlanned }
    v.leaveFolder opened items

/-- Hands a plan to a visitor. -/
def perform (v : Visitor m Item Opened) : Plan → Cursor → m (List Item)
  | done, _ => return []
  | report notice next, place => do
    v.report (notice.entry v.isDry)
    next.perform v place
  | refused kind next, place => do
    let item ← v.invalidName kind place
    let items ← next.perform v place
    return item.toList ++ items
  | file name f env next, place => do
    let item ← v.file name f (place.descend name) env
    let items ← next.perform v place
    return item.toList ++ items
  | folder name inside next, place => do
    let item ← openFolder v name place (inside.perform v)
    let items ← next.perform v place
    return item.toList ++ items
  | group label inside next, place => do
    let children ← inside.perform v place
    let item ← v.group label place children
    let items ← next.perform v place
    return item.toList ++ items

variable [LawfulMonad m] {v : Visitor m Item Opened}

/-- A plan of two parts is performed part by part. -/
lemma perform_append (p q : Plan) (place : Cursor) :
    (p.append q).perform v place =
      (do let items ← p.perform v place; let more ← q.perform v place; pure (items ++ more)) := by
  induction p with
  | done => simp [append, perform]
  | report notice next ih => simp only [append, perform, ih, bind_assoc]
  | refused kind next ih
  | file name f env next ih
  | folder name inside next _ ih
  | group label inside next _ ih =>
      simp only [append, perform, ih, bind_assoc, pure_bind, List.append_assoc]

/-- Plans are performed one after the other. -/
lemma perform_concat (ps : List Plan) (place : Cursor) :
    (concat ps).perform v place =
      List.flatten <$> ps.mapM fun p => p.perform v place := by
  induction ps with
  | nil => simp [concat, perform]
  | cons p rest ih => simp [concat, perform_append, ih, List.mapM_cons]

end Perform

/-! ### The plan of a schema -/

/-- A place below the output folder, as far as it is shown. -/
def shownPlace (relative : String) : Cursor := { path := "", relative }

/-- The plan of a node whose name is refused. -/
def refuse (kind : ItemKind) (raw : String) (fault : Violation) : Plan :=
  report (.invalidName raw fault) (refused kind done)

/-- The count and the variable of a repetition, or the report of what is wrong. -/
def readLoop (s : WalkSettings) (count item : String) (env : Environment) :
    Except Notice (Nat × String) :=
  match checkLoopVariable (String.ofList (Text.trim item.toList)) with
  | .error fault => .error (.invalidVariable item fault)
  | .ok name =>
    match RepeatCount.read (substitute env count) s.limits.maxRepeat with
    | .times 0 => .error (.noRounds count)
    | .times times => .ok (times, name)
    | .invalid text => .error (.invalidCount count text)
    | .tooLarge times limit => .error (.tooManyRounds times limit)

/-- The condition that a node hands on to its next sibling. -/
def nextIf (s : WalkSettings) (node : Node) (scope : Scope) (depth : Nat) : Option Bool :=
  if s.limits.maxDepth < depth then none
  else match node with
    | .branch condition _ => some (Walk.holds scope condition)
    | _ => none

mutual

/-- The plan of a node. -/
def ofNode (s : WalkSettings) (node : Node) (relative : String) (scope : Scope) (depth : Nat)
    (lastIf : Option Bool) : Plan :=
  if s.limits.maxDepth < depth then
    report (.tooDeep s.limits.maxDepth (shownPlace relative).shown) done
  else
    match node with
    | .folder raw children _ =>
      match AcceptedName.of (substitute (scope.environment s.today) raw) with
      | .error fault => refuse .folder raw fault
      | .ok name =>
        folder name (ofList s children ((shownPlace relative).descend name).relative scope
          (depth + 1) none) done
    | .file f =>
      match AcceptedName.of (substitute (scope.environment s.today) f.name) with
      | .error fault => refuse .file f.name fault
      | .ok name => file name f (scope.environment s.today) done
    | .branch condition children =>
      if Walk.holds scope condition then
        group s!"[if {condition}]" (ofList s children relative scope (depth + 1) none) done
      else done
    | .otherwise children =>
      match lastIf with
      | some false => group "[else]" (ofList s children relative scope (depth + 1) none) done
      | some true => done
      | none => report .orphaned done
    | .loop count item children =>
      match readLoop s count item (scope.environment s.today) with
      | .error notice => report notice done
      | .ok (times, name) =>
        report (.rounds times name) <|
          group s!"[repeat {times} as {name}]"
            (concat ((List.range times).map fun round =>
              ofList s children relative (Walk.roundScope scope name round) (depth + 1) none))
            done

/-- The plan of siblings. -/
def ofList (s : WalkSettings) (nodes : List Node) (relative : String) (scope : Scope)
    (depth : Nat) (lastIf : Option Bool) : Plan :=
  match nodes with
  | [] => done
  | node :: rest =>
    (ofNode s node relative scope depth lastIf).append
      (ofList s rest relative scope depth (nextIf s node scope depth))

end

/-- Below the greatest depth each node is reported. -/
lemma ofList_of_deep {s : WalkSettings} {depth : Nat} (hdeep : s.limits.maxDepth < depth)
    (nodes : List Node) (relative : String) (scope : Scope) (lastIf : Option Bool) :
    ofList s nodes relative scope depth lastIf =
      concat (nodes.map fun _ =>
        report (.tooDeep s.limits.maxDepth (shownPlace relative).shown) done) := by
  induction nodes generalizing lastIf with
  | nil => rfl
  | cons node rest ih =>
      rw [ofList, ofNode.eq_def, if_pos hdeep, ih, List.map_cons, concat]

/-! ### A walk is its plan, performed -/

section Walk

variable {m : Type → Type} [Monad m] [LawfulMonad m] {Item Opened : Type}
  {s : WalkSettings} {v : Visitor m Item Opened}

omit [LawfulMonad m] in
lemma readLoop_eq (count item : String) (env : Environment) :
    Walk.readLoop s v count item env =
      match readLoop s count item env with
      | .ok loop => pure (some loop)
      | .error notice => (do v.report (notice.entry v.isDry); pure none) := by
  simp only [Walk.readLoop, readLoop]
  cases checkLoopVariable (String.ofList (Text.trim item.toList)) with
  | error fault => rfl
  | ok name =>
      cases RepeatCount.read (substitute env count) s.limits.maxRepeat with
      | times n => cases n <;> rfl
      | invalid text => rfl
      | tooLarge times limit => rfl

lemma perform_refuse (kind : ItemKind) (raw : String) (fault : Violation) (place : Cursor) :
    (refuse kind raw fault).perform v place =
      Option.toList <$> Walk.refuseName v kind raw fault place := by
  simp [refuse, perform, Walk.refuseName, Notice.entry]

omit [LawfulMonad m] in
lemma visitFolder_eq (raw : String) (place : Cursor) (env : Environment)
    (walkChildren : Cursor → m (List Item)) :
    Walk.visitFolder v raw place env walkChildren =
      match AcceptedName.of (substitute env raw) with
      | .error fault => Walk.refuseName v .folder raw fault place
      | .ok name => openFolder v name place walkChildren := by
  rw [Walk.visitFolder, AcceptedName.check_eq]
  cases AcceptedName.of (substitute env raw) <;> rfl

omit [LawfulMonad m] in
lemma visitFile_eq (f : FileNode) (place : Cursor) (env : Environment) :
    Walk.visitFile v f place env =
      match AcceptedName.of (substitute env f.name) with
      | .error fault => Walk.refuseName v .file f.name fault place
      | .ok name => v.file name f (place.descend name) env := by
  rw [Walk.visitFile, AcceptedName.check_eq]
  cases AcceptedName.of (substitute env f.name) <;> rfl

omit [LawfulMonad m] in
/-- What is in a folder is only ever walked from the place of the folder. -/
lemma openFolder_congr {name : String} {place : Cursor} {walk walk' : Cursor → m (List Item)}
    (h : ∀ inner : Cursor, inner.relative = (place.descend name).relative →
      walk inner = walk' inner) :
    openFolder v name place walk = openFolder v name place walk' := by
  dsimp only [openFolder]
  congr 1
  funext opened
  cases opened with
  | none => rfl
  | some opened =>
      dsimp only
      rw [h { place.descend name with
        isPlanned := (place.descend name).isPlanned || opened.2 } rfl]

mutual

/-- A node hands its plan to the visitor, and its condition to the next sibling. -/
lemma walkNode_eq_perform (node : Node) (place : Cursor) (scope : Scope) (depth : Nat)
    (lastIf : Option Bool) :
    (fun r : Option Item × Option Bool => (r.1.toList, r.2)) <$>
        Walk.walkNode s v node place scope depth lastIf =
      (fun items => (items, nextIf s node scope depth)) <$>
        (ofNode s node place.relative scope depth lastIf).perform v place := by
  unfold Walk.walkNode ofNode nextIf
  by_cases hdeep : s.limits.maxDepth < depth
  · simp [hdeep, perform]
    rfl
  simp only [hdeep, ↓reduceIte]
  match node with
  | .folder raw children attributes =>
      simp only [visitFolder_eq]
      cases AcceptedName.of (substitute (scope.environment s.today) raw) with
      | error fault => simp [perform_refuse]
      | ok name =>
          have hinside : openFolder v name place
              (fun inner => Walk.walkList s v children inner scope (depth + 1) none) =
              openFolder v name place ((ofList s children
                ((shownPlace place.relative).descend name).relative scope (depth + 1)
                none).perform v) :=
            openFolder_congr fun inner hinner => by
              rw [walkList_eq_perform children inner scope (depth + 1) none, hinner]
              rfl
          simp [perform, hinside]
  | .file f =>
      simp only [visitFile_eq]
      cases AcceptedName.of (substitute (scope.environment s.today) f.name) with
      | error fault => simp [perform_refuse]
      | ok name => simp [perform]
  | .branch condition children =>
      have hinside := walkList_eq_perform children place scope (depth + 1) none
      by_cases hholds : Walk.holds scope condition
      · simp [hholds, hinside, perform]
      · simp [hholds, perform]
  | .otherwise children =>
      have hinside := walkList_eq_perform children place scope (depth + 1) none
      match lastIf with
      | some false => simp [hinside, perform]
      | some true => simp [perform]
      | none => simp [perform, Notice.entry]
  | .loop count item children =>
      have hinside := fun scope => walkList_eq_perform children place scope (depth + 1) none
      simp only [Walk.visitLoop, readLoop_eq]
      cases readLoop s count item (scope.environment s.today) with
      | error entry => simp [perform]
      | ok loop =>
          simp [hinside, perform, perform_concat, List.mapM_map, Function.comp_def, Notice.entry]

/-- Siblings hand their plan to the visitor. -/
lemma walkList_eq_perform (nodes : List Node) (place : Cursor) (scope : Scope) (depth : Nat)
    (lastIf : Option Bool) :
    Walk.walkList s v nodes place scope depth lastIf =
      (ofList s nodes place.relative scope depth lastIf).perform v place := by
  match nodes with
  | [] => simp [Walk.walkList, ofList, perform]
  | node :: rest =>
      have hnode := walkNode_eq_perform node place scope depth lastIf
      have hrest := fun next => walkList_eq_perform rest place scope depth next
      calc Walk.walkList s v (node :: rest) place scope depth lastIf
          = (fun r : Option Item × Option Bool => (r.1.toList, r.2)) <$>
              Walk.walkNode s v node place scope depth lastIf >>= fun r =>
                (r.1 ++ ·) <$> Walk.walkList s v rest place scope depth r.2 := by
            simp [Walk.walkList]
        _ = (ofNode s node place.relative scope depth lastIf).perform v place >>= fun items =>
              (items ++ ·) <$> (ofList s rest place.relative scope depth
                (nextIf s node scope depth)).perform v place := by
            rw [hnode]
            simp [hrest]
        _ = (ofList s (node :: rest) place.relative scope depth lastIf).perform v place := by
            simp [ofList, perform_append]

end

end Walk

/-- The plan of a schema. -/
def ofRoot (s : WalkSettings) (root : Node) (scope : Scope) : Plan :=
  ofList s [root] "" scope 0 none

end Plan

/-- **A walk is its plan, performed.** -/
theorem walk_eq_perform {m : Type → Type} [Monad m] [LawfulMonad m] {Item Opened : Type}
    (s : WalkSettings) (v : Visitor m Item Opened) (root : Node) (output : String)
    (scope : Scope) :
    walk s v root output scope =
      (Plan.ofRoot s root scope).perform v { path := output } :=
  Plan.walkList_eq_perform [root] _ scope 0 none

end Scaffold

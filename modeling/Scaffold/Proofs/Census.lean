import Mathlib.Tactic
import Scaffold.Proofs.Agreement
import Scaffold.Proofs.DryRun
import Scaffold.Proofs.Encounters
import Scaffold.Proofs.Previewing

/-!
The tree of a preview and its summary.

* `Marked`: a node of the tree with a mark that tells which visit made it. A name does not
  tell: a folder may be called like a group;
* `Preview.markedVisitor` previews with marks, and `Visitor.Unmarks` says that nothing else
  changes. `markedPreview` is a preview with its marks and with what the walk comes to;
* `Marked.allIn` and `Marked.outermostIn`: the nodes of some trees, and those of them that no
  folder of the trees encloses;
* `Grown`: trees have the shape that a walk at some place gives them. A folder or file in it
  is named by its place;
* `Drawn`: trees were grown, and a summary went up by their folders and files (`census`);
* `perform_draws`: each visit grows trees and counts them, whatever is replied. By induction
  so does a plan;
* `preview_tree_agrees_with_summary`: so the tree of a preview agrees with its summary.
-/

namespace Scaffold

open Variable

/-! ### Marks -/

/-- The visit that a node of a preview comes from. -/
inductive Role where
  | folder
  | file
  | group
  /-- The node that stands for a refused name. -/
  | placeholder
  deriving DecidableEq

/-- A node of a preview with the visit that it comes from, and the marked nodes below it. -/
structure Marked where
  role : Role
  node : PreviewNode
  inside : List Marked

lemma PreviewNode.nodes_eq (node : PreviewNode) : node.nodes = node :: nodesIn node.children := by
  cases node
  rfl

namespace Marked

/-- Whether a node stands for a folder or file. -/
def isReal (x : Marked) : Bool :=
  x.role = .folder || x.role = .file

mutual

/-- The nodes of a tree, in pre-order. -/
def all (x : Marked) : List Marked :=
  match x with
  | ⟨role, node, inside⟩ => ⟨role, node, inside⟩ :: allIn inside

/-- The nodes of some trees, in pre-order. -/
def allIn : List Marked → List Marked
  | [] => []
  | x :: rest => x.all ++ allIn rest

end

mutual

/-- The nodes of a tree that are reached through groups only. -/
def outermost (x : Marked) : List Marked :=
  match x with
  | ⟨role, node, inside⟩ => if role = .group then outermostIn inside else [⟨role, node, inside⟩]

/-- The nodes of some trees that are reached through groups only. -/
def outermostIn : List Marked → List Marked
  | [] => []
  | x :: rest => x.outermost ++ outermostIn rest

end

lemma allIn_append (a b : List Marked) : allIn (a ++ b) = allIn a ++ allIn b := by
  induction a with
  | nil => rfl
  | cons x rest ih => simp [allIn, ih]

lemma allIn_singleton (x : Marked) : allIn [x] = x :: allIn x.inside := by
  cases x
  simp [allIn, all]

lemma outermostIn_append (a b : List Marked) :
    outermostIn (a ++ b) = outermostIn a ++ outermostIn b := by
  induction a with
  | nil => rfl
  | cons x rest ih => simp [outermostIn, ih]

lemma outermostIn_singleton (x : Marked) :
    outermostIn [x] = if x.role = .group then outermostIn x.inside else [x] := by
  cases x
  simp [outermostIn, outermost]

mutual

/-- Where the children of a node are the nodes marked below it, a tree has the marked nodes. -/
lemma nodes_of_children (x : Marked) (h : ∀ y ∈ x.all, y.node.children = y.inside.map node) :
    x.node.nodes = x.all.map node := by
  match x with
  | ⟨role, node, inside⟩ =>
      have hnode : node.children = inside.map Marked.node := h ⟨role, node, inside⟩ (by simp [all])
      have hinside := nodesIn_of_children inside fun y hy => h y (by simp [all, hy])
      rw [all, List.map_cons, ← hinside, ← hnode, PreviewNode.nodes_eq]

lemma nodesIn_of_children (trees : List Marked)
    (h : ∀ y ∈ allIn trees, y.node.children = y.inside.map node) :
    PreviewNode.nodesIn (trees.map node) = (allIn trees).map node := by
  match trees with
  | [] => rfl
  | x :: rest =>
      have hx := nodes_of_children x fun y hy => h y (by simp [allIn, hy])
      have hrest := nodesIn_of_children rest fun y hy => h y (by simp [allIn, hy])
      rw [List.map_cons, PreviewNode.nodesIn, hx, hrest, allIn, List.map_append]

end

end Marked

/-! ### Marked previews -/

/-- A visitor gives what another one gives, with some part of it left out. -/
structure Visitor.Unmarks {m : Type → Type} [Monad m] {Item Item' Opened : Type}
    (v : Visitor m Item Opened) (w : Visitor m Item' Opened) (unmark : Item' → Item) : Prop where
  isDry : v.isDry = w.isDry
  report : ∀ entry, v.report entry = w.report entry
  enterFolder : ∀ name place, v.enterFolder name place = w.enterFolder name place
  leaveFolder : ∀ opened items, v.leaveFolder opened (items.map unmark) =
    Option.map unmark <$> w.leaveFolder opened items
  file : ∀ name f place env, v.file name f place env = Option.map unmark <$> w.file name f place env
  group : ∀ label place items, v.group label place (items.map unmark) =
    Option.map unmark <$> w.group label place items
  invalidName : ∀ kind place, v.invalidName kind place =
    Option.map unmark <$> w.invalidName kind place

/-- A plan gives what it gives to the other visitor, with that part left out. -/
lemma Visitor.Unmarks.perform {m : Type → Type} [Monad m] [LawfulMonad m]
    {Item Item' Opened : Type} {v : Visitor m Item Opened} {w : Visitor m Item' Opened}
    {unmark : Item' → Item} (h : v.Unmarks w unmark) (p : Plan) (place : Cursor) :
    p.perform v place = List.map unmark <$> p.perform w place := by
  have hrest (item : Option Item') (items : List Item') :
      (item.map unmark).toList ++ items.map unmark = (item.toList ++ items).map unmark := by
    cases item <;> rfl
  induction p generalizing place with
  | done => simp [Plan.perform]
  | report notice next ih => simp [Plan.perform, h.report, h.isDry, ih]
  | refused kind next ih => simp [Plan.perform, h.invalidName, ih, hrest]
  | file name f env next ih => simp [Plan.perform, h.file, ih, hrest]
  | folder name inside next ihInside ih =>
      have hopen : Plan.openFolder v name place (inside.perform v) =
          Option.map unmark <$> Plan.openFolder w name place (inside.perform w) := by
        simp only [Plan.openFolder, h.enterFolder, map_bind]
        congr 1
        funext opened
        cases opened with
        | none => simp
        | some opened => simp [ihInside, h.leaveFolder]
      simp [Plan.perform, hopen, ih, hrest]
  | group label inside next ihInside ih =>
      simp [Plan.perform, ihInside, h.group, ih, hrest]

/-- A mark of a visit on a node, with what is below it. -/
def mark (role : Role) (inside : List Marked) (node : PreviewNode) : Marked :=
  ⟨role, node, inside⟩

namespace Preview

/-- The visitor that judges what it visits, and marks each node with the visit. -/
def markedVisitor (s : Settings) : Visitor PreviewM Marked OpenedFolder where
  isDry := true
  report := report
  enterFolder := enterFolder
  leaveFolder := fun folder inside =>
    Option.map (mark .folder inside) <$> leaveFolder folder (inside.map Marked.node)
  file := fun name f place env => Option.map (mark .file []) <$> visitFile s name f place env
  group := fun label place inside =>
    Option.map (mark .group inside) <$> group label place (inside.map Marked.node)
  invalidName := fun kind place =>
    Option.map (mark .placeholder []) <$> (visitor s).invalidName kind place

/-- Without marks the nodes are those of the preview. -/
lemma visitor_unmarks (s : Settings) : (visitor s).Unmarks (markedVisitor s) Marked.node where
  isDry := rfl
  report _ := rfl
  enterFolder _ _ := rfl
  leaveFolder _ _ := by simp [markedVisitor, visitor, Function.comp_def, mark]
  file _ _ _ _ := by simp [markedVisitor, visitor, Function.comp_def, mark]
  group _ _ _ := by simp [markedVisitor, visitor, Function.comp_def, mark]
  invalidName _ _ := by simp [markedVisitor, Function.comp_def, mark]

end Preview

/-- A preview with its marked trees, and with what the walk comes to. -/
def markedPreview (s : Preview.Settings) (schema : Schema) (output : String) (scope : Scope) :
    Run (List Marked × List Encounter × Preview) := do
  let (trees, summary, met) ← (walk s.toWalkSettings (Preview.markedVisitor s).noting schema.root
    output scope).run ({}, [])
  return (trees, met, ⟨Preview.rootOf (trees.map Marked.node), summary⟩)

/-- A marked preview goes as the preview. -/
lemma markedPreview_alike (s : Preview.Settings) (schema : Schema) (output : String)
    (scope : Scope) :
    Run.Alike (fun r p => p = r.2.2) (markedPreview s schema output scope)
      (preview s schema output scope) := by
  have hwalk : walk s.toWalkSettings (Preview.visitor s) schema.root output scope =
      List.map Marked.node <$>
        walk s.toWalkSettings (Preview.markedVisitor s) schema.root output scope := by
    rw [walk_eq_perform, walk_eq_perform]
    exact (Preview.visitor_unmarks s).perform _ _
  have hnotes := noting_walk (Preview.markedVisitor s) s.toWalkSettings schema.root output scope
    ({}, []) {} rfl
  rw [preview, hwalk, StateT.run_map, map_eq_pure_bind, bind_assoc]
  refine hnotes.bind ?_
  rintro ⟨trees, summary, met⟩ ⟨_, _⟩ ⟨rfl, rfl⟩
  exact .done rfl

/-! ### The shape of trees -/

/-- Below a folder that is not the output folder a child is shown with the path in front. -/
lemma Cursor.shown_descend {place : Cursor} (hplace : place.relative ≠ "") (name : String) :
    (place.descend name).shown = place.shown ++ "/" ++ name := by
  simp [Cursor.descend, Cursor.shown, hplace]

/-- An accepted name is shown below the place. -/
lemma Cursor.relative_descend_ne (place : Cursor) (name : AcceptedName) :
    (place.descend name).relative ≠ "" := by
  have hname : name.1 ≠ "" := (Path.isName_of_check name.2).2.1
  unfold Cursor.descend
  dsimp only
  split_ifs
  · exact hname
  · simp

/-- Trees have the shape that a walk at some place gives them. -/
structure Grown (place : Cursor) (trees : List Marked) : Prop where
  children : ∀ x ∈ Marked.allIn trees, x.node.children = x.inside.map Marked.node
  /-- Groups have children, and nothing happens to them. -/
  groups : ∀ x ∈ Marked.allIn trees, x.role = .group →
    x.node.children ≠ [] ∧ x.node.action = .unchanged
  placeholders : ∀ x ∈ Marked.allIn trees, x.role = .placeholder → x.node.action = .skip
  /-- What no folder encloses is named by its place. -/
  atPlace : ∀ x ∈ Marked.outermostIn trees, x.isReal →
    x.node.path = (place.descend x.node.name).shown
  inFolder : ∀ f ∈ Marked.allIn trees, f.role = .folder →
    ∀ x ∈ Marked.outermostIn f.inside, x.isReal →
      x.node.path = f.node.path ++ "/" ++ x.node.name

namespace Grown

variable {place : Cursor} {trees more : List Marked}

lemma nil (place : Cursor) : Grown place [] :=
  ⟨by simp [Marked.allIn], by simp [Marked.allIn], by simp [Marked.allIn],
    by simp [Marked.outermostIn], by simp [Marked.allIn]⟩

lemma append (h : Grown place trees) (h' : Grown place more) : Grown place (trees ++ more) where
  children := by simpa [Marked.allIn_append, or_imp, forall_and] using ⟨h.children, h'.children⟩
  groups := by
    simpa only [Marked.allIn_append, List.forall_mem_append] using ⟨h.groups, h'.groups⟩
  placeholders := by
    simpa only [Marked.allIn_append, List.forall_mem_append] using
      ⟨h.placeholders, h'.placeholders⟩
  atPlace := by
    simpa only [Marked.outermostIn_append, List.forall_mem_append] using ⟨h.atPlace, h'.atPlace⟩
  inFolder := by
    simpa only [Marked.allIn_append, List.forall_mem_append] using ⟨h.inFolder, h'.inFolder⟩

/-- A node on top of trees that have the shape of some other place. -/
lemma single {x : Marked} {inner : Cursor} (h : Grown inner x.inside)
    (hchildren : x.node.children = x.inside.map Marked.node)
    (hgroup : x.role = .group → x.node.children ≠ [] ∧ x.node.action = .unchanged)
    (hplaceholder : x.role = .placeholder → x.node.action = .skip)
    (hplace : ∀ y ∈ Marked.outermostIn [x], y.isReal →
      y.node.path = (place.descend y.node.name).shown)
    (hfolder : x.role = .folder → ∀ y ∈ Marked.outermostIn x.inside, y.isReal →
      y.node.path = x.node.path ++ "/" ++ y.node.name) : Grown place [x] := by
  refine ⟨?_, ?_, ?_, hplace, ?_⟩ <;>
    simp only [Marked.allIn_singleton, List.forall_mem_cons]
  · exact ⟨hchildren, h.children⟩
  · exact ⟨hgroup, h.groups⟩
  · exact ⟨hplaceholder, h.placeholders⟩
  · exact ⟨hfolder, h.inFolder⟩

/-- A folder with an accepted name, and what is in it. -/
lemma folder {name : AcceptedName} {node : PreviewNode} {inside : List Marked} {inner : Cursor}
    (h : Grown inner inside) (hinner : inner.relative = (place.descend name).relative)
    (hname : node.name = name) (hpath : node.path = (place.descend name).shown)
    (hchildren : node.children = inside.map Marked.node) :
    Grown place [⟨.folder, node, inside⟩] := by
  have hne : inner.relative ≠ "" := hinner ▸ Cursor.relative_descend_ne place name
  have hshown : (place.descend name).shown = inner.shown := by
    rw [Cursor.shown, Cursor.shown, hinner]
  -- Inside, the walk goes on with the path of the folder in front.
  refine h.single hchildren (by simp) (by simp) ?_ fun _ x hx hreal => ?_
  · simp [Marked.outermostIn_singleton, hname, hpath]
  · rw [h.atPlace x hx hreal, Cursor.shown_descend hne, hpath, hshown]

/-- A file with an accepted name. -/
lemma file {name : AcceptedName} {node : PreviewNode} (hname : node.name = name)
    (hpath : node.path = (place.descend name).shown) (hchildren : node.children = []) :
    Grown place [⟨.file, node, []⟩] :=
  (nil place).single hchildren (by simp) (by simp)
    (by simp [Marked.outermostIn_singleton, hname, hpath]) (by simp)

/-- The node for a refused name. -/
lemma placeholder {node : PreviewNode} (haction : node.action = .skip)
    (hchildren : node.children = []) : Grown place [⟨.placeholder, node, []⟩] :=
  (nil place).single hchildren (by simp) (fun _ => haction)
    (by simp [Marked.outermostIn_singleton, Marked.isReal]) (by simp)

/-- A group with children. -/
lemma group {node : PreviewNode} {inside : List Marked} (h : Grown place inside)
    (haction : node.action = .unchanged) (hchildren : node.children = inside.map Marked.node)
    (hne : inside ≠ []) : Grown place [⟨.group, node, inside⟩] :=
  h.single hchildren (fun _ => ⟨by simpa [hchildren] using hne, haction⟩) (by simp)
    (by simpa [Marked.outermostIn_singleton] using h.atPlace) (by simp)

end Grown

/-! ### Counts -/

namespace Preview

/-- The counts of a summary: by action, and of all. -/
def tallies (t : PreviewSummary) : (PreviewAction → ℕ) × ℕ :=
  (counts t, t.totalItems)

/-- How many folders and files there are in some trees: by action, and in all. -/
def census (trees : List Marked) : (PreviewAction → ℕ) × ℕ :=
  let real := (Marked.allIn trees).filter Marked.isReal
  (fun action => real.countP (·.node.action = action), real.length)

lemma census_append (trees more : List Marked) :
    census (trees ++ more) = census trees + census more := by
  refine Prod.ext (funext fun action => ?_) ?_ <;> simp [census, Marked.allIn_append]

/-- A folder or file is one more of its action. -/
lemma census_real {x : Marked} (h : x.isReal) :
    census [x] = (Pi.single x.node.action 1, 1) + census x.inside := by
  refine Prod.ext (funext fun action => ?_) ?_
  · by_cases haction : x.node.action = action
    · subst haction
      simp [census, Marked.allIn_singleton, h, List.countP_cons, Nat.add_comm]
    · simp [census, Marked.allIn_singleton, h, List.countP_cons, haction]
  · simp [census, Marked.allIn_singleton, h, Nat.add_comm]

/-- Other nodes are not counted. -/
lemma census_of_not_real {x : Marked} (h : x.isReal = false) : census [x] = census x.inside := by
  simp [census, Marked.allIn_singleton, h]

/-- Whatever is replied, a program counts nothing; its result has some property. -/
abbrev Quiet {α : Type} (x : PreviewM α) (Q : α → Prop) : Prop :=
  Raises Creation.anyReply tallies () x 0 Q

section Quiet

variable {s : Settings} {name : String} {f : FileNode} {place : Cursor} {env : Environment}
  {node : PreviewNode}

lemma quiet_pure {α : Type} {a : α} {Q : α → Prop} (h : Q a) : Quiet (pure a) Q :=
  raises_pure h

lemma quiet_warn (message : String) : Quiet (warn message) fun _ => True :=
  raises_modify fun t => by rw [add_zero]; rfl

lemma quiet_warn_pure {α : Type} {a : α} {Q : α → Prop} (message : String) (h : Q a) :
    Quiet (do warn message; pure a) Q :=
  (quiet_warn message).andThen fun _ _ => quiet_pure h

lemma quiet_call (c : Call) : Quiet (liftM (Run.call c)) fun _ => True :=
  fun _ => ensures_call.mpr fun _ _ _ => ⟨trivial, (add_zero _).symm, rfl⟩

lemma quiet_report (entry : LogEntry) : Quiet (report entry) fun _ => True := by
  unfold report
  split
  · exact quiet_warn _
  · exact quiet_warn _
  · exact quiet_pure trivial
  · exact quiet_pure trivial

/-- A node is counted once by its action and once among all. -/
lemma raises_count (action : PreviewAction) :
    Raises Creation.anyReply tallies () (count action) (Pi.single action 1, 1) fun _ => True := by
  refine raises_modify fun t => Prod.ext (funext fun other => ?_) ?_
  · cases action <;> cases other <;> simp [tallies, counts]
  · cases action <;> simp [tallies]

lemma quiet_look : Quiet (look place) fun _ => True := by
  unfold look
  split_ifs
  · exact quiet_pure trivial
  · refine (quiet_call _).andThen fun reply _ => ?_
    match reply with
    | .ok entry => exact quiet_pure trivial
    | .error e => exact quiet_warn_pure _ trivial

/-- A folder that is opened has its name and place. -/
lemma quiet_enterFolder :
    Quiet (enterFolder name place) fun opened =>
      ∀ o ∈ opened, o.1.name = name ∧ o.1.path = place.shown := by
  unfold enterFolder
  refine quiet_look.andThen fun found _ => ?_
  split
  · exact quiet_pure (by simp)
  · split_ifs
    · exact quiet_pure (by simp)
    · exact quiet_warn_pure _ (by simp)

/-- What a node tells of its place and of what happens to it. -/
structure SameOutline (node node' : PreviewNode) : Prop where
  name : node'.name = node.name
  path : node'.path = node.path
  action : node'.action = node.action
  children : node'.children = node.children

lemma SameOutline.trans {a b c : PreviewNode} (h : SameOutline a b) (h' : SameOutline b c) :
    SameOutline a c :=
  ⟨h'.name.trans h.name, h'.path.trans h.path, h'.action.trans h.action,
    h'.children.trans h.children⟩

lemma quiet_describe : Quiet (describe s f place env node) fun r => SameOutline node r.1 := by
  have houtline {old new url} {binary : Bool} : SameOutline node
      { node with existingContent := old, newContent := new, url := url, isBinary := binary } :=
    ⟨rfl, rfl, rfl, rfl⟩
  unfold describe
  split
  · dsimp only
    split
    · exact quiet_warn_pure _ houtline
    · exact quiet_pure houtline
  · exact quiet_pure houtline
  · dsimp only
    split
    · exact quiet_warn_pure _ houtline
    · exact quiet_pure houtline

lemma quiet_compare (size : ℕ) (text : Option String) :
    Quiet (compare s size place text node) (SameOutline node) := by
  unfold compare
  split_ifs
  · exact quiet_pure ⟨rfl, rfl, rfl, rfl⟩
  · refine (quiet_call _).andThen fun reply _ => ?_
    split
    · exact quiet_warn_pure _ ⟨rfl, rfl, rfl, rfl⟩
    · split_ifs <;> exact quiet_pure ⟨rfl, rfl, rfl, rfl⟩

/-- A file is counted when it has been judged. -/
lemma raises_judgeFile (existing : Option Entry) :
    ∃ action, Raises Creation.anyReply tallies () (judgeFile s name f place env existing)
      (Pi.single action 1, 1)
      (SameOutline { kind := .file, name, path := place.shown, action }) := by
  have hjudge : ∀ (action : PreviewAction)
      (finish : PreviewNode × Option String → PreviewM PreviewNode),
      (∀ r, Quiet (finish r) (SameOutline r.1)) →
      Raises Creation.anyReply tallies () (do
        count action
        let r ← describe s f place env { kind := .file, name, path := place.shown, action }
        finish r) (Pi.single action 1, 1)
        (SameOutline { kind := .file, name, path := place.shown, action }) := by
    intro action finish hfinish
    rw [← add_zero (_, 1)]
    exact (raises_count action).bind fun _ _ => quiet_describe.andThen fun r hr =>
      (hfinish r).mono fun node hnode => hr.trans hnode
  have hkeep (r : PreviewNode × Option String) :
      Quiet (pure r.1 : PreviewM PreviewNode) (SameOutline r.1) :=
    quiet_pure ⟨rfl, rfl, rfl, rfl⟩
  cases existing with
  | none => exact ⟨.create, hjudge .create _ hkeep⟩
  | some entry =>
      unfold judgeFile
      split_ifs
      · exact ⟨.overwrite, hjudge .overwrite _ fun r => quiet_compare _ r.2⟩
      · exact ⟨.skip, hjudge .skip _ hkeep⟩

/-- A file that is shown has been counted. -/
lemma visitFile_counts (t : PreviewSummary) :
    Ensures Creation.anyReply (visitFile s name f place env) t () fun shown t' _ =>
      (shown = none ∧ tallies t' = tallies t) ∨
      ∃ node, shown = some node ∧ node.name = name ∧ node.path = place.shown ∧
        node.children = [] ∧ tallies t' = tallies t + (Pi.single node.action 1, 1) := by
  unfold visitFile
  rw [ensures_bind]
  refine (quiet_look t).mono ?_
  rintro existing t₁ _ ⟨-, hlook, -⟩
  rw [add_zero] at hlook
  split_ifs
  · refine (quiet_warn_pure _ (Q := (· = none)) rfl t₁).mono ?_
    rintro shown t₂ _ ⟨rfl, hwarn, -⟩
    exact .inl ⟨rfl, by rw [hwarn, hlook, add_zero]⟩
  · obtain ⟨action, hjudge⟩ := @raises_judgeFile s name f place env existing
    rw [ensures_bind]
    refine (hjudge t₁).mono ?_
    rintro node t₂ _ ⟨houtline, hcount, -⟩
    refine ensures_pure.mpr (.inr ⟨node, rfl, houtline.name, houtline.path, houtline.children, ?_⟩)
    rw [hcount, hlook, houtline.action]

end Quiet

/-! ### Plans -/

/-- How many names were refused. -/
def refusals (met : List Encounter) : ℕ :=
  met.countP Encounter.isRefused

/-- Trees were grown at a place: their folders and files are counted, and there is a
placeholder for each name that was refused meanwhile. -/
structure Drawn (place : Cursor) (t t' : PreviewSummary × List Encounter) (trees : List Marked) :
    Prop where
  grown : Grown place trees
  counted : tallies t'.1 = tallies t.1 + census trees
  refused : refusals t'.2 = refusals t.2 +
    (Marked.allIn trees).countP (·.role = .placeholder)

section Drawn

variable {s : Settings} {place : Cursor} {t t' t'' : PreviewSummary × List Encounter}
  {trees more : List Marked}

/-- Nothing was grown. -/
lemma Drawn.nil (hcounted : tallies t'.1 = tallies t.1) (hrefused : refusals t'.2 = refusals t.2) :
    Drawn place t t' [] where
  grown := .nil place
  counted := hcounted
  refused := hrefused

lemma Drawn.append (h : Drawn place t t' trees) (h' : Drawn place t' t'' more) :
    Drawn place t t'' (trees ++ more) where
  grown := h.grown.append h'.grown
  counted := by rw [h'.counted, h.counted, census_append, add_assoc]
  refused := by
    rw [h'.refused, h.refused, Marked.allIn_append, List.countP_append]
    omega

/-- A folder or file is counted after what is in it. -/
lemma Drawn.real {x : Marked} {inner : Cursor} (h : Drawn inner t t' x.inside)
    (hgrown : Grown place [x]) (hreal : x.isReal)
    (hcounted : tallies t''.1 = tallies t'.1 + (Pi.single x.node.action 1, 1))
    (hrefused : refusals t''.2 = refusals t'.2) : Drawn place t t'' [x] where
  grown := hgrown
  counted := by rw [hcounted, h.counted, census_real hreal, add_assoc, add_comm (census _)]
  refused := by
    have hrole : x.role ≠ .placeholder := by
      rintro hrole
      simp [Marked.isReal, hrole] at hreal
    rw [hrefused, h.refused, Marked.allIn_singleton, List.countP_cons_of_neg (by simpa using hrole)]

/-- A group is not counted. -/
lemma Drawn.group {node : PreviewNode} (h : Drawn place t t' trees)
    (hgrown : Grown place [⟨.group, node, trees⟩]) : Drawn place t t' [⟨.group, node, trees⟩] where
  grown := hgrown
  counted := by rw [h.counted, census_of_not_real (by rfl)]
  refused := by rw [h.refused, Marked.allIn_singleton, List.countP_cons_of_neg (by simp)]

/-- A program grows trees at a place. -/
def Draws (place : Cursor) (x : StateT (PreviewSummary × List Encounter) Run (List Marked)) :
    Prop :=
  ∀ t, Ensures Creation.anyReply x t () fun trees t' _ => Drawn place t t' trees

/-- One visit and then the rest of a plan. -/
lemma Draws.andThen {x : StateT (PreviewSummary × List Encounter) Run (Option Marked)}
    {rest : StateT (PreviewSummary × List Encounter) Run (List Marked)}
    (hrest : Draws place rest)
    (hx : Ensures Creation.anyReply x t' () fun item t'' _ => Drawn place t t'' item.toList) :
    Ensures Creation.anyReply (do let item ← x; let items ← rest; pure (item.toList ++ items)) t' ()
      fun trees t'' _ => Drawn place t t'' trees := by
  refine ensures_items.mpr (hx.mono fun item t₁ _ hitem => ?_)
  exact (hrest t₁).mono fun items t₂ _ hitems => hitem.append hitems

/-- A refused name gets a placeholder. -/
lemma invalidName_draws (kind : ItemKind) (t : PreviewSummary × List Encounter) :
    Ensures Creation.anyReply ((markedVisitor s).noting.invalidName kind place) t ()
      fun item t' _ => Drawn place t t' item.toList := by
  refine ensures_note_framed.mpr (ensures_map.mpr ?_)
  refine ensures_pure.mpr ⟨.placeholder rfl rfl, ?_, ?_⟩
  · exact (add_zero _).symm
  · simp [refusals, Encounter.isRefused, Marked.allIn_singleton, mark, Marked.allIn]

/-- A file is grown where it is counted. -/
lemma file_draws (name : AcceptedName) (f : FileNode) (env : Environment)
    (t : PreviewSummary × List Encounter) :
    Ensures Creation.anyReply ((markedVisitor s).noting.file name f (place.descend name) env) t ()
      fun item t' _ => Drawn place t t' item.toList := by
  refine ensures_note_framed.mpr (ensures_map.mpr ?_)
  refine (visitFile_counts t.1).mono ?_
  rintro shown t' _ (⟨rfl, hcounted⟩ | ⟨node, rfl, hname, hpath, hchildren, hcounted⟩)
  · exact .nil hcounted (by simp [refusals, Encounter.isRefused])
  · have hgrown : Grown place [⟨.file, node, []⟩] := .file hname hpath hchildren
    have hempty : Drawn place t t [] := .nil rfl rfl
    exact hempty.real hgrown rfl hcounted (by simp [refusals, Encounter.isRefused])

/-- A folder is grown from what is in it, and then counted. -/
lemma openFolder_draws (name : AcceptedName)
    {walkChildren : Cursor → StateT (PreviewSummary × List Encounter) Run (List Marked)}
    (hinside : ∀ inner, Draws inner (walkChildren inner)) (t : PreviewSummary × List Encounter) :
    Ensures Creation.anyReply (Plan.openFolder (markedVisitor s).noting name place walkChildren) t
      () fun item t' _ => Drawn place t t' item.toList := by
  rw [Plan.openFolder, ensures_bind]
  refine ensures_note_framed.mpr ?_
  refine (quiet_enterFolder t.1).mono ?_
  rintro opened t₁ _ ⟨hopened, hcounted, -⟩
  rw [add_zero] at hcounted
  have hrefused : refusals (t.2 ++ [.folder name (place.descend name)]) = refusals t.2 := by
    simp [refusals, Encounter.isRefused]
  cases opened with
  | none => exact ensures_pure.mpr (.nil hcounted hrefused)
  | some opened =>
      obtain ⟨hname, hpath⟩ := hopened opened rfl
      -- A folder is counted on the way out, by the action it was opened with.
      rw [ensures_bind]
      refine (hinside _ _).mono fun inside t₂ _ hdrawn => ?_
      refine ensures_framed.mpr (ensures_map.mpr ?_)
      refine ensures_bind.mpr ((raises_count _ t₂.1).mono ?_)
      rintro _ t₃ _ ⟨-, hcount, -⟩
      have hentered (inner : Cursor) :
          Drawn inner t (t₁, t.2 ++ [.folder name (place.descend name)]) [] :=
        .nil hcounted hrefused
      refine ensures_pure.mpr ?_
      exact ((hentered _).append hdrawn).real (.folder hdrawn.grown rfl hname hpath rfl) rfl hcount
        rfl

/-- A group is grown from what is in it, if there is anything. -/
lemma group_draws (label : String) {inside : List Marked} (h : Drawn place t t' inside) :
    Ensures Creation.anyReply ((markedVisitor s).noting.group label place inside) t' ()
      fun item t'' _ => Drawn place t t'' item.toList := by
  refine ensures_framed.mpr (ensures_map.mpr ?_)
  unfold group
  split_ifs with hempty
  · obtain rfl : inside = [] := by simpa using hempty
    exact ensures_pure.mpr h
  · exact ensures_pure.mpr (h.group (h.grown.group rfl rfl (by simpa using hempty)))

/-- **A plan grows trees** and counts their folders and files, whatever is replied. -/
theorem perform_draws (p : Plan) (place : Cursor) :
    Draws place (p.perform (markedVisitor s).noting place) := by
  induction p generalizing place with
  | done => exact fun t => ensures_pure.mpr (.nil rfl rfl)
  | report notice next ih =>
      intro t
      rw [Plan.perform, ensures_bind]
      refine ensures_framed.mpr ((quiet_report _ t.1).mono ?_)
      rintro _ t₁ _ ⟨-, hcounted, -⟩
      rw [add_zero] at hcounted
      have hreport : Drawn place t (t₁, t.2) [] := .nil hcounted rfl
      exact (ih place _).mono fun trees t₂ _ htrees => hreport.append htrees
  | refused kind next ih => exact fun t => (ih place).andThen (invalidName_draws kind t)
  | file name f env next ih => exact fun t => (ih place).andThen (file_draws name f env t)
  | folder name inside next ihInside ih =>
      exact fun t => (ih place).andThen (openFolder_draws name ihInside t)
  | group label inside next ihInside ih =>
      intro t
      rw [Plan.perform, ensures_bind]
      exact (ihInside place t).mono fun children t₁ _ hchildren =>
        (ih place).andThen (group_draws label hchildren)

end Drawn

/-- What is counted of a node that is neither skipped nor unchanged are folders and files. -/
lemma countP_of_change {place : Cursor} {trees : List Marked} (h : Grown place trees)
    {action : PreviewAction} (hskip : action ≠ .skip) (hunchanged : action ≠ .unchanged) :
    (Marked.allIn trees).countP (·.node.action = action) = (census trees).1 action := by
  dsimp only [census]
  rw [List.countP_filter]
  refine List.countP_congr fun x hx => ?_
  have hreal : x.node.action = action → x.isReal := by
    rintro rfl
    cases hrole : x.role with
    | folder => simp [Marked.isReal, hrole]
    | file => simp [Marked.isReal, hrole]
    | group => exact absurd (h.groups x hx hrole).2 hunchanged
    | placeholder => exact absurd (h.placeholders x hx hrole) hskip
  simpa using hreal

/-- Skipped nodes are files and placeholders. -/
lemma countP_skip {place : Cursor} {trees : List Marked} (h : Grown place trees) :
    (Marked.allIn trees).countP (·.node.action = .skip) =
      (census trees).1 .skip + (Marked.allIn trees).countP (·.role = .placeholder) := by
  rw [List.countP_eq_countP_filter_add _ _ Marked.isReal]
  refine congrArg _ ?_
  rw [List.countP_filter]
  refine List.countP_congr fun x hx => ?_
  cases hrole : x.role with
  | folder => simp [Marked.isReal, hrole]
  | file => simp [Marked.isReal, hrole]
  | group => simp [(h.groups x hx hrole).2]
  | placeholder => simp [Marked.isReal, hrole, h.placeholders x hx hrole]

/-- Every folder or file has one of four actions. -/
lemma census_total (trees : List Marked) :
    (census trees).2 = (census trees).1 .create + (census trees).1 .overwrite +
      (census trees).1 .skip + (census trees).1 .unchanged := by
  have hsum (nodes : List Marked) : nodes.length =
      nodes.countP (·.node.action = .create) + nodes.countP (·.node.action = .overwrite) +
        nodes.countP (·.node.action = .skip) + nodes.countP (·.node.action = .unchanged) := by
    induction nodes with
    | nil => rfl
    | cons x rest ih =>
        rw [List.length_cons, ih]
        cases haction : x.node.action <;> simp [haction] <;> omega
  exact hsum _

/-- The root of a tree is not skipped, created or overwritten itself, if it stands for the
output. -/
lemma countP_rootOf (trees : List PreviewNode) {action : PreviewAction}
    (h : action ≠ .unchanged) :
    (rootOf trees).nodes.countP (·.action = action) =
      (PreviewNode.nodesIn trees).countP (·.action = action) := by
  unfold rootOf
  split
  · simp [PreviewNode.nodesIn]
  · rw [PreviewNode.nodes_eq, List.countP_cons_of_neg (by simpa using h.symm)]

end Preview

/-- The marked trees of a preview are grown at the output folder. -/
lemma markedPreview_draws (s : Preview.Settings) (schema : Schema) (output : String)
    (scope : Scope) :
    (markedPreview s schema output scope).Ensures Creation.anyReply (fun r _ =>
      Preview.Drawn { path := output } ({}, []) (r.2.2.summary, r.2.1) r.1 ∧
        r.2.2.root = Preview.rootOf (r.1.map Marked.node)) () := by
  rw [markedPreview, walk_eq_perform, ensures_run]
  exact (Preview.perform_draws _ _ _).mono fun trees t _ hdrawn => ⟨hdrawn, rfl⟩

/-- **The tree of a preview agrees with its summary**, whatever the host replies. Nodes that
are created or overwritten are counted as such. Nodes that are skipped are counted too, except
for the placeholders of refused names. All that is counted is counted by what happens to it. A
folder or file in another folder has the path of that folder in front of its name, whatever
groups are in between, and groups have children. -/
theorem preview_tree_agrees_with_summary (s : Preview.Settings) (schema : Schema)
    (output : String) (scope : Scope) {σ : Type} (host : Host (StateM σ)) (st : σ) :
    let p := ((preview s schema output scope).on host st).1
    ∃ trees met, ((markedPreview s schema output scope).on host st).1 = (trees, met, p) ∧
      p.root = Preview.rootOf (trees.map Marked.node) ∧
      (∀ x ∈ Marked.allIn trees, x.node.children = x.inside.map Marked.node) ∧
      p.root.nodes.countP (·.action = .create) = p.summary.creates ∧
      p.root.nodes.countP (·.action = .overwrite) = p.summary.overwrites ∧
      p.root.nodes.countP (·.action = .skip) =
        p.summary.skips + met.countP Encounter.isRefused ∧
      p.summary.totalItems = p.summary.creates + p.summary.overwrites + p.summary.skips +
        p.summary.unchangedFolders ∧
      (∀ f ∈ Marked.allIn trees, f.role = .folder → ∀ x ∈ Marked.outermostIn f.inside, x.isReal →
        x.node.path = f.node.path ++ "/" ++ x.node.name) ∧
      ∀ g ∈ Marked.allIn trees, g.role = .group → g.node.children ≠ [] := by
  intro p
  have hany : host.Within (fun _ => ()) Creation.anyReply := fun _ _ => trivial
  obtain ⟨hdrawn, hroot⟩ := hany.on (s := st) (markedPreview_draws s schema output scope)
  have hp : p = ((markedPreview s schema output scope).on host st).1.2.2 :=
    ((markedPreview_alike s schema output scope).on host st).1
  rw [← hp] at hdrawn hroot
  -- From here on only the trees, what was met and the preview itself matter, not their run.
  generalize hrun : ((markedPreview s schema output scope).on host st).1 = run at *
  obtain ⟨trees, met, marked⟩ := run
  have hgrown := hdrawn.grown
  have hstart : Preview.tallies {} = 0 :=
    Prod.ext (funext fun action => by cases action <;> rfl) rfl
  have hcensus : Preview.tallies p.summary = Preview.census trees := by
    rw [hdrawn.counted, hstart, zero_add]
  have hcounts (action : PreviewAction) :
      Preview.counts p.summary action = (Preview.census trees).1 action :=
    congrFun (congrArg Prod.fst hcensus) action
  have hrefused : met.countP Encounter.isRefused =
      (Marked.allIn trees).countP (·.role = .placeholder) := by
    simpa [Preview.refusals] using hdrawn.refused
  have hnodes {action : PreviewAction} (h : action ≠ .unchanged) :
      p.root.nodes.countP (·.action = action) =
        (Marked.allIn trees).countP (·.node.action = action) := by
    rw [hroot, Preview.countP_rootOf _ h, Marked.nodesIn_of_children trees hgrown.children,
      List.countP_map]
    rfl
  refine ⟨trees, met, ?_, hroot, hgrown.children, ?_, ?_, ?_, ?_, hgrown.inFolder,
    fun g hg hrole => (hgrown.groups g hg hrole).1⟩
  · rw [hp]
  · rw [hnodes (by simp), Preview.countP_of_change hgrown (by simp) (by simp)]
    exact (hcounts .create).symm
  · rw [hnodes (by simp), Preview.countP_of_change hgrown (by simp) (by simp)]
    exact (hcounts .overwrite).symm
  · rw [hnodes (by simp), Preview.countP_skip hgrown, hrefused]
    exact congrArg (· + _) (hcounts .skip).symm
  · calc p.summary.totalItems = (Preview.census trees).2 := congrArg Prod.snd hcensus
      _ = _ := Preview.census_total trees
      _ = _ := by simp only [← hcounts]; rfl

end Scaffold

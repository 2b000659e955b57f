import Mathlib.Tactic
import Scaffold.Check

/-!
The nodes of a schema, each with what encloses it.

* A `Site` is a node below the nodes that enclose it. `Node.sites` lists the sites of a tree in
  the order of the schema;
* `Site.path` is the path of a site, and `Node.Binds` says which names a repetition sets;
* `Node.siblings_induction`: what holds of siblings if it holds of what is below the first of
  them and of the others, holds of all siblings;
* `childFindings_eq`: what is below a node is looked at in one way, whatever the node is;
* `listFindings_forall`: a check finds nothing but what it finds in single nodes and lists that
  nest too deep.
-/

namespace Scaffold

open Text Variable

/-! ### Sites -/

/-- A node, and the nodes that enclose it, from the root on. -/
structure Site where
  above : List Node
  node : Node

/-- How deep a site lies; the root is at zero. -/
def Site.depth (site : Site) : ℕ := site.above.length

mutual

/-- The sites of a tree below some nodes: each node comes before what is in it. -/
def Node.sites (above : List Node) (node : Node) : List Site :=
  ⟨above, node⟩ :: match node with
    | .folder name children attributes =>
      Node.listSites (above ++ [.folder name children attributes]) children
    | .file _ => []
    | .branch condition children => Node.listSites (above ++ [.branch condition children]) children
    | .otherwise children => Node.listSites (above ++ [.otherwise children]) children
    | .loop count item children => Node.listSites (above ++ [.loop count item children]) children

/-- The sites of some trees side by side. -/
def Node.listSites (above : List Node) : List Node → List Site
  | [] => []
  | node :: rest => node.sites above ++ Node.listSites above rest

end

namespace Node

variable {above : List Node}

lemma sites_eq (above : List Node) (node : Node) :
    node.sites above = ⟨above, node⟩ :: listSites (above ++ [node]) node.children := by
  cases node with
  | folder | branch | otherwise | loop => rw [sites]; rfl
  | file f => rw [sites]; rfl

lemma listSites_cons (above : List Node) (node : Node) (rest : List Node) :
    listSites above (node :: rest) =
      ⟨above, node⟩ :: (listSites (above ++ [node]) node.children ++ listSites above rest) := by
  rw [listSites, sites_eq, List.cons_append]

lemma sizeOf_children_le (node : Node) : sizeOf node.children ≤ sizeOf node := by
  cases node <;> simp only [children, folder.sizeOf_spec, file.sizeOf_spec, branch.sizeOf_spec,
    otherwise.sizeOf_spec, loop.sizeOf_spec, List.nil.sizeOf_spec] <;> omega

/-- **Induction over siblings** and what is below them. -/
theorem siblings_induction {P : List Node → Prop} (nil : P [])
    (cons : ∀ node rest, P node.children → P rest → P (node :: rest)) (nodes : List Node) :
    P nodes := by
  match nodes with
  | [] => exact nil
  | node :: rest =>
      exact cons node rest (siblings_induction nil cons node.children)
        (siblings_induction nil cons rest)
termination_by sizeOf nodes
decreasing_by
  · have := sizeOf_children_le node
    simp only [List.cons.sizeOf_spec]
    omega
  · simp

/-- What is below some nodes lies at least as deep as there are such nodes. -/
lemma le_depth_of_mem_listSites {nodes : List Node} {site : Site}
    (h : site ∈ listSites above nodes) : above.length ≤ site.depth := by
  induction nodes using siblings_induction generalizing above with
  | nil => simp [listSites] at h
  | cons node rest ihChildren ihRest =>
      rw [listSites_cons, List.mem_cons, List.mem_append] at h
      rcases h with rfl | hchild | hrest
      · exact le_rfl
      · have := ihChildren hchild
        rw [List.length_append] at this
        omega
      · exact ihRest hrest

lemma mem_listSites_of_mem {nodes : List Node} {node : Node} {site : Site}
    (hnode : node ∈ nodes) (hsite : site ∈ node.sites above) : site ∈ listSites above nodes := by
  induction nodes with
  | nil => simp at hnode
  | cons first rest ih =>
      rw [listSites, List.mem_append]
      rcases List.mem_cons.mp hnode with rfl | hnode
      · exact .inl hsite
      · exact .inr (ih hnode)

lemma mem_sites_of_mem_children {node child : Node} {site : Site}
    (hchild : child ∈ node.children) (hsite : site ∈ child.sites (above ++ [node])) :
    site ∈ node.sites above := by
  rw [sites_eq]
  exact List.mem_cons_of_mem _ (mem_listSites_of_mem hchild hsite)

/-- The nodes of a list are among its sites. -/
lemma mk_mem_listSites {nodes : List Node} {node : Node} (h : node ∈ nodes) :
    ⟨above, node⟩ ∈ listSites above nodes :=
  mem_listSites_of_mem h (sites_eq above node ▸ List.mem_cons_self)

end Node

namespace Check

/-! ### Paths and names that are set -/

/-- The path of what is in a node, from that of the node's own list. -/
def pathBelow (path : String) (node : Node) : String :=
  match node with
  | .folder .. | .loop .. => childPath path (label node)
  | .file _ | .branch .. | .otherwise _ => path

/-- The context in the body of a node. -/
def Context.below (c : Context) (node : Node) : Context :=
  match node with
  | .loop _ item _ => c.inLoop item
  | .folder .. | .file _ | .branch .. | .otherwise _ => c

@[simp]
lemma Context.below_limits (c : Context) (node : Node) : (c.below node).limits = c.limits := by
  cases node <;> rfl

@[simp]
lemma Context.below_given (c : Context) (node : Node) : (c.below node).given = c.given := by
  cases node <;> rfl

end Check

/-- Where the path of a site starts. -/
def Site.parent (site : Site) : String := site.above.foldl Check.pathBelow ""

/-- The path of a site. -/
def Site.path (site : Site) : String := Check.childPath site.parent (Check.label site.node)

/-- A repetition sets its variable, in capitals, and the one that counts from one. -/
def Node.Binds (name : String) : Node → Prop
  | .loop _ item _ =>
    name = String.ofList (upper (trim item.toList)) ∨
      name = String.ofList (upper (trim item.toList)) ++ "_1"
  | _ => False

instance (name : String) : DecidablePred (Node.Binds name)
  | .loop .. => inferInstanceAs (Decidable (_ ∨ _))
  | .folder .. | .file _ | .branch .. | .otherwise _ => inferInstanceAs (Decidable False)

/-! ### Findings -/

/-- What is found in a single node: no nesting that is too deep, and no issue about a variable
that is not set, which is noted apart. -/
def Finding.IsOwn : Finding → Prop
  | .error i | .warning i => i.kind ≠ .depthExceeded ∧ i.kind ≠ .undefinedVariable
  | .undefined _ _ => True

namespace Check

variable {c : Context}

/-- What is in a node is a list that nests too deep, or is looked at; nothing is in a file. -/
lemma childFindings_eq (c : Context) (node : Node) (parent : String) (depth : ℕ) :
    childFindings c node parent depth =
      if c.limits.maxDepth < depth then [depthFinding c (pathBelow parent node)]
      else listFindings (c.below node) node.children (pathBelow parent node) depth [] false := by
  cases node with
  | file f => rw [childFindings]; rfl
  | folder | branch | otherwise | loop => rw [childFindings]; rfl

lemma listFindings_cons (c : Context) (node : Node) (rest : List Node) (parent : String)
    (depth : ℕ) (seen : List String) (afterIf : Bool) :
    listFindings c (node :: rest) parent depth seen afterIf =
      let own := ownFindings c node (childPath parent (label node)) seen afterIf
      own.1 ++ childFindings c node parent (depth + 1) ++
        listFindings c rest parent depth own.2 (isBranch node) := by
  rw [listFindings]

lemma undefinedAmong_isOwn (path : String) (names : List String) :
    ∀ f ∈ undefinedAmong c path names, f.IsOwn := by
  intro f hf
  obtain ⟨name, -, rfl⟩ := List.mem_map.mp hf
  trivial

lemma nameFindings_isOwn (raw path : String) (seen : List String) :
    ∀ f ∈ (nameFindings c raw path seen).1, f.IsOwn := by
  have hunset := undefinedAmong_isOwn (c := c) path (referenced raw)
  rw [nameFindings]
  split
  · exact hunset
  · split
    · exact List.forall_mem_append.mpr ⟨hunset, by simp [error, issue, Finding.IsOwn]⟩
    · split_ifs
      · exact hunset
      · exact List.forall_mem_append.mpr ⟨hunset, by simp [error, issue, Finding.IsOwn]⟩
      · exact hunset

lemma templateFindings_isOwn (path content : String) :
    ∀ f ∈ templateFindings c path content, f.IsOwn := by
  rw [templateFindings, List.forall_mem_append]
  constructor
  · split <;> simp [warning, issue, Finding.IsOwn]
  · exact undefinedAmong_isOwn path _

lemma sourceFindings_isOwn (file : FileNode) (path : String) :
    ∀ f ∈ sourceFindings c file path, f.IsOwn := by
  rw [sourceFindings]
  split
  · split <;> simp [error, issue, Finding.IsOwn]
  · dsimp only
    split_ifs <;> simp [warning, issue, Finding.IsOwn]
  · simp

lemma fileFindings_isOwn (file : FileNode) (path : String) :
    ∀ f ∈ fileFindings c file path, f.IsOwn := by
  simp only [fileFindings, List.forall_mem_append]
  refine ⟨⟨⟨fun f hf => ?_, ?_⟩, ?_⟩, sourceFindings_isOwn file path⟩
  · obtain ⟨text, -, hf⟩ := List.mem_flatMap.mp hf
    exact undefinedAmong_isOwn path (referenced text) f hf
  · split_ifs
    · cases file.content with
      | none => simp
      | some content => exact templateFindings_isOwn path content
    · simp
  · split_ifs <;> simp [warning, issue, Finding.IsOwn]

lemma loopFindings_isOwn (count item path : String) :
    ∀ f ∈ loopFindings c count item path, f.IsOwn := by
  simp only [loopFindings, List.forall_mem_append]
  refine ⟨⟨undefinedAmong_isOwn path (referenced count), ?_⟩, ?_⟩
  · split <;> simp [error, issue, Finding.IsOwn]
  · split <;> simp [error, warning, issue, Finding.IsOwn]

lemma ownFindings_isOwn (c : Context) (node : Node) (path : String) (seen : List String)
    (afterIf : Bool) : ∀ f ∈ (ownFindings c node path seen afterIf).1, f.IsOwn := by
  cases node with
  | folder name children attributes => exact nameFindings_isOwn name path seen
  | file f =>
      exact List.forall_mem_append.mpr ⟨nameFindings_isOwn f.name path seen,
        fileFindings_isOwn f path⟩
  | branch condition children => exact undefinedAmong_isOwn path _
  | otherwise children =>
      rw [ownFindings]
      split_ifs <;> simp [warning, issue, Finding.IsOwn]
  | loop count item children => exact loopFindings_isOwn count item path

/-- **A check finds nothing else** than what it finds in single nodes, and lists that nest too
deep. -/
theorem listFindings_forall {P : Finding → Prop}
    (hown : ∀ (c : Context) node path seen afterIf, ∀ f ∈ (ownFindings c node path seen afterIf).1,
      P f)
    (hdepth : ∀ c path, P (depthFinding c path)) (nodes : List Node) (c : Context)
    (parent : String) (depth : ℕ) (seen : List String) (afterIf : Bool) :
    ∀ f ∈ listFindings c nodes parent depth seen afterIf, P f := by
  induction nodes using Node.siblings_induction generalizing c parent depth seen afterIf with
  | nil => simp [listFindings]
  | cons node rest ihChildren ihRest =>
      rw [listFindings_cons, List.append_assoc, List.forall_mem_append, List.forall_mem_append]
      refine ⟨hown c node _ seen afterIf, ?_, ihRest c parent depth _ _⟩
      rw [childFindings_eq]
      split_ifs
      · simpa using hdepth c (pathBelow parent node)
      · exact ihChildren (c.below node) _ _ _ _

end Check

end Scaffold

import Mathlib.Tactic
import Scaffold.Document.Schema
import Scaffold.Proofs.Dictionary
import Scaffold.Proofs.WrittenValues

/-!
Schemas are read as they were written.

* `Node.levels`: how deep nodes nest. The value of a node nests twice as deep at most;
* `Fields`: members that are left out without a value, as an object lists them. `parts?_fields`
  finds each of them again, and none that was left out;
* `Node.ofValueWithin_toValue`: a node is read from its value, child by child;
* `readSchema_written`: hence a document gives the schema that it was written from, and the document
  of a node alone gives a schema without commands.
-/

namespace Scaffold

open Json Document

/-! ### Objects with optional members -/

/-- The members of some fields, where those without a value are left out. -/
def Json.Value.ofFields (fields : List (String × Option Value)) : List (String × Value) :=
  fields.flatMap fun f => Value.optional f.1 f.2

section Fields

variable {fields : List (String × Option Value)} {spellings : List (List String)}

lemma filter_ofFields (p : String → Bool) :
    (Value.ofFields fields).filter (fun m => p m.1) =
      Value.ofFields (fields.filter fun f => p f.1) := by
  induction fields with
  | nil => rfl
  | cons f fields ih =>
      obtain ⟨name, v⟩ := f
      cases v <;> by_cases hp : p name <;>
        simp_all [Value.ofFields, Value.optional]

lemma mem_ofFields {m : String × Value} :
    m ∈ Value.ofFields fields ↔ (m.1, some m.2) ∈ fields := by
  obtain ⟨name, v⟩ := m
  simp only [Value.ofFields, Value.optional, List.mem_flatMap, Option.mem_toList,
    Option.map_eq_some_iff, Prod.mk.injEq]
  constructor
  · rintro ⟨⟨_, _⟩, hf, w, rfl, rfl, rfl⟩
    exact hf
  · exact fun h => ⟨_, h, v, rfl, rfl, rfl⟩

/-- The parts of an object are those of its fields. -/
lemma parts?_ofFields
    (h : ∀ names ∈ spellings, (fields.filter fun f => names.contains f.1).length ≤ 1) :
    parts? spellings (.object (Value.ofFields fields)) =
      some (spellings.map fun names =>
        (fields.find? fun f => names.contains f.1).bind Prod.snd) := by
  rw [parts?]
  induction spellings with
  | nil => rfl
  | cons names spellings ih =>
      have hone := h names (by simp)
      have hmore := ih fun names' hnames => h names' (List.mem_cons_of_mem names hnames)
      rw [List.mapM_cons, hmore, filter_ofFields (fun name => names.contains name),
        List.map_cons, ← List.head?_filter]
      generalize fields.filter (fun f => names.contains f.1) = found at hone
      obtain _ | ⟨⟨name, v⟩, _ | _⟩ := found
      · rfl
      · cases v <;> rfl
      · simp at hone

/-- The kind of a node is the member `type` of its object. -/
lemma splitKind?_ofFields {kind : NodeKind} (h : ∀ f ∈ fields, f.1 ≠ "type") :
    splitKind? (.object (Value.ofFields (("type", some (.text kind.name)) :: fields))) =
      some (kind, .object (Value.ofFields fields)) := by
  have hkind : NodeKind.ofValue? (.text kind.name) = some kind := by cases kind <;> decide
  have htype : (Value.ofFields (("type", some (.text kind.name)) :: fields)).filter
      (fun m => m.1 == "type") = [("type", .text kind.name)] := by
    rw [filter_ofFields (· == "type"), List.filter_cons_of_pos (by simp),
      List.filter_eq_nil_iff.mpr (by simpa using h)]
    rfl
  have hrest : (Value.ofFields (("type", some (.text kind.name)) :: fields)).filter
      (fun m => m.1 != "type") = Value.ofFields fields := by
    rw [filter_ofFields (· != "type"), List.filter_cons_of_neg (by simp),
      List.filter_eq_self.mpr (by simpa using h)]
  rw [splitKind?, htype, hrest]
  simp only [hkind, Option.map_some]

end Fields

/-! ### Lists and dictionaries -/

lemma mapM_map_eq_some {α β : Type} {f : α → β} {g : β → Option α} {as : List α}
    (h : ∀ a ∈ as, g (f a) = some a) : (as.map f).mapM g = some as := by
  induction as with
  | nil => rfl
  | cons a as ih =>
      rw [List.map_cons, List.mapM_cons, h a (by simp), ih fun b hb => h b (by simp [hb])]
      rfl

lemma listOf_map {α : Type} {f : α → Value} {decode : Value → Option α} {as : List α}
    (h : ∀ a ∈ as, decode (f a) = some a) : listOf decode (.array (as.map f)) = some as :=
  mapM_map_eq_some h

/-- The value of some attributes, if there are any. -/
def attributeValue? (attributes : Dictionary String String) : Option Value :=
  if attributes.isEmpty then none else some (Value.ofTexts attributes.entries)

lemma attributeMembers_eq (attributes : Dictionary String String) :
    attributeMembers attributes = Value.optional "attributes" (attributeValue? attributes) := by
  unfold attributeMembers attributeValue?
  split_ifs <;> rfl

lemma attributes?_attributeValue? {attributes : Dictionary String String}
    (h : attributes.Ascending) : attributes? (attributeValue? attributes) = some attributes := by
  unfold attributeValue?
  split_ifs with hempty
  · obtain ⟨entries⟩ := attributes
    obtain rfl : entries = [] := List.isEmpty_iff.mp hempty
    rfl
  · have htexts : (attributes.entries.map fun p => (p.1, Value.text p.2)).mapM
        (fun m => (m.2.text?).map fun a => (m.1, a)) = some attributes.entries :=
      mapM_map_eq_some fun _ _ => rfl
    simp only [attributes?, orDefault, tableOf, Value.ofTexts, Value.object?, Option.bind_some,
      htexts, Option.map_some, h.ofList_entries]

/-! ### Nodes -/

/-- The members of a file, with those that are left out. -/
def FileNode.fields (f : FileNode) : List (String × Option Value) :=
  [("name", some (.text f.name)), ("content", f.content.map .text), ("url", f.url.map .text),
    ("generate", f.generate.map fun kind => .text kind.name),
    ("generate_config", f.generateConfig.map .text), ("template", f.template.map .bool),
    ("attributes", attributeValue? f.attributes)]

lemma FileNode.members_eq (f : FileNode) : f.members = Value.ofFields f.fields := by
  simp [FileNode.members, FileNode.fields, Value.ofFields, attributeMembers_eq, Value.optional]

/-- A member that may be left out is read again. -/
lemma orNull_map {α : Type} {f : α → Value} {decode : Value → Option α} {a : Option α}
    (h : ∀ a, decode (f a) = some a) (hnull : ∀ a, f a ≠ .null) :
    orNull decode (a.map f) = some a := by
  cases a with
  | none => rfl
  | some a =>
      rw [Option.map_some, orNull, h]
      · rfl
      · exact hnull a

/-- **A file is read from its members**, with those that are left out. -/
theorem FileNode.ofParts?_fields {f : FileNode} (h : f.attributes.Ascending) :
    FileNode.ofParts? (.object (Value.ofFields f.fields)) = some f := by
  have hcontent : ∀ text : Option String, orNull Value.text? (text.map .text) = some text :=
    fun text => orNull_map (fun _ => rfl) (by simp)
  have hkind : orNull GeneratorKind.ofValue? (f.generate.map fun kind => .text kind.name) =
      some f.generate :=
    orNull_map (fun kind => by cases kind <;> decide) (by simp)
  have htemplate : orNull Value.bool? (f.template.map .bool) = some f.template :=
    orNull_map (fun _ => rfl) (by simp)
  rw [FileNode.ofParts?, parts?_ofFields (by simp [FileNode.fields])]
  simp [FileNode.fields, Value.text?, hcontent, hkind, htemplate, attributes?_attributeValue? h]

mutual

/-- How many nodes are nested in one another, the outermost included. -/
def Node.levels : Node → ℕ
  | .folder _ children _ => Node.listLevels children + 1
  | .file _ => 1
  | .branch _ children => Node.listLevels children + 1
  | .otherwise children => Node.listLevels children + 1
  | .loop _ _ children => Node.listLevels children + 1

/-- The levels of the deepest of some nodes. -/
def Node.listLevels : List Node → ℕ
  | [] => 0
  | node :: rest => max node.levels (Node.listLevels rest)

end

/-- The attributes of a node. A group has none. -/
def Node.attributes : Node → Dictionary String String
  | .folder _ _ attributes => attributes
  | .file f => f.attributes
  | _ => ∅

/-- The attributes of a node and of those below it are listed in order, as all dictionaries are. -/
inductive Node.Ordered : Node → Prop
  | intro {node : Node} (hattributes : node.attributes.Ascending)
      (hchildren : ∀ child ∈ node.children, Ordered child) : Ordered node

namespace Node

/-- The members of a node besides its kind, with those that are left out. -/
def fields : Node → List (String × Option Value)
  | folder name children attributes => [("name", some (.text name)),
      ("children", some (.array (children.map toValue))),
      ("attributes", attributeValue? attributes)]
  | file f => f.fields
  | branch condition children => [("condition_var", some (.text condition)),
      ("children", some (.array (children.map toValue)))]
  | otherwise children => [("children", some (.array (children.map toValue)))]
  | loop count item children => [("repeat_count", some (.text count)),
      ("repeat_as", some (.text item)), ("children", some (.array (children.map toValue)))]

lemma listToValues_eq (nodes : List Node) : listToValues nodes = nodes.map toValue := by
  induction nodes with
  | nil => rfl
  | cons node nodes ih => rw [listToValues, ih, List.map_cons]

/-- The value of a node is its kind and its other members. -/
lemma toValue_eq (node : Node) : node.toValue =
    .object (Value.ofFields (("type", some (.text node.kind.name)) :: node.fields)) := by
  cases node <;>
    simp [toValue, fields, kind, Value.ofFields, listToValues_eq, attributeMembers_eq,
      FileNode.members_eq, Value.optional]

lemma splitKind?_toValue (node : Node) :
    splitKind? node.toValue = some (node.kind, .object (Value.ofFields node.fields)) := by
  rw [toValue_eq]
  refine splitKind?_ofFields ?_
  cases node <;> simp [fields, FileNode.fields]

lemma levels_eq (node : Node) : node.levels = listLevels node.children + 1 := by
  cases node <;> rfl

lemma levels_le_listLevels {child : Node} {nodes : List Node} (h : child ∈ nodes) :
    child.levels ≤ listLevels nodes := by
  induction nodes with
  | nil => simp at h
  | cons node nodes ih =>
      rw [listLevels]
      obtain rfl | h := List.mem_cons.mp h
      · exact le_max_left _ _
      · exact (ih h).trans (le_max_right _ _)

/-- A value of texts, or a text itself. -/
def IsFlat (v : Value) : Prop :=
  v.Numberless ∧ v.depth ≤ 1

lemma isFlat_text (text : String) : IsFlat (.text text) :=
  ⟨.text text, by simp [Value.depth]⟩

lemma isFlat_bool (b : Bool) : IsFlat (.bool b) :=
  ⟨.bool b, by simp [Value.depth]⟩

lemma isFlat_attributes {attributes : Dictionary String String} {v : Value}
    (h : attributeValue? attributes = some v) : IsFlat v := by
  unfold attributeValue? at h
  split_ifs at h
  obtain rfl := Option.some.inj h
  refine ⟨.object fun m hm => ?_, Nat.succ_le_succ (Value.memberDepth_le_iff.mpr fun m hm => ?_)⟩
    <;> obtain ⟨p, -, rfl⟩ := List.mem_map.mp hm
  · exact .text p.2
  · simp [Value.depth]

lemma mem_fileFields {f : FileNode} {name : String} {v : Value}
    (h : (name, some v) ∈ f.fields) : IsFlat v := by
  simp only [FileNode.fields, List.mem_cons, Prod.mk.injEq, List.not_mem_nil, or_false,
    eq_comm (a := some v), Option.map_eq_some_iff, Option.some.injEq] at h
  obtain ⟨-, rfl⟩ | ⟨-, _, -, rfl⟩ | ⟨-, _, -, rfl⟩ | ⟨-, _, -, rfl⟩ | ⟨-, _, -, rfl⟩ |
    ⟨-, _, -, rfl⟩ | ⟨-, hattributes⟩ := h
  · exact isFlat_text _
  · exact isFlat_text _
  · exact isFlat_text _
  · exact isFlat_text _
  · exact isFlat_text _
  · exact isFlat_bool _
  · exact isFlat_attributes hattributes

/-- The members of a node are its children, and texts besides. -/
lemma mem_fields {node : Node} {name : String} {v : Value}
    (h : (name, some v) ∈ ("type", some (.text node.kind.name)) :: node.fields) :
    v = .array (node.children.map toValue) ∨ IsFlat v := by
  obtain htype | h := List.mem_cons.mp h
  · obtain ⟨-, rfl⟩ := htype
    exact .inr (isFlat_text _)
  cases node <;> simp only [fields, List.mem_cons, Prod.mk.injEq, Option.some.injEq,
    List.not_mem_nil, or_false, eq_comm (a := some v)] at h
  case folder =>
    obtain ⟨-, rfl⟩ | ⟨-, rfl⟩ | ⟨-, hattributes⟩ := h
    exacts [.inr (isFlat_text _), .inl rfl, .inr (isFlat_attributes hattributes)]
  case file => exact .inr (mem_fileFields h)
  case branch =>
    obtain ⟨-, rfl⟩ | ⟨-, rfl⟩ := h
    exacts [.inr (isFlat_text _), .inl rfl]
  case otherwise =>
    obtain ⟨-, rfl⟩ := h
    exact .inl rfl
  case loop =>
    obtain ⟨-, rfl⟩ | ⟨-, rfl⟩ | ⟨-, rfl⟩ := h
    exacts [.inr (isFlat_text _), .inr (isFlat_text _), .inl rfl]

/-- Values of nodes are texts, truth values, arrays and objects. -/
lemma Ordered.numberless {node : Node} (h : node.Ordered) : node.toValue.Numberless := by
  induction h with
  | @intro node _ _ ih =>
      rw [toValue_eq]
      refine .object fun m hm => ?_
      obtain hchildren | ⟨hflat, -⟩ := mem_fields (mem_ofFields.mp hm)
      · rw [hchildren]
        refine .array fun v hv => ?_
        obtain ⟨child, hchild, rfl⟩ := List.mem_map.mp hv
        exact ih child hchild
      · exact hflat

/-- The value of a node nests at most twice as deep as the node. -/
lemma Ordered.depth_toValue {node : Node} (h : node.Ordered) :
    node.toValue.depth ≤ 2 * node.levels := by
  induction h with
  | @intro node _ _ ih =>
      have hlevels := levels_eq node
      have hmembers : Value.memberDepth
          (Value.ofFields (("type", some (.text node.kind.name)) :: node.fields)) ≤
            2 * listLevels node.children + 1 := by
        refine Value.memberDepth_le_iff.mpr fun m hm => ?_
        obtain hchildren | ⟨-, hflat⟩ := mem_fields (mem_ofFields.mp hm)
        · rw [hchildren]
          refine Nat.succ_le_succ (Value.listDepth_le_iff.mpr fun v hv => ?_)
          obtain ⟨child, hchild, rfl⟩ := List.mem_map.mp hv
          have hchildlevels := levels_le_listLevels hchild
          have hdepth := ih child hchild
          omega
        · omega
      rw [toValue_eq, Value.depth]
      omega

/-- The value of a child nests less deep than that of its node. -/
lemma depth_child_lt {node child : Node} (h : child ∈ node.children) :
    child.toValue.depth < node.toValue.depth := by
  have hmember : ("children", .array (node.children.map toValue)) ∈
      Value.ofFields (("type", some (.text node.kind.name)) :: node.fields) := by
    refine mem_ofFields.mpr (List.mem_cons_of_mem _ ?_)
    cases node <;> simp_all [fields, children]
  have hvalue : child.toValue ∈ node.children.map toValue := List.mem_map_of_mem h
  have hchild := Value.listDepth_le_iff.mp le_rfl _ hvalue
  have harray := Value.memberDepth_le_iff.mp le_rfl _ hmember
  rw [Value.depth] at harray
  rw [toValue_eq node, Value.depth]
  omega

/-- **A node is read from its value**, child by child. -/
theorem Ordered.ofValueWithin_toValue {node : Node} (h : node.Ordered) {d : ℕ}
    (hd : node.toValue.depth ≤ d) : ofValueWithin d node.toValue = some node := by
  induction h generalizing d with
  | @intro node hattributes _ ih =>
      have hsome : d ≠ 0 := by
        rw [toValue_eq, Value.depth] at hd
        omega
      obtain ⟨d, rfl⟩ := Nat.exists_eq_succ_of_ne_zero hsome
      have hchildren : orDefault [] (listOf (ofValueWithin d))
          (some (.array (node.children.map toValue))) = some node.children :=
        listOf_map fun child hchild => ih child hchild (by
          have hless := depth_child_lt hchild
          omega)
      rw [ofValueWithin, splitKind?_toValue]
      cases node <;> simp only [kind, children, attributes, Option.bind_eq_bind, Option.bind_some]
        at hattributes hchildren ⊢
      case file f =>
        rw [fields, FileNode.ofParts?_fields hattributes]
        rfl
      case folder =>
        rw [parts?_ofFields (by simp [fields])]
        simp [fields, Value.text?, hchildren, attributes?_attributeValue? hattributes]
      case branch =>
        rw [parts?_ofFields (by simp [fields])]
        simp [fields, Value.text?, hchildren]
      case otherwise =>
        rw [parts?_ofFields (by simp [fields])]
        simp [fields, hchildren]
      case loop =>
        have hitem : ∀ item, orDefault defaultItem Value.text? (some (.text item)) = some item :=
          fun _ => rfl
        rw [parts?_ofFields (by simp [fields])]
        simp [fields, Value.text?, hitem, hchildren]

/-- **A node is read from its value.** -/
lemma Ordered.ofValue?_toValue {node : Node} (h : node.Ordered) :
    ofValue? node.toValue = some node :=
  h.ofValueWithin_toValue le_rfl

end Node

/-! ### Schemas -/

/-- The commands of a schema as an object. -/
def hookValue (commands : List String) : Value :=
  .object (Value.ofFields [("post_create", some (.array (commands.map .text)))])

lemma commands?_hookValue (commands : List String) :
    commands? (hookValue commands) = some commands := by
  have hcommands : orDefault [] (listOf Value.text?) (some (.array (commands.map .text))) =
      some commands := listOf_map fun _ _ => rfl
  rw [commands?, hookValue, parts?_ofFields (by simp)]
  simp [hcommands]

lemma numberless_hookValue (commands : List String) : (hookValue commands).Numberless := by
  refine .object fun m hm => ?_
  obtain rfl := List.mem_singleton.mp hm
  refine .array fun v hv => ?_
  obtain ⟨command, -, rfl⟩ := List.mem_map.mp hv
  exact .text command

lemma depth_hookValue_le (commands : List String) : (hookValue commands).depth ≤ 2 := by
  have hcommands : Value.listDepth (commands.map .text) ≤ 0 :=
    Value.listDepth_le_iff.mpr (by simp [Value.depth])
  refine Nat.succ_le_succ (Value.memberDepth_le_iff.mpr fun m hm => ?_)
  obtain rfl := List.mem_singleton.mp hm
  exact Nat.succ_le_succ hcommands

namespace Schema

variable {s : Schema}

lemma toValue_eq (s : Schema) : s.toValue =
    .object (Value.ofFields [("root", some s.root.toValue), ("hooks", s.hooks.map hookValue)]) := by
  obtain ⟨root, hooks⟩ := s
  cases hooks <;> rfl

lemma mem_fields {m : String × Value}
    (h : m ∈ Value.ofFields [("root", some s.root.toValue), ("hooks", s.hooks.map hookValue)]) :
    m.2 = s.root.toValue ∨ ∃ commands, m.2 = hookValue commands := by
  have hm := mem_ofFields.mp h
  simp only [List.mem_cons, Prod.mk.injEq, Option.some.injEq, List.not_mem_nil, or_false,
    eq_comm (a := some m.2), Option.map_eq_some_iff] at hm
  obtain ⟨-, hroot⟩ | ⟨-, commands, -, hhooks⟩ := hm
  · exact .inl hroot.symm
  · exact .inr ⟨commands, hhooks.symm⟩

lemma numberless (h : s.root.Ordered) : s.toValue.Numberless := by
  rw [toValue_eq]
  refine .object fun m hm => ?_
  obtain hroot | ⟨commands, hhooks⟩ := mem_fields hm
  · rw [hroot]
    exact h.numberless
  · rw [hhooks]
    exact numberless_hookValue commands

lemma depth_toValue (h : s.root.Ordered) : s.toValue.depth ≤ 2 * s.root.levels + 1 := by
  have hroot := h.depth_toValue
  have hlevels := s.root.levels_eq
  rw [toValue_eq, Value.depth]
  refine Nat.succ_le_succ (Value.memberDepth_le_iff.mpr fun m hm => ?_)
  obtain hroot' | ⟨commands, hhooks⟩ := mem_fields hm
  · rwa [hroot']
  · have hcommands := depth_hookValue_le commands
    rw [hhooks]
    omega

/-- A schema is read from its value. -/
lemma ofValue?_toValue (h : s.root.Ordered) : ofValue? s.toValue = some s := by
  have hhooks : orNull commands? (s.hooks.map hookValue) = some s.hooks :=
    orNull_map commands?_hookValue (by simp [hookValue])
  have hparts : ofParts? s.toValue = some s := by
    rw [ofParts?, toValue_eq, parts?_ofFields (by simp)]
    simp [h.ofValue?_toValue, hhooks]
  rw [ofValue?, hparts, Option.some_or]

/-- A node alone has no part that is a root. -/
lemma ofValue?_node {node : Node} (h : node.Ordered) :
    ofValue? node.toValue = some ⟨node, none⟩ := by
  have hparts : ofParts? node.toValue = none := by
    rw [ofParts?, Node.toValue_eq, parts?_ofFields]
    · cases node <;> simp [Node.fields, FileNode.fields]
    · cases node <;> simp [Node.fields, FileNode.fields]
  rw [ofValue?, hparts, Option.none_or, h.ofValue?_toValue, Option.map_some]

end Schema

section Reading

open Json.Reader

/-- A document gives the schema of the value that it writes. -/
lemma readSchema_of_spells {s : Schema} {v : Value} {text : String} (hv : v.Spells text.toList)
    (hdepth : v.depth < maxDepth) (hs : Schema.ofValue? v = some s) :
    readSchema .json text = .ok s := by
  refine readJson_of_spells (fun gap cs rest hgap hcs => ?_) hv
  refine (recovers_valueWithin hdepth gap cs rest hgap hcs).bind ?_
  rw [hs]
  exact reads_pure

/-- Both texts of a value give its schema. -/
lemma readSchema_texts {s : Schema} {v : Value} (hv : v.Numberless) (hdepth : v.depth < maxDepth)
    (hs : Schema.ofValue? v = some s) :
    readSchema .json v.compact = .ok s ∧ readSchema .json v.pretty = .ok s :=
  ⟨readSchema_of_spells (by rw [Value.compact, String.toList_ofList]; exact hv.spells_compact)
    hdepth hs,
  readSchema_of_spells (by rw [Value.pretty, String.toList_ofList]; exact hv.spells_pretty 0)
    hdepth hs⟩

/-- **A document gives the schema that it was written from**, if nodes nest at most 63 levels deep,
and the document of a node alone gives the schema with that root and no commands. Nothing is
asked of the texts in it, and a part that is missing stays apart from one that is empty. -/
theorem readSchema_written (s : Schema) (hordered : s.root.Ordered) (hlevels : s.root.levels ≤ 63) :
    (readSchema .json s.toValue.compact = .ok s ∧ readSchema .json s.toValue.pretty = .ok s) ∧
      readSchema .json s.root.toValue.compact = .ok ⟨s.root, none⟩ ∧
      readSchema .json s.root.toValue.pretty = .ok ⟨s.root, none⟩ := by
  have hroot := hordered.depth_toValue
  have hnumberless := hordered.numberless
  constructor
  · have hdepth := Schema.depth_toValue hordered
    exact readSchema_texts (Schema.numberless hordered) (by rw [maxDepth]; omega)
      (Schema.ofValue?_toValue hordered)
  · exact readSchema_texts hnumberless (by rw [maxDepth]; omega) (Schema.ofValue?_node hordered)

/-- A folder with a file that has an empty content and an attribute, and no commands in a list. -/
theorem readSchema_written_of_folder :
    let file : Node := .file ⟨"b", some "", none, none, none, none, ⟨[("k", "\\")]⟩⟩
    let root : Node := .folder "a\"\n" [file] ∅
    root.Ordered ∧ root.levels ≤ 63 ∧
      readSchema .json (Schema.mk root (some [])).toValue.pretty = .ok ⟨root, some []⟩ := by
  intro file root
  have hfile : file.Ordered := .intro (List.pairwise_singleton _ _) (by simp [file, Node.children])
  have hroot : root.Ordered :=
    .intro Dictionary.ascending_empty (by simpa [root, Node.children] using hfile)
  have hlevels : root.levels ≤ 63 := by decide
  exact ⟨hroot, hlevels, (readSchema_written ⟨root, some []⟩ hroot hlevels).1.2⟩

end Reading

end Scaffold

import Mathlib.Tactic
import Scaffold.Name
import Scaffold.Path
import Scaffold.Proofs.Texts

/-!
Keys of paths.

A key is what a path means, a list of components. Two facts carry everything that
is said about places of a file system:

* `components_join`: a path followed by an accepted name has the components of the
  path and one more, which is that name;
* `components_proper`: a key of a path has its root at its head if anywhere, and its
  names can stand in a path. `Key.Proper` passes to what stands in front
  (`Key.Proper.of_append`), so it holds of all folders above a path. A key without parts
  `..` is plain (`Key.IsPlain`): behind its head it has names only.

`Component` is linearly ordered, hence keys are, and dictionaries of keys have one
listing.
-/

namespace Scaffold.Path

open Text

/-! ### Names as components -/

/-- A text that is one component of a path. -/
def IsName (text : String) : Prop :=
  '/' ∉ text.toList ∧ text ≠ "" ∧ text ≠ "." ∧ text ≠ ".."

/-- What a name check accepts is one component of a path. -/
lemma isName_of_check {name : String} (h : Name.check name = .ok name) : IsName name :=
  Name.not_mem_separator_of_fault?_eq_none (Name.check_eq_ok_iff.mp h).1

lemma toList_ne {text other : String} (h : text ≠ other) : text.toList ≠ other.toList :=
  fun he => h (String.toList_inj.mp he)

lemma IsName.splitOn {name : String} (h : IsName name) :
    splitOn '/' name.toList = [name.toList] :=
  splitBy_of_forall fun c hc he => h.1 (by rwa [eq_of_beq he] at hc)

/-- A name behind a separator is a piece of its own. -/
lemma IsName.splitOn_append {name : String} (h : IsName name) (front : List Char) :
    Text.splitOn '/' (front ++ '/' :: name.toList) = Text.splitOn '/' front ++ [name.toList] := by
  rw [← h.splitOn]
  exact splitBy_append (by rfl) front name.toList

lemma IsName.component? {name : String} (h : IsName name) :
    component? name.toList = some (.name name) := by
  have h1 : name.toList ≠ [] := toList_ne h.2.1
  have h2 : name.toList ≠ ['.'] := toList_ne h.2.2.1
  have h3 : name.toList ≠ ['.', '.'] := toList_ne h.2.2.2
  simp [Path.component?, h1, h2, h3]

lemma IsName.components {name : String} (h : IsName name) : components name = [.name name] := by
  have h2 : name.toList ≠ ['.'] := toList_ne h.2.2.1
  simp [Path.components, h.splitOn, firstComponent?, h2, h.component?]

lemma IsName.not_isAbsolute {name : String} (h : IsName name) : isAbsolute name = false := by
  rw [isAbsolute, decide_eq_false_iff_not]
  exact fun he => h.1 (List.mem_of_head? he)

/-- The components of a text with something behind its last separator. -/
lemma components_of_split {path : String} {first : List Char} {front : List (List Char)}
    {last : List Char} (h : splitOn '/' path.toList = first :: front ++ [last]) :
    components path = (if first = [] then [.root] else (firstComponent? first).toList)
      ++ front.filterMap component? ++ (component? last).toList := by
  rw [components, h]
  simp only [List.cons_append, ne_eq, List.append_eq_nil_iff, List.cons_ne_self,
    and_false, not_false_eq_true, and_true, List.filterMap_append, List.append_assoc]
  congr 2

/-- **Descending**: a path followed by a name has the components of the path, and
then that name. -/
theorem components_join {name : String} (h : IsName name) (base : String) :
    components (join base name) = components base ++ [.name name] := by
  have habs := h.not_isAbsolute
  by_cases hb : base = ""
  · subst hb
    rw [join, habs]
    simpa [components, splitOn, splitBy, firstComponent?, component?] using h.components
  have hne : base.toList ≠ [] := toList_ne hb
  by_cases hlast : base.toList.getLast? = some '/'
  · -- the base ends in a separator, so its last part means nothing
    obtain ⟨front, hfront⟩ : ∃ front, base.toList = front ++ ['/'] :=
      List.getLast?_eq_some_iff.mp hlast
    obtain ⟨first, rest, hs⟩ : ∃ first rest, splitOn '/' front = first :: rest :=
      List.exists_cons_of_ne_nil (splitBy_ne_nil _ front)
    have hbase : splitOn '/' base.toList = first :: rest ++ [[]] := by
      rw [hfront, ← hs]
      exact splitBy_append (by rfl) front []
    have hjoin : splitOn '/' (join base name).toList = first :: rest ++ [name.toList] := by
      rw [join, habs, if_neg (by simp), if_neg hb, if_pos hlast, String.toList_append, hfront,
        ← hs, ← h.splitOn_append, List.append_assoc, List.singleton_append]
    rw [components_of_split hbase, components_of_split hjoin, h.component?]
    simp [component?]
  · obtain ⟨first, rest, hs⟩ : ∃ first rest, splitOn '/' base.toList = first :: rest :=
      List.exists_cons_of_ne_nil (splitBy_ne_nil _ base.toList)
    have hjoin : splitOn '/' (join base name).toList = first :: rest ++ [name.toList] := by
      rw [join, habs, if_neg (by simp), if_neg hb, if_neg hlast, String.toList_append,
        String.toList_append, ← hs, ← h.splitOn_append, List.append_assoc]
      rfl
    rw [components_of_split hjoin, h.component?, components, hs]
    have hcond : first = [] → rest ≠ [] := by
      rintro rfl rfl
      have hj := join_splitOn '/' base.toList
      rw [hs] at hj
      exact hne hj.symm
    by_cases hf : first = []
    · simp [hf, hcond hf]
    · simp [hf]

/-! ### Proper keys -/

/-- Only the head of a key is a root, and its names are components of paths. -/
def Key.Proper (key : Key) : Prop :=
  (∀ c ∈ key.tail, c ≠ .root) ∧ ∀ text, .name text ∈ key → IsName text

/-- What stands in front in a proper key is proper. -/
lemma Key.Proper.of_append {front back : Key} (h : Key.Proper (front ++ back)) :
    front.Proper := by
  refine ⟨fun c hc => h.1 c ?_, fun text ht => h.2 text (List.mem_append_left _ ht)⟩
  cases front with
  | nil => simp at hc
  | cons first rest => simpa using .inl hc

/-- A proper key has a root at its end only if it is the root. -/
lemma Key.Proper.ne_root {key : Key} {c : Component} (h : Key.Proper (key ++ [c]))
    (hkey : key ≠ []) : c ≠ .root := by
  obtain ⟨first, rest, rfl⟩ := List.exists_cons_of_ne_nil hkey
  exact h.1 c (by simp)

lemma isName_of_component? {part : List Char} (hpart : '/' ∉ part) {text : String}
    (h : component? part = some (.name text)) : IsName text := by
  simp only [component?] at h
  split_ifs at h with h1 h2
  · simp at h
  obtain rfl : String.ofList part = text := by simpa using h
  push Not at h1
  refine ⟨by simpa using hpart, ?_, ?_, ?_⟩ <;> rw [ne_eq, ← String.toList_inj] <;> simp_all

lemma component?_ne_root {part : List Char} : component? part ≠ some .root := by
  simp only [component?]
  split_ifs <;> simp

lemma component?_ne_here {part : List Char} : component? part ≠ some .here := by
  simp only [component?]
  split_ifs <;> simp

/-- Behind its head, a path has the components of its parts. -/
lemma exists_component?_of_mem_tail {path : String} {c : Component}
    (hc : c ∈ (components path).tail) : ∃ part, component? part = some c := by
  obtain ⟨first, rest, hs⟩ : ∃ first rest, splitOn '/' path.toList = first :: rest :=
    List.exists_cons_of_ne_nil (splitBy_ne_nil _ path.toList)
  rw [components, hs] at hc
  dsimp only at hc
  have hrest : c ∈ rest.filterMap component? := by
    split_ifs at hc
    · simpa using hc
    · cases hfirst : firstComponent? first with
      | none =>
          rw [hfirst] at hc
          exact List.mem_of_mem_tail hc
      | some head =>
          rw [hfirst] at hc
          simpa using hc
  obtain ⟨part, -, hpart⟩ := List.mem_filterMap.mp hrest
  exact ⟨part, hpart⟩

/-- **The components of a path are proper.** -/
theorem components_proper (path : String) : (components path).Proper := by
  refine ⟨fun c hc he => ?_, fun text ht => ?_⟩
  · obtain ⟨part, hpart⟩ := exists_component?_of_mem_tail hc
    exact component?_ne_root (he ▸ hpart)
  obtain ⟨first, rest, hs⟩ : ∃ first rest, splitOn '/' path.toList = first :: rest :=
    List.exists_cons_of_ne_nil (splitBy_ne_nil _ path.toList)
  have hpiece : ∀ piece ∈ first :: rest, '/' ∉ piece := fun piece hp hc =>
    not_mem_of_mem_splitBy (hs ▸ hp) '/' hc (by rfl)
  rw [components, hs] at ht
  rcases List.mem_append.mp ht with ht | ht
  · split_ifs at ht with habs
    · simp at ht
    · simp only [firstComponent?, Option.mem_toList] at ht
      split_ifs at ht with hdot
      · simp at ht
      · exact isName_of_component? (hpiece first (by simp)) ht
  · obtain ⟨piece, hp, hpc⟩ := List.mem_filterMap.mp ht
    exact isName_of_component? (hpiece piece (by simp [hp])) hpc

/-- A key is directly below another if it has one more component. -/
lemma Key.parent?_eq_some_iff {key above : Key} :
    key.parent? = some above ↔ ∃ c, c ≠ .root ∧ key = above ++ [c] := by
  rcases List.eq_nil_or_concat key with rfl | ⟨front, c, rfl⟩
  · simp [Key.parent?]
  · have happ : ∀ d, front ++ [c] = above ++ [d] ↔ front = above ∧ c = d := fun d => by simp
    cases c <;> simp [Key.parent?, happ]

/-! ### Plain keys -/

/-- A key without parts `..`, whose only part `.` may be its head. -/
structure Key.IsPlain (key : Key) : Prop where
  proper : key.Proper
  up : .up ∉ key
  here : .here ∉ key.tail

lemma isPlain_components {path : String} (h : .up ∉ components path) :
    (components path).IsPlain where
  proper := components_proper path
  up := h
  here hmem := by
    obtain ⟨part, hpart⟩ := exists_component?_of_mem_tail hmem
    exact component?_ne_here hpart

/-- What stands in front in a plain key is plain. -/
lemma Key.IsPlain.of_append {front back : Key} (h : Key.IsPlain (front ++ back)) :
    front.IsPlain where
  proper := h.proper.of_append
  up hmem := h.up (List.mem_append_left _ hmem)
  here hmem := by
    refine h.here ?_
    obtain ⟨first, rest, rfl⟩ := List.exists_cons_of_ne_nil
      (List.ne_nil_of_mem (List.mem_of_mem_tail hmem))
    exact List.mem_append_left _ hmem

/-- A part of a plain key that is not its head is a name. -/
lemma Key.IsPlain.eq_name {key : Key} {c : Component} (h : Key.IsPlain (key ++ [c]))
    (hkey : key ≠ []) : ∃ name, IsName name ∧ c = .name name := by
  have htail : c ∈ (key ++ [c]).tail := by
    obtain ⟨first, rest, rfl⟩ := List.exists_cons_of_ne_nil hkey
    simp
  cases c with
  | root => exact absurd rfl (h.proper.ne_root hkey)
  | here => exact absurd htail h.here
  | up => exact absurd (by simp) h.up
  | name text => exact ⟨text, h.proper.2 text (by simp), rfl⟩

/-- The plain spelling of a plain key means the key. -/
lemma Key.IsPlain.components_ofComponents {key : Key} (h : key.IsPlain) :
    components (ofComponents key) = key := by
  induction key using List.reverseRecOn with
  | nil => rfl
  | append_singleton front c ih =>
      have hjoin : ofComponents (front ++ [c]) = join (ofComponents front) c.text := by
        rw [ofComponents, List.foldl_append]
        rfl
      by_cases hfront : front = []
      · subst hfront
        cases c with
        | root => rfl
        | here => rfl
        | up => exact absurd (by simp) h.up
        | name text =>
            have hname : IsName text := h.proper.2 text (by simp)
            rw [hjoin]
            exact components_join hname ""
      · obtain ⟨name, hname, rfl⟩ := h.eq_name hfront
        rw [hjoin]
        exact (components_join hname _).trans (by rw [ih h.of_append])

/-! ### The order of keys -/

namespace Component

instance : LE Component := .ofLT Component

instance : Std.Asymm (fun a b : Component => a < b) where
  asymm a b hab hba := by
    rcases hab with h | ⟨h, ht⟩ <;> rcases hba with h' | ⟨h', ht'⟩
    · omega
    · omega
    · omega
    · exact absurd (String.lt_trans ht ht') (String.lt_irrefl _)

instance : Std.Trichotomous (fun a b : Component => a < b) where
  trichotomous a b hab hba := by
    have hrank : a.rank = b.rank := by
      rcases Nat.lt_trichotomy a.rank b.rank with h | h | h
      · exact absurd (Or.inl h) hab
      · exact h
      · exact absurd (Or.inl h) hba
    have htext : a.text = b.text :=
      Std.Trichotomous.trichotomous (r := fun x y : String => x < y) _ _
        (fun h => hab (.inr ⟨hrank, h⟩)) (fun h => hba (.inr ⟨hrank.symm, h⟩))
    cases a <;> cases b <;> simp_all [rank, text]

instance : Trans (fun a b : Component => ¬ a < b) (fun a b : Component => ¬ a < b)
    (fun a b : Component => ¬ a < b) where
  trans {a b c} hab hbc hac := by
    have h1 : b.rank ≤ a.rank := Nat.le_of_not_lt fun h => hab (.inl h)
    have h2 : c.rank ≤ b.rank := Nat.le_of_not_lt fun h => hbc (.inl h)
    rcases hac with h | ⟨h, ht⟩
    · omega
    · have hb : ¬ a.text < b.text := fun hx => hab (.inr ⟨by omega, hx⟩)
      have hc : ¬ b.text < c.text := fun hx => hbc (.inr ⟨by omega, hx⟩)
      exact String.le_trans hc hb ht

instance : Std.IsLinearOrder Component := .of_lt

instance : Std.LawfulOrderLT Component where
  lt_iff a b := ⟨fun h => ⟨Std.Asymm.asymm a b h, fun hn => hn h⟩, fun h => by
    by_contra hn
    exact h.2 hn⟩

end Component

/-- Names in one folder are in the order of their keys. -/
lemma Key.lt_of_append_name_lt {key : Key} {a b : String}
    (h : key ++ [.name a] < key ++ [.name b]) : a < b := by
  induction key with
  | nil =>
      rcases List.cons_lt_cons_iff.mp h with hlt | ⟨-, hlt⟩
      · rcases hlt with hrank | ⟨-, htext⟩
        · exact absurd hrank (lt_irrefl _)
        · exact htext
      · exact absurd hlt (List.not_lt_nil _)
  | cons c rest ih =>
      rcases List.cons_lt_cons_iff.mp h with hlt | ⟨-, hlt⟩
      · exact absurd hlt (Std.lt_irrefl)
      · exact ih hlt

end Scaffold.Path

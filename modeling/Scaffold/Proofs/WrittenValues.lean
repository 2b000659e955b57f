import Mathlib.Tactic
import Scaffold.Document.Schema
import Scaffold.Proofs.Readers

/-!
Values are read as they were written.

* `Value.Spells`: a text writes a value, with any gaps between its parts. Both printers write
  such texts (`Numberless.spells_compact`, `Numberless.spells_pretty`);
* `Recovers r a v`: a reader gives `a` for every text that writes `v`, and takes no more than the
  text. Numbers are left out, since one may go on in what follows it;
* `recovers_valueWithin`: a value that nests less deep than the bound is read as itself;
* `recovers_list`, `recovers_record`: lists are read item by item, and records part by part.
-/

namespace Scaffold.Json

open Text Reader

/-! ### Texts of values -/

/-- What stands in front of an item: a gap, with a comma in it unless the item is the first. -/
inductive Separator : Bool → List Char → Prop
  | first {gap : List Char} (hgap : IsGap gap) : Separator true gap
  | comma {front gap : List Char} (hfront : IsGap front) (hgap : IsGap gap) :
      Separator false (front ++ ',' :: gap)

mutual

/-- A text writes a value without numbers. -/
inductive Value.Spells : Value → List Char → Prop
  | null : Spells .null "null".toList
  | bool (b : Bool) : Spells (.bool b) (if b then "true" else "false").toList
  | text (s : String) : Spells (.text s) (quoted s.toList)
  | array {items : List Value} {cs : List Char} (h : SpellsItems true items cs) :
      Spells (.array items) ('[' :: cs)
  | object {members : List (String × Value)} {cs : List Char} (h : SpellsMembers true members cs) :
      Spells (.object members) ('{' :: cs)

/-- A text writes items up to their closing bracket. -/
inductive Value.SpellsItems : Bool → List Value → List Char → Prop
  | close {isFirst : Bool} {gap : List Char} (hgap : IsGap gap) :
      SpellsItems isFirst [] (gap ++ [']'])
  | item {isFirst : Bool} {sep cs more : List Char} {v : Value} {items : List Value}
      (hsep : Separator isFirst sep) (hv : Spells v cs) (hmore : SpellsItems false items more) :
      SpellsItems isFirst (v :: items) (sep ++ (cs ++ more))

/-- A text writes members up to their closing brace. -/
inductive Value.SpellsMembers : Bool → List (String × Value) → List Char → Prop
  | close {isFirst : Bool} {gap : List Char} (hgap : IsGap gap) :
      SpellsMembers isFirst [] (gap ++ ['}'])
  | member {isFirst : Bool} {sep front gap cs more : List Char} {name : String} {v : Value}
      {members : List (String × Value)} (hsep : Separator isFirst sep) (hfront : IsGap front)
      (hgap : IsGap gap) (hv : Spells v cs) (hmore : SpellsMembers false members more) :
      SpellsMembers isFirst ((name, v) :: members)
        (sep ++ (quoted name.toList ++ (front ++ ':' :: (gap ++ (cs ++ more)))))

end

/-- A value in which there are no numbers. -/
inductive Value.Numberless : Value → Prop
  | null : Numberless .null
  | bool (b : Bool) : Numberless (.bool b)
  | text (s : String) : Numberless (.text s)
  | array {items : List Value} (h : ∀ v ∈ items, Numberless v) : Numberless (.array items)
  | object {members : List (String × Value)} (h : ∀ m ∈ members, Numberless m.2) :
      Numberless (.object members)

namespace Value

lemma isGap_newLine (level : ℕ) : IsGap (newLine level) := by
  intro c hc
  obtain rfl | hc := List.mem_cons.mp hc
  · rfl
  · rw [List.eq_of_mem_replicate hc]
    rfl

lemma separator_compact (isFirst : Bool) :
    Separator isFirst (if isFirst then [] else [',']) := by
  cases isFirst
  · exact .comma isGap_nil isGap_nil
  · exact .first isGap_nil

lemma separator_pretty (level : ℕ) : Separator false (',' :: newLine level) :=
  .comma isGap_nil (isGap_newLine level)

lemma spellsItems_compact {items : List Value} (h : ∀ v ∈ items, v.Spells v.compactChars)
    (isFirst : Bool) : SpellsItems isFirst items (compactItems isFirst items) := by
  induction items generalizing isFirst with
  | nil => exact .close isGap_nil
  | cons v items ih =>
      rw [compactItems, List.append_assoc]
      exact .item (separator_compact isFirst) (h v (by simp))
        (ih (fun w hw => h w (List.mem_cons_of_mem v hw)) false)

lemma spellsMembers_compact {members : List (String × Value)}
    (h : ∀ m ∈ members, m.2.Spells m.2.compactChars) (isFirst : Bool) :
    SpellsMembers isFirst members (compactMembers isFirst members) := by
  induction members generalizing isFirst with
  | nil => exact .close isGap_nil
  | cons m members ih =>
      obtain ⟨name, v⟩ := m
      have hmore := ih (fun m hm => h m (List.mem_cons_of_mem _ hm)) false
      have hspells : SpellsMembers _ ((name, v) :: members) _ := .member (separator_compact isFirst) isGap_nil
        isGap_nil (h (name, v) (by simp)) hmore
      simpa only [compactMembers, List.append_assoc, List.nil_append, List.cons_append]
        using hspells

/-- The text without gaps writes a value. -/
lemma Numberless.spells_compact {v : Value} (h : v.Numberless) : v.Spells v.compactChars := by
  induction h with
  | null => exact .null
  | bool b => exact .bool b
  | text s => exact .text s
  | array _ ih => exact .array (spellsItems_compact ih true)
  | object _ ih => exact .object (spellsMembers_compact ih true)

lemma spellsItems_pretty {items : List Value} (level : ℕ)
    (h : ∀ v ∈ items, ∀ level, v.Spells (v.prettyChars level)) :
    SpellsItems false items (prettyItems level items) := by
  induction items with
  | nil => exact .close (isGap_newLine level)
  | cons v items ih =>
      have hmore := ih fun w hw => h w (List.mem_cons_of_mem v hw)
      have hspells := SpellsItems.item (separator_pretty (level + 1)) (h v (by simp) (level + 1))
        hmore
      simpa only [prettyItems, List.append_assoc, List.cons_append] using hspells

lemma toList_colon : ": ".toList = [':', ' '] :=
  rfl

lemma spellsMembers_pretty {members : List (String × Value)} (level : ℕ)
    (h : ∀ m ∈ members, ∀ level, m.2.Spells (m.2.prettyChars level)) :
    SpellsMembers false members (prettyMembers level members) := by
  induction members with
  | nil => exact .close (isGap_newLine level)
  | cons m members ih =>
      obtain ⟨name, v⟩ := m
      have hmore := ih fun m hm => h m (List.mem_cons_of_mem _ hm)
      have hspells : SpellsMembers _ ((name, v) :: members) _ := .member (separator_pretty (level + 1)) isGap_nil
        isGap_space (h (name, v) (by simp) (level + 1)) hmore
      simpa only [prettyMembers, toList_colon, List.append_assoc, List.cons_append, List.nil_append]
        using hspells

/-- The text over several lines writes a value. -/
lemma Numberless.spells_pretty {v : Value} (h : v.Numberless) (level : ℕ) :
    v.Spells (v.prettyChars level) := by
  induction h generalizing level with
  | null => exact .null
  | bool b => exact .bool b
  | text s => exact .text s
  | @array items _ ih =>
      cases items with
      | nil => exact .array (.close isGap_nil)
      | cons v items =>
          have hspells := SpellsItems.item (.first (isGap_newLine (level + 1)))
            (ih v (by simp) (level + 1))
            (spellsItems_pretty level fun w hw => ih w (List.mem_cons_of_mem v hw))
          simpa only [prettyChars, List.append_assoc, List.cons_append] using Spells.array hspells
  | @object members _ ih =>
      cases members with
      | nil => exact .object (.close isGap_nil)
      | cons m members =>
          obtain ⟨name, v⟩ := m
          have hspells : SpellsMembers _ ((name, v) :: members) _ := .member (.first (isGap_newLine (level + 1)))
            isGap_nil isGap_space (ih (name, v) (by simp) (level + 1))
            (spellsMembers_pretty level fun m hm => ih m (List.mem_cons_of_mem _ hm))
          simpa only [prettyChars, toList_colon, List.append_assoc, List.cons_append,
            List.nil_append] using Spells.object hspells

/-- A text of a value starts with no gap and does not end an array. -/
lemma Spells.starts {v : Value} {cs : List Char} (h : v.Spells cs) :
    ∃ c tail, cs = c :: tail ∧ isSpace c = false ∧ c ≠ ']' := by
  cases h with
  | null => exact ⟨_, _, rfl, rfl, by decide⟩
  | bool b => cases b <;> exact ⟨_, _, rfl, rfl, by decide⟩
  | text s => exact ⟨_, _, rfl, rfl, by decide⟩
  | array h => exact ⟨_, _, rfl, rfl, by decide⟩
  | object h => exact ⟨_, _, rfl, rfl, by decide⟩

lemma listDepth_le_iff {n : ℕ} {items : List Value} :
    listDepth items ≤ n ↔ ∀ v ∈ items, v.depth ≤ n := by
  induction items with
  | nil => simp [listDepth]
  | cons v items ih => simp [listDepth, ih]

lemma memberDepth_le_iff {n : ℕ} {members : List (String × Value)} :
    memberDepth members ≤ n ↔ ∀ m ∈ members, m.2.depth ≤ n := by
  induction members with
  | nil => simp [memberDepth]
  | cons m members ih => simp [memberDepth, ih]

lemma SpellsItems.length_lt {isFirst : Bool} {items : List Value} {cs : List Char}
    (h : SpellsItems isFirst items cs) : items.length < cs.length := by
  induction items generalizing isFirst cs with
  | nil =>
      obtain ⟨hgap⟩ := h
      simp
  | cons v items ih =>
      obtain _ | ⟨hsep, hv, hmore⟩ := h
      obtain ⟨c, tail, rfl, -⟩ := hv.starts
      have hlater := ih hmore
      simp only [List.length_append, List.length_cons]
      omega

lemma SpellsMembers.length_lt {isFirst : Bool} {members : List (String × Value)} {cs : List Char}
    (h : SpellsMembers isFirst members cs) : members.length < cs.length := by
  induction members generalizing isFirst cs with
  | nil =>
      obtain ⟨hgap⟩ := h
      simp
  | cons m members ih =>
      obtain _ | ⟨hsep, hfront, hgap, hv, hmore⟩ := h
      have hlater := ih hmore
      simp only [List.length_append, List.length_cons]
      omega

end Value

/-! ### Reading from item to item -/

namespace Reader

section Steps

variable {c : Char} {isFirst : Bool} {sep gap x : List Char}

lemma reads_nextItem (hsep : Separator isFirst sep) (hc : isSpace c = false) (hclose : c ≠ ']') :
    Reads (nextItem isFirst) (sep ++ c :: x) true (c :: x) := by
  cases hsep with
  | first hgap =>
      refine (reads_peekPastSpace? hgap hc).bind ?_
      simp only [↓reduceIte]
      exact reads_pure
  | @comma front gap hfront hgap =>
      rw [List.append_assoc]
      refine (reads_peekPastSpace? hfront rfl).bind (reads_skip.bind
        ((reads_peekPastSpace? hgap hc).bind ?_))
      simp only
      exact reads_pure

lemma reads_nextItem_close (hgap : IsGap gap) :
    Reads (nextItem isFirst) (gap ++ ']' :: x) false (']' :: x) :=
  (reads_peekPastSpace? hgap rfl).bind reads_pure

lemma reads_endArray : Reads endArray (']' :: x) () x :=
  (reads_peekPastSpace? isGap_nil rfl).bind reads_skip

lemma reads_nextName (hsep : Separator isFirst sep) :
    Reads (nextName isFirst) (sep ++ '"' :: x) true x := by
  cases hsep with
  | first hgap => exact (reads_peekPastSpace? hgap rfl).bind (reads_skip.bind reads_pure)
  | comma hfront hgap =>
      rw [List.append_assoc]
      exact (reads_peekPastSpace? hfront rfl).bind (reads_skip.bind
        ((reads_peekPastSpace? hgap rfl).bind (reads_skip.bind reads_pure)))

lemma reads_nextName_close (hgap : IsGap gap) :
    Reads (nextName isFirst) (gap ++ '}' :: x) false ('}' :: x) :=
  (reads_peekPastSpace? hgap rfl).bind reads_pure

lemma reads_endObject : Reads endObject ('}' :: x) () x :=
  (reads_peekPastSpace? isGap_nil rfl).bind reads_skip

lemma reads_colon (hgap : IsGap gap) : Reads colon (gap ++ ':' :: x) () x :=
  (reads_peekPastSpace? hgap rfl).bind reads_skip

end Steps

/-! ### Values -/

/-- A reader gives `a` for every text that writes `v`, with a gap in front, and leaves the rest. -/
def Recovers {α : Type} (r : Reader α) (a : α) (v : Value) : Prop :=
  ∀ gap cs rest, IsGap gap → v.Spells cs → Reads r (gap ++ (cs ++ rest)) a rest

section Recovers

variable {α σ : Type} {r : Reader α} {a : α} {v : Value} {cs x gap : List Char} {isFirst : Bool}

lemma Recovers.placed (h : Recovers r a v) : Recovers (placed r) a v :=
  fun gap cs rest hgap hv => (h gap cs rest hgap hv).placed

lemma Recovers.map {β : Type} {f : α → β} (h : Recovers r a v) : Recovers (f <$> r) (f a) v :=
  fun gap cs rest hgap hv => (h gap cs rest hgap hv).map

/-- Items are read one by one, up to their closing bracket. -/
lemma reads_itemsLoop (toValue : α → Value) {item : Reader α} {as : List α}
    (hitem : ∀ a ∈ as, Recovers item a (toValue a)) {fuel : ℕ} (done : List α)
    (hfuel : as.length < fuel) (h : Value.SpellsItems done.isEmpty (as.map toValue) cs) :
    Reads (itemsLoop item fuel done) (cs ++ x) (done.reverse ++ as) (']' :: x) := by
  induction as generalizing fuel done cs with
  | nil =>
      obtain ⟨fuel, rfl⟩ := Nat.exists_eq_succ_of_ne_zero (Nat.ne_zero_of_lt hfuel)
      obtain ⟨hgap⟩ := h
      rw [List.append_nil, List.append_assoc]
      exact (reads_nextItem_close hgap).bind reads_pure
  | cons a as ih =>
      obtain ⟨fuel, rfl⟩ := Nat.exists_eq_succ_of_ne_zero (Nat.ne_zero_of_lt hfuel)
      obtain _ | @⟨_, sep, chars, more, _, _, hsep, hv, hmore⟩ := h
      obtain ⟨c, tail, hchars, hc, hclose⟩ := hv.starts
      have hnext : Reads (nextItem done.isEmpty) (sep ++ (chars ++ (more ++ x))) true
          (chars ++ (more ++ x)) := by
        rw [hchars]
        exact reads_nextItem hsep hc hclose
      have hread := hitem a (by simp) [] chars (more ++ x) isGap_nil hv
      have hlater := ih (fun b hb => hitem b (List.mem_cons_of_mem a hb)) (a :: done)
        (Nat.lt_of_succ_lt_succ hfuel) hmore
      rw [List.reverse_cons, List.append_assoc] at hlater
      rw [List.append_assoc, List.append_assoc]
      exact hnext.bind (hread.bind hlater)

/-- There is fuel for as many steps as a text in front of the rest has characters. -/
lemma lt_fuel {n : ℕ} (h : n < cs.length) : n < (cs ++ x).length + 1 := by
  rw [List.length_append]
  omega

/-- **A list is read item by item**, if the reader of an item gives each item. -/
theorem reads_arrayOf (toValue : α → Value) {item : Reader α} {as : List α}
    (hitem : ∀ a ∈ as, Recovers item a (toValue a))
    (h : Value.SpellsItems true (as.map toValue) cs) :
    Reads (arrayOf item) ('[' :: (cs ++ x)) as x := by
  have hfuel := lt_fuel (x := x) h.length_lt
  rw [List.length_map] at hfuel
  have hitems : Reads (do itemsLoop item (← fuel) []) (cs ++ x) as (']' :: x) :=
    reads_fuel.bind (reads_itemsLoop toValue hitem [] hfuel h)
  exact reads_skip.bind (hitems.ending reads_endArray)

/-- Members are read one by one, up to their closing brace. -/
lemma reads_membersLoop {member : Reader α} {ms : List (String × α)} (toValue : α → Value)
    (hmember : ∀ m ∈ ms, Recovers member m.2 (toValue m.2)) {fuel : ℕ} (done : List (String × α))
    (hfuel : ms.length < fuel)
    (h : Value.SpellsMembers done.isEmpty (ms.map fun m => (m.1, toValue m.2)) cs) :
    Reads (membersLoop member fuel done) (cs ++ x) (done.reverse ++ ms) ('}' :: x) := by
  induction ms generalizing fuel done cs with
  | nil =>
      obtain ⟨fuel, rfl⟩ := Nat.exists_eq_succ_of_ne_zero (Nat.ne_zero_of_lt hfuel)
      obtain ⟨hgap⟩ := h
      rw [List.append_nil, List.append_assoc]
      exact (reads_nextName_close hgap).bind reads_pure
  | cons m ms ih =>
      obtain ⟨fuel, rfl⟩ := Nat.exists_eq_succ_of_ne_zero (Nat.ne_zero_of_lt hfuel)
      obtain _ | @⟨_, sep, front, gap, chars, more, _, _, _, hsep, hfront, hgap, hv, hmore⟩ := h
      have hread := hmember m (by simp) gap chars (more ++ x) hgap hv
      have hlater := ih (fun n hn => hmember n (List.mem_cons_of_mem m hn)) (m :: done)
        (Nat.lt_of_succ_lt_succ hfuel) hmore
      rw [List.reverse_cons, List.append_assoc] at hlater
      have hall : Reads (membersLoop member (fuel + 1) done) _ (done.reverse ++ (m :: ms)) _ :=
        (reads_nextName hsep).bind ((reads_quotedRest m.1).bind
          ((reads_colon hfront).bind (hread.bind hlater)))
      simpa only [quoted, List.append_assoc, List.cons_append, List.nil_append] using hall

lemma reads_objectOf {member : Reader α} {ms : List (String × α)} (toValue : α → Value)
    (hmember : ∀ m ∈ ms, Recovers member m.2 (toValue m.2))
    (h : Value.SpellsMembers true (ms.map fun m => (m.1, toValue m.2)) cs) :
    Reads (objectOf member) ('{' :: (cs ++ x)) ms x := by
  have hfuel := lt_fuel (x := x) h.length_lt
  rw [List.length_map] at hfuel
  have hmembers : Reads (do membersLoop member (← fuel) []) (cs ++ x) ms ('}' :: x) :=
    reads_fuel.bind (reads_membersLoop toValue hmember [] hfuel h)
  exact reads_skip.bind (hmembers.ending reads_endObject)

/-- **A value that nests less deep than the bound is read as itself.** -/
theorem recovers_valueWithin {d : ℕ} (h : v.depth < d) : Recovers (valueWithin d) v v := by
  induction d generalizing v with
  | zero => exact absurd h (Nat.not_lt_zero _)
  | succ d ih =>
      intro gap cs rest hgap hv
      cases hv with
      | null => exact (reads_peekPastSpace? hgap rfl).bind ((reads_wholeWord "ull").bind reads_pure)
      | bool b =>
          cases b
          · exact (reads_peekPastSpace? hgap rfl).bind ((reads_wholeWord "alse").bind reads_pure)
          · exact (reads_peekPastSpace? hgap rfl).bind ((reads_wholeWord "rue").bind reads_pure)
      | text s =>
          rw [quoted, List.cons_append, List.cons_append, List.append_assoc]
          exact (reads_peekPastSpace? hgap rfl).bind
            (reads_skip.bind ((reads_quotedRest s).bind reads_pure))
      | @array items cs hitems =>
          rw [Value.depth] at h
          have hd : d ≠ 0 := by omega
          refine (reads_peekPastSpace? hgap rfl).bind ?_
          simp only [hd, ↓reduceIte]
          refine (reads_arrayOf id (fun w hw => ih ?_) ?_).map
          · have hdepth := Value.listDepth_le_iff.mp le_rfl w hw
            omega
          · rwa [List.map_id]
      | @object members cs hmembers =>
          rw [Value.depth] at h
          have hd : d ≠ 0 := by omega
          refine (reads_peekPastSpace? hgap rfl).bind ?_
          simp only [hd, ↓reduceIte]
          refine (reads_objectOf id (fun m hm => ih ?_) ?_).map
          · have hdepth := Value.memberDepth_le_iff.mp le_rfl m hm
            omega
          · simpa using hmembers

/-- A whole text that writes a value. -/
lemma Recovers.run (h : Recovers r a v) {text : String} (hv : v.Spells text.toList) :
    run r text = .ok a := by
  have hread := h [] text.toList [] isGap_nil hv
  rw [List.append_nil] at hread
  exact hread.run isGap_nil

/-! ### Values of a known kind -/

lemma recovers_textOf (expected text : String) : Recovers (textOf expected) text (.text text) := by
  refine Recovers.placed fun gap cs rest hgap hv => ?_
  obtain ⟨⟩ := hv
  rw [quoted, List.cons_append, List.cons_append, List.append_assoc]
  exact (reads_firstChar hgap rfl).bind (reads_skip.bind (reads_quotedRest text))

lemma recovers_boolean (b : Bool) : Recovers boolean b (.bool b) := by
  refine Recovers.placed fun gap cs rest hgap hv => ?_
  obtain ⟨⟩ := hv
  cases b
  · exact (reads_firstChar hgap rfl).bind ((reads_wholeWord "alse").bind reads_pure)
  · exact (reads_firstChar hgap rfl).bind ((reads_wholeWord "rue").bind reads_pure)

/-- One of some choices is read by its name. -/
lemma recovers_choice {choices : List (String × α)} {name : String}
    (h : choices.find? (fun c => c.1 == name) = some (name, a)) :
    Recovers (choice choices) a (.text name) := by
  intro gap cs rest hgap hv
  have hname := recovers_textOf "variant identifier" name [] cs rest isGap_nil hv
  have hchosen : Reads (choice.chosen choices) (cs ++ rest) a rest := by
    refine Reads.placed (hname.bind ?_)
    simp only [h]
    exact reads_pure
  obtain ⟨⟩ := hv
  exact (reads_peekPastSpace? hgap rfl).bind hchosen

lemma recovers_list (toValue : α → Value) {item : Reader α} {as : List α}
    (hitem : ∀ a ∈ as, Recovers item a (toValue a)) :
    Recovers (list item) as (.array (as.map toValue)) := by
  refine Recovers.placed fun gap cs rest hgap hv => ?_
  obtain _ | _ | _ | hitems := hv
  exact (reads_firstChar hgap rfl).bind (reads_arrayOf toValue hitem hitems)

/-! ### Records -/

/-- A reader of a part gives it from the colon on. -/
def RecoversPart (r : Reader α) (a : α) (v : Value) : Prop :=
  ∀ front gap cs rest, IsGap front → IsGap gap → v.Spells cs →
    Reads r (front ++ ':' :: (gap ++ (cs ++ rest))) a rest

/-- The members of an object lead from one state to another. -/
def Folds (member : String → σ → Reader σ) (isFirst : Bool) (s : σ)
    (members : List (String × Value)) (t : σ) : Prop :=
  ∀ cs fuel rest, Value.SpellsMembers isFirst members cs → members.length < fuel →
    Reads (foldMembers member isFirst fuel s) (cs ++ rest) t ('}' :: rest)

variable {member : String → σ → Reader σ} {s t t' : σ} {name : String}
  {members : List (String × Value)}

lemma RecoversPart.map {β : Type} {f : α → β} (h : RecoversPart r a v) :
    RecoversPart (f <$> r) (f a) v :=
  fun front gap cs rest hfront hgap hv => (h front gap cs rest hfront hgap hv).map

lemma recoversPart_part (h : Recovers r a v) : RecoversPart (part name none r) (some a) v :=
  fun _ gap cs rest hfront hgap hv =>
    reads_pure.bind ((reads_colon hfront).bind (h gap cs rest hgap hv).map)

lemma folds_nil : Folds member isFirst s [] s := by
  intro cs fuel rest hcs hfuel
  obtain ⟨fuel, rfl⟩ := Nat.exists_eq_succ_of_ne_zero (Nat.ne_zero_of_lt hfuel)
  obtain ⟨hgap⟩ := hcs
  rw [List.append_assoc]
  exact (reads_nextName_close hgap).bind reads_pure

lemma folds_cons (hpart : RecoversPart (member name s) t v)
    (hmore : Folds member false t members t') :
    Folds member isFirst s ((name, v) :: members) t' := by
  intro cs fuel rest hcs hfuel
  obtain ⟨fuel, rfl⟩ := Nat.exists_eq_succ_of_ne_zero (Nat.ne_zero_of_lt hfuel)
  obtain _ | @⟨_, sep, front, gap, chars, more, _, _, _, hsep, hfront, hgap, hv, hms⟩ := hcs
  have hread := hpart front gap chars (more ++ rest) hfront hgap hv
  have hlater := hmore more fuel rest hms (Nat.lt_of_succ_lt_succ hfuel)
  have hall : Reads (foldMembers member isFirst (fuel + 1) s) _ t' _ :=
    (reads_nextName hsep).bind ((reads_quotedRest name).bind (hread.bind hlater))
  simpa only [quoted, List.append_assoc, List.cons_append, List.nil_append] using hall

/-- **A record is read part by part.** -/
theorem recovers_record {expected : String} {finish : σ → Reader α} {inOrder : Reader α}
    (h : Folds member true s members t) (hfinish : ∀ x, Reads (finish t) x a x) :
    Recovers (record expected s member finish inOrder) a (.object members) := by
  refine Recovers.placed fun gap cs rest hgap hv => ?_
  obtain _ | _ | _ | _ | @⟨_, body, hmembers⟩ := hv
  have hfuel := lt_fuel (x := rest) hmembers.length_lt
  have hparts : Reads (do finish (← foldMembers member true (← fuel) s)) (body ++ rest) a
      ('}' :: rest) :=
    reads_fuel.bind ((h body _ rest hmembers hfuel).bind (hfinish _))
  exact (reads_firstChar hgap rfl).bind (reads_skip.bind (hparts.ending reads_endObject))

end Recovers

end Reader

/-! ### Whole texts -/

/-- A document that writes a value gives what its reader gives for the value. -/
lemma readJson_of_spells {α : Type} {r : Reader α} {a : α} {v : Value} {text : String}
    (h : Recovers r a v) (hv : v.Spells text.toList) : Document.readJson r text = .ok a := by
  rw [Document.readJson, h.run hv]

namespace Value

variable {v : Value}

/-- A value is read from its text without gaps. -/
theorem read_compact (h : v.Numberless) (hdepth : v.depth < maxDepth) : read v.compact = .ok v :=
  (recovers_valueWithin hdepth).run (by rw [compact, String.toList_ofList]; exact h.spells_compact)

/-- A value is read from its text over several lines. -/
theorem read_pretty (h : v.Numberless) (hdepth : v.depth < maxDepth) : read v.pretty = .ok v :=
  (recovers_valueWithin hdepth).run (by rw [pretty, String.toList_ofList]; exact h.spells_pretty 0)

end Value

end Scaffold.Json

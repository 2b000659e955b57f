import Mathlib.Tactic
import Scaffold.Dictionary

/-!
The listing of a dictionary.

A dictionary is listed with ascending keys (`Dictionary.Ascending`), and setting or
removing a key keeps it so. An ascending dictionary is what its look-up says
(`ext_get?`): two of them with the same values at all keys are equal. The dictionary of a list
of pairs is ascending and has the last value of each key (`get?_ofList`).
-/

namespace Scaffold.Dictionary

variable {κ β : Type}

section Lookup

variable [DecidableEq κ]

/-- A key has a value exactly when it is listed. -/
lemma get?_eq_none_iff {d : Dictionary κ β} {k : κ} : d.get? k = none ↔ k ∉ d.keys := by
  obtain ⟨entries⟩ := d
  simp only [get?, keys]
  induction entries with
  | nil => simp [find?]
  | cons e rest ih =>
      by_cases he : e.1 = k
      · simp [find?, he]
      · simp only [find?, he, ↓reduceIte, ih, List.map_cons, List.mem_cons, not_or]
        exact ⟨fun h => ⟨Ne.symm he, h⟩, fun h => h.2⟩

/-- What a dictionary gives at a key is listed in it. -/
lemma mem_entries_of_get? {d : Dictionary κ β} {k : κ} {v : β} (h : d.get? k = some v) :
    (k, v) ∈ d.entries := by
  obtain ⟨entries⟩ := d
  simp only [get?] at h ⊢
  induction entries with
  | nil => simp [find?] at h
  | cons e rest ih =>
      rw [find?] at h
      split_ifs at h with he
      · obtain rfl := Option.some.inj h
        simp [← he]
      · exact List.mem_cons_of_mem e (ih h)

/-- A union gives what its second part gives, and what its first part gives elsewhere. -/
lemma get?_union [LT κ] [DecidableLT κ] {d e : Dictionary κ β} (h : e.keys.Nodup) (k : κ) :
    (d.union e).get? k = (e.get? k).or (d.get? k) := by
  obtain ⟨entries⟩ := e
  simp only [union, keys] at h ⊢
  induction entries generalizing d with
  | nil => rfl
  | cons first rest ih =>
      obtain ⟨hfirst, hrest⟩ := List.nodup_cons.mp h
      rw [List.foldl_cons, ih hrest]
      by_cases he : first.1 = k
      · have hnone : get? (⟨rest⟩ : Dictionary κ β) k = none := get?_eq_none_iff.mpr (he ▸ hfirst)
        rw [hnone, ← he, get?_insert_self]
        simp [get?, find?]
      · rw [get?_insert_of_ne d first.2 (Ne.symm he)]
        simp [get?, find?, he]

end Lookup

/-- The keys of a dictionary are listed in ascending order, each once. -/
def Ascending [LT κ] (d : Dictionary κ β) : Prop :=
  d.keys.Pairwise (· < ·)

lemma ascending_empty [LT κ] : (∅ : Dictionary κ β).Ascending :=
  List.Pairwise.nil

/-- Removing a key keeps the listing ascending. -/
lemma Ascending.erase [LT κ] [DecidableEq κ] {d : Dictionary κ β} (h : d.Ascending) (k : κ) :
    (d.erase k).Ascending :=
  h.sublist (List.filter_sublist.map Prod.fst)

section Order

variable [DecidableEq κ] [LT κ]

/-- The keys after a pair was placed. -/
lemma mem_keys_place [DecidableLT κ] {k k' : κ} {v : β} {l : List (κ × β)} :
    k' ∈ (place k v l).map Prod.fst ↔ k' = k ∨ k' ∈ l.map Prod.fst := by
  induction l with
  | nil => simp [place]
  | cons e rest ih =>
      simp only [place]
      split
      · simp
      · split
        · rename_i he
          simp [he]
        · simp only [List.map_cons, List.mem_cons, ih]
          tauto

/-- Of several pairs, the last one is set last. -/
lemma ofList_concat [DecidableLT κ] (pairs : List (κ × β)) (e : κ × β) :
    ofList (pairs ++ [e]) = (ofList pairs).insert e.1 e.2 := by
  rw [ofList, List.foldl_append]
  rfl

/-- A dictionary of pairs has the value of the last pair with a key. -/
lemma get?_ofList [DecidableLT κ] (pairs : List (κ × β)) (k : κ) :
    (ofList pairs).get? k = (pairs.reverse.find? fun e => e.1 = k).map Prod.snd := by
  induction pairs using List.reverseRecOn with
  | nil => rfl
  | append_singleton pairs e ih =>
      rw [ofList_concat, List.reverse_concat, List.find?_cons]
      by_cases he : e.1 = k
      · simp [he]
      · simp [he, get?_insert_of_ne _ _ (Ne.symm he), ih]

variable [LE κ] [Std.IsLinearOrder κ] [Std.LawfulOrderLT κ]

/-- Setting a key keeps the listing ascending. -/
lemma Ascending.insert [DecidableLT κ] {d : Dictionary κ β} (h : d.Ascending) (k : κ) (v : β) :
    (d.insert k v).Ascending := by
  obtain ⟨entries⟩ := d
  simp only [Ascending, keys, Dictionary.insert] at h ⊢
  induction entries with
  | nil => simp [place]
  | cons e rest ih =>
      rw [List.map_cons, List.pairwise_cons] at h
      simp only [place]
      split
      · rename_i hlt
        refine List.pairwise_cons.mpr ⟨fun x hx => ?_, List.pairwise_cons.mpr h⟩
        rcases List.mem_cons.mp hx with rfl | hx
        · exact hlt
        · exact Std.lt_trans hlt (h.1 x hx)
      · rename_i hnlt
        split
        · rename_i he
          exact List.pairwise_cons.mpr ⟨fun x hx => he ▸ h.1 x hx, h.2⟩
        · rename_i hne
          refine List.pairwise_cons.mpr ⟨fun x hx => ?_, ih h.2⟩
          rcases mem_keys_place.mp hx with rfl | hx
          · exact Std.lt_of_le_of_ne (Std.not_lt.mp hnlt) hne
          · exact h.1 x hx

omit [Std.IsLinearOrder κ] in
/-- An entry of an ascending dictionary is the value at its key. -/
lemma Ascending.mem_entries_iff {d : Dictionary κ β} (h : d.Ascending) {k : κ} {v : β} :
    (k, v) ∈ d.entries ↔ d.get? k = some v := by
  obtain ⟨entries⟩ := d
  simp only [Ascending, keys, get?] at h ⊢
  induction entries with
  | nil => simp [find?]
  | cons e rest ih =>
      rw [List.map_cons, List.pairwise_cons] at h
      by_cases he : e.1 = k
      · have hrest : (k, v) ∉ rest := fun hmem =>
          Std.lt_irrefl (he ▸ h.1 k (List.mem_map_of_mem hmem))
        subst he
        simp [find?, hrest, Prod.ext_iff, eq_comm]
      · have hne : (k, v) ≠ e := fun hk => he (congrArg Prod.fst hk).symm
        simp only [List.mem_cons, hne, false_or, find?, he, ↓reduceIte]
        exact ih h.2

/-- **An ascending dictionary is its look-up.** -/
theorem ext_get? {d e : Dictionary κ β} (hd : d.Ascending) (he : e.Ascending)
    (h : ∀ k, d.get? k = e.get? k) : d = e := by
  obtain ⟨l⟩ := d
  obtain ⟨m⟩ := e
  simp only [Ascending, keys, get?] at hd he h
  -- a key in front of an ascending list has no value in it
  have hfront : ∀ {k : κ} {n : List (κ × β)}, (∀ x ∈ n.map Prod.fst, k < x) →
      find? k n = none := fun {k n} hn =>
    (get?_eq_none_iff (d := ⟨n⟩)).mpr fun hk => Std.lt_irrefl (hn k hk)
  congr
  induction l generalizing m with
  | nil =>
      cases m with
      | nil => rfl
      | cons f m => simpa [find?] using h f.1
  | cons e l ih =>
      rw [List.map_cons, List.pairwise_cons] at hd
      cases m with
      | nil => simpa [find?] using h e.1
      | cons f m =>
          rw [List.map_cons, List.pairwise_cons] at he
          have hkey : e.1 = f.1 := by
            rcases Std.lt_trichotomy e.1 f.1 with hlt | heq | hgt
            · have hnone : find? e.1 (f :: m) = none := hfront fun x hx => by
                rcases List.mem_cons.mp hx with rfl | hx
                · exact hlt
                · exact Std.lt_trans hlt (he.1 x hx)
              have hk := h e.1
              rw [hnone] at hk
              simp [find?] at hk
            · exact heq
            · have hnone : find? f.1 (e :: l) = none := hfront fun x hx => by
                rcases List.mem_cons.mp hx with rfl | hx
                · exact hgt
                · exact Std.lt_trans hgt (hd.1 x hx)
              have hk := h f.1
              rw [hnone] at hk
              simp [find?] at hk
          have hval : e.2 = f.2 := by simpa [find?, hkey] using h e.1
          have hrest : ∀ k, find? k l = find? k m := fun k => by
            by_cases hk : e.1 = k
            · rw [hfront (hk ▸ hd.1), hfront (hk ▸ hkey ▸ he.1)]
            · simpa [find?, hk, ← hkey] using h k
          rw [Prod.ext hkey hval, ih hd.2 m he.2 hrest]

/-- A pair with a key behind all others is placed at the end. -/
lemma place_of_last [DecidableLT κ] {k : κ} {v : β} {pairs : List (κ × β)}
    (h : ∀ e ∈ pairs, e.1 < k) : place k v pairs = pairs ++ [(k, v)] := by
  induction pairs with
  | nil => rfl
  | cons e pairs ih =>
      have hlt := h e (by simp)
      have hne : e.1 ≠ k := fun heq => Std.lt_irrefl (heq ▸ hlt)
      have hnlt : ¬ k < e.1 := fun hgt => Std.lt_irrefl (Std.lt_trans hlt hgt)
      rw [place, if_neg hnlt, if_neg hne,
        ih fun e' he' => h e' (List.mem_cons_of_mem e he'), List.cons_append]

/-- An ascending dictionary is the one of its entries. -/
lemma Ascending.ofList_entries [DecidableLT κ] {d : Dictionary κ β} (h : d.Ascending) :
    ofList d.entries = d := by
  obtain ⟨entries⟩ := d
  simp only [Ascending, keys] at h
  -- the entries in front are placed already
  have hplaced : ∀ front rest : List (κ × β), ((front ++ rest).map Prod.fst).Pairwise (· < ·) →
      rest.foldl (fun d e => Dictionary.insert d e.1 e.2) ⟨front⟩ = ⟨front ++ rest⟩ := by
    intro front rest
    induction rest generalizing front with
    | nil => simp
    | cons e rest ih =>
        intro hkeys
        have hlast : ∀ f ∈ front, f.1 < e.1 := fun f hf => by
          rw [List.map_append, List.pairwise_append] at hkeys
          exact hkeys.2.2 f.1 (List.mem_map_of_mem hf) e.1 (by simp)
        rw [List.foldl_cons, Dictionary.insert, place_of_last hlast]
        simpa using ih (front ++ [e]) (by simpa using hkeys)
  exact hplaced [] entries h

lemma Ascending.ofList [DecidableLT κ] (pairs : List (κ × β)) :
    (ofList pairs).Ascending := by
  induction pairs using List.reverseRecOn with
  | nil => exact ascending_empty
  | append_singleton pairs e ih =>
      rw [ofList_concat]
      exact ih.insert e.1 e.2

end Order

end Scaffold.Dictionary

/-
Finite maps with their keys in ascending order.

* `Dictionary.get?` looks a key up;
* `Dictionary.insert` sets a key, `Dictionary.erase` removes it;
* `get?_insert_self` and `get?_insert_of_ne` say what an insertion changes.
-/

namespace Scaffold

/-- A finite map, listed with ascending keys. -/
structure Dictionary (κ : Type) (β : Type) where
  entries : List (κ × β)
  deriving Repr, DecidableEq

namespace Dictionary

variable {κ β : Type}

/-- The map without entries. -/
def empty : Dictionary κ β := ⟨[]⟩

instance : Inhabited (Dictionary κ β) := ⟨empty⟩

instance : EmptyCollection (Dictionary κ β) := ⟨empty⟩

section Lookup

variable [DecidableEq κ]

/-- The value at a key of a list of pairs: that of the first pair with the key. -/
def find? (k : κ) : List (κ × β) → Option β
  | [] => none
  | (k', v) :: rest => if k' = k then some v else find? k rest

/-- The value at a key. -/
def get? (d : Dictionary κ β) (k : κ) : Option β :=
  find? k d.entries

/-- Whether a key has a value. -/
def contains (d : Dictionary κ β) (k : κ) : Bool :=
  (d.get? k).isSome

/-- The map without a key. -/
def erase (d : Dictionary κ β) (k : κ) : Dictionary κ β :=
  ⟨d.entries.filter fun e => !decide (e.1 = k)⟩

end Lookup

/-- The keys, ascending. -/
def keys (d : Dictionary κ β) : List κ :=
  d.entries.map Prod.fst

/-- The values, in the order of their keys. -/
def values (d : Dictionary κ β) : List β :=
  d.entries.map Prod.snd

/-- Whether there is no entry. -/
def isEmpty (d : Dictionary κ β) : Bool :=
  d.entries.isEmpty

/-- The map with each value changed. -/
def map {γ : Type} (f : β → γ) (d : Dictionary κ β) : Dictionary κ γ :=
  ⟨d.entries.map fun e => (e.1, f e.2)⟩

section Insert

variable [DecidableEq κ] [LT κ] [DecidableLT κ]

/-- Places a pair in front of the first greater key, or over an equal one. -/
def place (k : κ) (v : β) : List (κ × β) → List (κ × β)
  | [] => [(k, v)]
  | e :: rest =>
    if k < e.1 then (k, v) :: e :: rest
    else if e.1 = k then (k, v) :: rest
    else e :: place k v rest

/-- The map with a key set to a value. -/
def insert (d : Dictionary κ β) (k : κ) (v : β) : Dictionary κ β :=
  ⟨place k v d.entries⟩

/-- The map of a list of pairs, where a later pair wins. -/
def ofList (pairs : List (κ × β)) : Dictionary κ β :=
  pairs.foldl (fun d e => d.insert e.1 e.2) empty

/-- The first map with all pairs of the second set. -/
def union (d e : Dictionary κ β) : Dictionary κ β :=
  e.entries.foldl (fun acc p => acc.insert p.1 p.2) d

theorem find?_place_self (k : κ) (v : β) (l : List (κ × β)) : find? k (place k v l) = some v := by
  induction l with
  | nil => simp [place, find?]
  | cons e rest ih =>
    simp only [place]
    split
    · simp [find?]
    · split
      · simp [find?]
      · rename_i h
        simp [find?, h, ih]

theorem find?_place_of_ne {k k' : κ} (v : β) (l : List (κ × β)) (h : k' ≠ k) :
    find? k' (place k v l) = find? k' l := by
  induction l with
  | nil => simp [place, find?, Ne.symm h]
  | cons e rest ih =>
    simp only [place]
    split
    · simp [find?, Ne.symm h]
    · split
      · rename_i he
        have : e.1 ≠ k' := fun hk => h (hk ▸ he)
        simp [find?, Ne.symm h, this]
      · simp [find?, ih]

/-- A key that was set has its value. -/
@[simp]
theorem get?_insert_self (d : Dictionary κ β) (k : κ) (v : β) : (d.insert k v).get? k = some v :=
  find?_place_self k v d.entries

/-- Setting a key changes no other key. -/
theorem get?_insert_of_ne (d : Dictionary κ β) {k k' : κ} (v : β) (h : k' ≠ k) :
    (d.insert k v).get? k' = d.get? k' :=
  find?_place_of_ne v d.entries h

end Insert

section Erase

variable [DecidableEq κ]

theorem find?_filter_ne (k k' : κ) (l : List (κ × β)) :
    find? k' (l.filter fun e => !decide (e.1 = k)) = if k' = k then none else find? k' l := by
  induction l with
  | nil => simp [find?]
  | cons e rest ih =>
    by_cases he : e.1 = k
    · by_cases hk : k' = k
      · simp_all
      · have : e.1 ≠ k' := fun h => hk (by rw [← h, he])
        simp_all [find?]
    · simp only [List.filter, he, decide_false, Bool.not_false, find?, ih]
      by_cases hk : k' = k
      · subst hk
        simp [he]
      · simp [hk]

/-- A key that was removed has no value. -/
@[simp]
theorem get?_erase_self (d : Dictionary κ β) (k : κ) : (d.erase k).get? k = none := by
  simp [erase, get?, find?_filter_ne]

/-- Removing a key changes no other key. -/
theorem get?_erase_of_ne (d : Dictionary κ β) {k k' : κ} (h : k' ≠ k) :
    (d.erase k).get? k' = d.get? k' := by
  simp [erase, get?, find?_filter_ne, h]

end Erase

end Dictionary

end Scaffold

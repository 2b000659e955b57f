import Mathlib.Tactic
import Scaffold.Bytes

/-!
Parts of bytes, and the words in them.

* `Stands`: some bytes stand at a place in others, and so does each part of them;
* `join`: bytes that are laid out one after the other;
* `Stands.word`: where words were laid out each one is read again.
-/

namespace Scaffold.Bytes

variable {bytes front back part part' : ByteArray} {place width n : ℕ}

lemma toList_loop (bytes : ByteArray) (i : ℕ) (acc : List UInt8) :
    ByteArray.toList.loop bytes i acc = acc.reverse ++ bytes.data.toList.drop i := by
  fun_induction ByteArray.toList.loop bytes i acc with
  | case1 i acc h ih =>
      have hi : i < bytes.data.toList.length := by simpa using h
      have hget : bytes.get! i = bytes.data.toList[i] := by
        rw [Array.getElem_toList]
        exact getElem!_pos bytes.data i h
      rw [ih, List.drop_eq_getElem_cons hi, List.reverse_cons, List.append_assoc, hget]
      rfl
  | case2 i acc h =>
      have hi : bytes.data.toList.length ≤ i := by simpa using h
      rw [List.drop_eq_nil_of_le hi, List.append_nil]

lemma toList_eq (bytes : ByteArray) : bytes.toList = bytes.data.toList :=
  toList_loop bytes 0 []

/-! ### Parts -/

/-- Some bytes stand at a place in others. -/
def Stands (bytes : ByteArray) (place : ℕ) (part : ByteArray) : Prop :=
  ∃ front back : ByteArray, bytes = front ++ part ++ back ∧ front.size = place

namespace Stands

lemma whole (bytes : ByteArray) : Stands bytes 0 bytes :=
  ⟨.empty, .empty, by simp, rfl⟩

lemma mid (front part back : ByteArray) : Stands (front ++ part ++ back) front.size part :=
  ⟨front, back, rfl, rfl⟩

/-- What stands in a part stands in the whole. -/
lemma trans {inner : ℕ} (h : Stands bytes place part) (h' : Stands part inner part') :
    Stands bytes (place + inner) part' := by
  obtain ⟨front, back, rfl, rfl⟩ := h
  obtain ⟨front', back', rfl, rfl⟩ := h'
  exact ⟨front ++ front', back' ++ back, by simp only [ByteArray.append_assoc],
    ByteArray.size_append⟩

lemma left (h : Stands bytes place (part ++ part')) : Stands bytes place part :=
  h.trans ⟨.empty, part', by simp, rfl⟩

lemma right (h : Stands bytes place (part ++ part')) : Stands bytes (place + part.size) part' :=
  h.trans ⟨part, .empty, by simp, rfl⟩

lemma size_le (h : Stands bytes place part) : place + part.size ≤ bytes.size := by
  obtain ⟨front, back, rfl, rfl⟩ := h
  simp only [ByteArray.size_append]
  omega

lemma extract_eq (h : Stands bytes place part) :
    bytes.extract place (place + part.size) = part := by
  obtain ⟨front, back, rfl, rfl⟩ := h
  have hpart := @ByteArray.extract_append_size_add front (part ++ back) 0 part.size
  rwa [Nat.add_zero, ByteArray.extract_append_eq_left rfl, ← ByteArray.append_assoc] at hpart

lemma slice?_eq (h : Stands bytes place part) : slice? bytes place part.size = some part := by
  rw [slice?, if_pos h.size_le, h.extract_eq]

lemma getElem?_eq (h : Stands bytes place part) (i : ℕ) (hi : i < part.size) :
    bytes[place + i]? = some part[i] := by
  have hle := h.size_le
  obtain ⟨front, back, rfl, rfl⟩ := h
  rw [getElem?_pos _ _ (by omega), ByteArray.getElem_append_left (by simp; omega),
    ByteArray.getElem_append_right (by omega)]
  simp

end Stands

/-! ### Parts one after the other -/

/-- Bytes one after the other. -/
def join (parts : List ByteArray) : ByteArray := parts.foldr (· ++ ·) .empty

@[simp]
lemma join_nil : join [] = .empty := rfl

@[simp]
lemma join_cons (part : ByteArray) (parts : List ByteArray) :
    join (part :: parts) = part ++ join parts := rfl

lemma join_append (parts parts' : List ByteArray) :
    join (parts ++ parts') = join parts ++ join parts' := by
  induction parts with
  | nil => simp
  | cons part parts ih => simp [ih, ByteArray.append_assoc]

lemma foldl_append_eq_join {α : Type} (f : α → ByteArray) (items : List α) (out : ByteArray) :
    items.foldl (fun out item => out ++ f item) out = out ++ join (items.map f) := by
  induction items generalizing out with
  | nil => simp
  | cons item items ih => simp [ih, ByteArray.append_assoc]

/-! ### Words -/

@[simp]
lemma length_littleDigits (width n : ℕ) : (littleDigits width n).length = width := by
  induction width generalizing n with
  | zero => rfl
  | succ width ih => simp [littleDigits, ih]

@[simp]
lemma size_little (width n : ℕ) : (little width n).size = width := by
  simp [little, ← ByteArray.size_data]

lemma little_succ (width n : ℕ) :
    little (width + 1) n = little 1 n ++ little width (n / 256) := by
  ext1
  simp [little, littleDigits]

lemma fields_eq_join (words : List (ℕ × ℕ)) :
    fields words = join (words.map fun word => little word.1 word.2) :=
  (foldl_append_eq_join (fun word : ℕ × ℕ => little word.1 word.2) words _).trans
    ByteArray.empty_append

/-- The sum of the widths. -/
lemma size_fields (words : List (ℕ × ℕ)) :
    (fields words).size = words.foldl (fun size word => size + word.1) 0 := by
  have hall : ∀ (words : List (ℕ × ℕ)) (out : ByteArray),
      (words.foldl (fun out word => out ++ little word.1 word.2) out).size =
        words.foldl (fun size word => size + word.1) out.size := by
    intro words
    induction words with
    | nil => simp
    | cons word words ih =>
        intro out
        simp only [List.foldl_cons, ih, ByteArray.size_append, size_little]
  exact hall words .empty

/-- A word is read where it stands. -/
lemma Stands.little?_eq (h : Stands bytes place (little width n)) :
    little? bytes place width = some (n % Nat.pow 256 width) := by
  have hslice := h.slice?_eq
  rw [size_little] at hslice
  rw [little?, hslice, Option.map_some, toList_eq, little, valueOf_littleDigits]

/-- **Each of the words** that stand one after the other is read, from the offset where those
before it end. -/
lemma Stands.word {words : List (ℕ × ℕ)} (h : Stands bytes place (fields words)) (i : ℕ)
    {offset : ℕ} (hoffset : (words.take i).foldl (fun size word => size + word.1) 0 = offset)
    (hword : words[i]? = some (width, n)) (hn : n < Nat.pow 256 width) :
    little? bytes (place + offset) width = some n := by
  obtain ⟨hi, hget⟩ := List.getElem?_eq_some_iff.mp hword
  have hsplit : fields words =
      fields (words.take i) ++ (little width n ++ fields (words.drop (i + 1))) := by
    simp only [fields_eq_join]
    conv_lhs => rw [← List.take_append_drop i words, List.drop_eq_getElem_cons hi, hget]
    rw [List.map_append, join_append, List.map_cons, join_cons]
  rw [hsplit] at h
  have hread := h.right.left.little?_eq
  rwa [size_fields, hoffset, Nat.mod_eq_of_lt hn] at hread

end Scaffold.Bytes

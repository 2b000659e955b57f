import Mathlib.Tactic
import Scaffold.Deflate
import Scaffold.Proofs.Words

/-!
Bytes that are packed as stored blocks are unpacked again.

* `Reads`: a reader goes from one state to another, with a result;
* `reads_word`: at the start of a byte, bits are read as the word that stands there;
* `reads_storedBlock`: a stored block is read as its bytes, and the next block follows;
* `inflate?_store`: so the bytes that were stored are read again.
-/

namespace Scaffold.Deflate

open Bytes Reader

variable {α β : Type} {bytes out part : ByteArray} {s s' s'' : Progress}

/-! ### Readers -/

/-- Reading goes from one state to another, with a result. -/
def Reads (bytes : ByteArray) (x : Reader α) (s : Progress) (a : α) (s' : Progress) : Prop :=
  (x.run bytes).run.run s = (.ok a, s')

lemma reads_pure (a : α) : Reads bytes (pure a) s a s := rfl

lemma Reads.bind {x : Reader α} {f : α → Reader β} {a : α} {b : β}
    (h : Reads bytes x s a s') (hf : Reads bytes (f a) s' b s'') :
    Reads bytes (x >>= f) s b s'' := by
  have hx : x bytes s = (.ok a, s') := h
  change ExceptT.bindCont (fun a => f a bytes) (x bytes s).1 (x bytes s).2 = (.ok b, s'')
  rw [hx]
  exact hf

lemma reads_read : Reads bytes read s bytes s := rfl

lemma reads_get : Reads bytes get s s s := rfl

lemma reads_modify (f : Progress → Progress) : Reads bytes (modify f) s () (f s) := rfl

/-! ### Bits -/

lemma reads_bit {k : ℕ} {b : UInt8} (hb : bytes[k]? = some b) (i : ℕ) (hi : i < 8)
    (out : ByteArray) :
    Reads bytes bit ⟨8 * k + i, out⟩ (b.toNat / 2 ^ i % 2) ⟨8 * k + (i + 1), out⟩ := by
  have hplace : (8 * k + i) / 8 = k := by omega
  have hbit : (8 * k + i) % 8 = i := by omega
  refine reads_get.bind (reads_read.bind ?_)
  simp only [hplace, hb]
  refine (reads_modify _).bind ?_
  rw [hbit]
  exact reads_pure _

/-- Bits of one byte, and bits after them. -/
lemma reads_bits_add {k : ℕ} {b : UInt8} (hb : bytes[k]? = some b) (i count more : ℕ) {value : ℕ}
    (hi : i + count ≤ 8) (hmore : Reads bytes (bits more) ⟨8 * k + (i + count), out⟩ value s) :
    Reads bytes (bits (count + more)) ⟨8 * k + i, out⟩
      (b.toNat / 2 ^ i % 2 ^ count + 2 ^ count * value) s := by
  induction count generalizing i with
  | zero => simpa [Nat.mod_one] using hmore
  | succ count ih =>
      have hrest : Reads bytes (bits (count + more)) ⟨8 * k + (i + 1), out⟩
          (b.toNat / 2 ^ (i + 1) % 2 ^ count + 2 ^ count * value) s := by
        refine ih (i + 1) (by omega) ?_
        rwa [show i + 1 + count = i + (count + 1) by omega]
      have hvalue : b.toNat / 2 ^ i % 2 ^ (count + 1) + 2 ^ (count + 1) * value =
          b.toNat / 2 ^ i % 2 + 2 * (b.toNat / 2 ^ (i + 1) % 2 ^ count + 2 ^ count * value) := by
        rw [Nat.pow_succ', Nat.mod_mul, Nat.div_div_eq_div_mul, ← Nat.pow_succ]
        ring
      rw [Nat.succ_add, hvalue, bits]
      exact (reads_bit hb i (by omega) out).bind (hrest.bind (reads_pure _))

/-- Bits of one byte. -/
lemma reads_bits {k : ℕ} {b : UInt8} (hb : bytes[k]? = some b) (i count : ℕ) (hi : i + count ≤ 8)
    (out : ByteArray) :
    Reads bytes (bits count) ⟨8 * k + i, out⟩ (b.toNat / 2 ^ i % 2 ^ count)
      ⟨8 * k + (i + count), out⟩ :=
  reads_bits_add hb i count 0 hi (reads_pure 0)

/-- A byte, and bits after it. -/
lemma reads_byte {k : ℕ} {b : UInt8} (hb : bytes[k]? = some b) (more : ℕ) {value : ℕ}
    (hmore : Reads bytes (bits more) ⟨8 * (k + 1), out⟩ value s) :
    Reads bytes (bits (8 + more)) ⟨8 * k, out⟩ (b.toNat + 256 * value) s := by
  have hread := reads_bits_add hb 0 8 more (Nat.le_refl 8) hmore
  rwa [Nat.pow_zero, Nat.div_one, Nat.mod_eq_of_lt b.toNat_lt] at hread

/-- At the start of a byte, bits are read as the word that stands there. -/
lemma reads_word {place width n : ℕ} (h : Stands bytes place (little width n))
    (hn : n < Nat.pow 256 width) (out : ByteArray) :
    Reads bytes (bits (8 * width)) ⟨8 * place, out⟩ n ⟨8 * (place + width), out⟩ := by
  induction width generalizing place n with
  | zero =>
      obtain rfl : n = 0 := Nat.lt_one_iff.mp hn
      exact reads_pure 0
  | succ width ih =>
      rw [little_succ] at h
      have hbyte : bytes[place]? = some (UInt8.ofNat (n % 256)) :=
        h.left.getElem?_eq 0 (by simp)
      have hvalue : n = (UInt8.ofNat (n % 256)).toNat + 256 * (n / 256) := by
        simp [Nat.mod_add_div]
      have hrest := ih h.right (Nat.div_lt_of_lt_mul (hn.trans_eq Nat.pow_succ'))
      rw [size_little, Nat.add_assoc, Nat.add_comm 1 width] at hrest
      rw [Nat.mul_succ, Nat.add_comm (8 * width) 8]
      have hread := reads_byte hbyte _ hrest
      rwa [← hvalue] at hread

/-! ### Stored blocks -/

lemma storedBlock_eq (last : Bool) (part : ByteArray) :
    storedBlock last part = little 1 (if last then 1 else 0) ++
      (little 2 part.size ++ (little 2 (65535 - part.size) ++ part)) := by
  simp [storedBlock, fields_eq_join, ByteArray.append_assoc]

lemma size_storedBlock (last : Bool) (part : ByteArray) :
    (storedBlock last part).size = part.size + 5 := by
  simp only [storedBlock_eq, ByteArray.size_append, size_little]
  omega

/-- The size of a stored block, and the size again with all bits flipped, stand before it. -/
lemma reads_stored {k : ℕ}
    (h : Stands bytes (k + 1) (little 2 part.size ++ (little 2 (65535 - part.size) ++ part)))
    (hpart : part.size ≤ 65535) (out : ByteArray) :
    Reads bytes stored ⟨8 * k + 3, out⟩ () ⟨8 * (k + (part.size + 5)), out ++ part⟩ := by
  have hword : Nat.pow 256 2 = 65536 := rfl
  have hsize := reads_word h.left (by omega) out
  have hflipped := reads_word h.right.left (by omega) out
  have hheld := h.right.right.extract_eq
  simp only [size_little] at hflipped hheld
  refine (reads_modify _).bind ?_
  rw [show (8 * k + 3 + 7) / 8 * 8 = 8 * (k + 1) by omega]
  refine hsize.bind (hflipped.bind ?_)
  rw [if_neg (by simp; omega)]
  refine reads_get.bind (reads_read.bind ((reads_modify _).bind ?_))
  simp only [show 8 * (k + 1 + 2 + 2) / 8 = k + 1 + 2 + 2 by omega, hheld, Nat.lt_irrefl,
    ↓reduceIte]
  rw [show 8 * (k + 1 + 2 + 2) + 8 * part.size = 8 * (k + (part.size + 5)) by omega]
  exact reads_pure ()

/-- **A stored block** is read as its bytes. Its first bit says whether it is the last one;
else further blocks follow. -/
lemma reads_storedBlock {place bound : ℕ} {last : Bool}
    (h : Stands bytes place (storedBlock last part)) (hpart : part.size ≤ blockSize)
    (hrest : Reads bytes (if last then pure () else blocks bound)
      ⟨8 * (place + (storedBlock last part).size), out ++ part⟩ () s) :
    Reads bytes (blocks (bound + 1)) ⟨8 * place, out⟩ () s := by
  rw [size_storedBlock] at hrest
  rw [storedBlock_eq] at h
  have hfirst : bytes[place]? = some (if last then 1 else 0) := by
    have hbyte := h.left.getElem?_eq 0 (by simp)
    cases last <;> exact hbyte
  have hlast := reads_bit hfirst 0 (by omega) out
  have hkind := reads_bits hfirst 1 2 (by omega) out
  have hstored := reads_stored h.right hpart out
  unfold blocks
  refine hlast.bind (hkind.bind ?_)
  cases last with
  | false => exact hstored.bind hrest
  | true => exact hstored.bind hrest

/-- Stored blocks are read as their bytes, one after the other. -/
lemma reads_blocks {place bound : ℕ} {front : List ByteArray}
    (h : Stands bytes place (join (front.map (storedBlock false)) ++ storedBlock true part))
    (hfront : ∀ p ∈ front, p.size ≤ blockSize) (hpart : part.size ≤ blockSize)
    (hbound : front.length < bound) :
    ∃ stop, Reads bytes (blocks bound) ⟨8 * place, out⟩ () ⟨stop, out ++ (join front ++ part)⟩ := by
  obtain ⟨bound, rfl⟩ : ∃ more, bound = more + 1 := ⟨bound - 1, by omega⟩
  induction front generalizing place bound out with
  | nil =>
      simp only [List.map_nil, join_nil, ByteArray.empty_append] at h ⊢
      exact ⟨_, reads_storedBlock h hpart (reads_pure ())⟩
  | cons p front ih =>
      simp only [List.map_cons, join_cons, ByteArray.append_assoc] at h ⊢
      obtain ⟨bound, rfl⟩ : ∃ more, bound = more + 1 :=
        ⟨bound - 1, by simp only [List.length_cons] at hbound; omega⟩
      obtain ⟨stop, hrest⟩ : ∃ stop, Reads bytes (blocks (bound + 1))
          ⟨8 * (place + (storedBlock false p).size), out ++ p⟩ ()
          ⟨stop, out ++ p ++ (join front ++ part)⟩ :=
        ih h.right (fun q hq => hfront q (List.mem_cons_of_mem _ hq)) bound (by simpa using hbound)
      refine ⟨stop, reads_storedBlock h.left (hfront p List.mem_cons_self) ?_⟩
      rwa [ByteArray.append_assoc] at hrest

/-! ### Packing -/

/-- The block with a number, of some bytes. -/
def chunk (bytes : ByteArray) (i : ℕ) : ByteArray :=
  bytes.extract (i * blockSize) ((i + 1) * blockSize)

lemma size_chunk_le (bytes : ByteArray) (i : ℕ) : (chunk bytes i).size ≤ blockSize := by
  simp only [chunk, ByteArray.size_extract, Nat.succ_mul]
  omega

lemma store_eq (bytes : ByteArray) :
    store bytes =
      join (((List.range ((bytes.size - 1) / blockSize)).map (chunk bytes)).map
        (storedBlock false)) ++ storedBlock true (chunk bytes ((bytes.size - 1) / blockSize)) := by
  set count := (bytes.size - 1) / blockSize with hcount
  have hfront : (List.range count).map (fun i => storedBlock (i == count) (chunk bytes i)) =
      ((List.range count).map (chunk bytes)).map (storedBlock false) := by
    rw [List.map_map]
    refine List.map_congr_left fun i hi => ?_
    have hne : (i == count) = false := by
      have hlt := List.mem_range.mp hi
      simp
      omega
    simp [hne]
  have hall : store bytes = join ((List.range (count + 1)).map
      fun i => storedBlock (i == count) (chunk bytes i)) :=
    (foldl_append_eq_join _ _ _).trans ByteArray.empty_append
  rw [hall, List.range_succ, List.map_append, join_append, hfront]
  simp

/-- The blocks make up the bytes. -/
lemma join_chunks (bytes : ByteArray) (count : ℕ) :
    join ((List.range count).map (chunk bytes)) = bytes.extract 0 (count * blockSize) := by
  induction count with
  | zero => simp
  | succ count ih =>
      rw [List.range_succ, List.map_append, join_append, ih]
      simp [chunk]

/-- There are no more blocks than bytes. -/
lemma length_le_size_blocks (front : List ByteArray) :
    front.length ≤ (join (front.map (storedBlock false))).size := by
  induction front with
  | nil => exact Nat.zero_le _
  | cons p front ih =>
      simp only [List.length_cons, List.map_cons, join_cons, ByteArray.size_append,
        size_storedBlock]
      omega

/-- **What is stored is read again.** -/
theorem inflate?_store (bytes : ByteArray) : inflate? (store bytes) = some bytes := by
  set count := (bytes.size - 1) / blockSize with hcount
  set front := (List.range count).map (chunk bytes) with hfront
  have hstore : store bytes =
      join (front.map (storedBlock false)) ++ storedBlock true (chunk bytes count) :=
    store_eq bytes
  have hwhole : join front ++ chunk bytes count = bytes := by
    have hsize : bytes.size ≤ (count + 1) * blockSize := by
      simp only [hcount, blockSize]
      omega
    have hall : bytes.extract 0 ((count + 1) * blockSize) = bytes := by
      rw [← Nat.max_eq_left hsize, ByteArray.extract_zero_max_size]
    rw [hfront, join_chunks]
    simpa [chunk] using hall
  have hlength : front.length < 8 * (store bytes).size + 1 := by
    have hle := length_le_size_blocks front
    rw [hstore, ByteArray.size_append]
    omega
  obtain ⟨stop, hread⟩ : ∃ stop, Reads (store bytes) (blocks (8 * (store bytes).size + 1))
      ⟨8 * 0, .empty⟩ () ⟨stop, .empty ++ (join front ++ chunk bytes count)⟩ :=
    reads_blocks (hstore ▸ Stands.whole (store bytes))
      (fun p hp => by
        obtain ⟨i, -, rfl⟩ := List.mem_map.mp hp
        exact size_chunk_le bytes i)
      (size_chunk_le bytes count) hlength
  rw [hwhole, ByteArray.empty_append] at hread
  unfold inflate?
  split
  · rename_i heq
    cases heq.symm.trans hread
  · rename_i heq
    obtain ⟨-, rfl⟩ := Prod.mk.inj (heq.symm.trans hread)
    rfl

end Scaffold.Deflate

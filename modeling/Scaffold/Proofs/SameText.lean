import Mathlib.Tactic
import Scaffold.Diff
import Scaffold.Proofs.Words
import Scaffold.Text.Utf8

/-!
A text that was written, read again and compared with itself.

* `Text.nextChar_utf8EncodeChar`: the bytes that a character is written as are read as the
  character, whatever follows them;
* `Text.ofBytes_toUTF8`: hence a text is read as it was written, although malformed bytes
  would be replaced;
* `Diff.hunks_self`: a text does not differ from itself. Its script keeps all lines, so there
  is no change that a group could stand around.
-/

namespace Scaffold

namespace Text

/-! ### Characters -/

section

variable {a b c d : UInt8} {tail : List UInt8}

lemma nextChar_of_lt (ha : a.toNat < 0x80) : nextChar a tail = (Char.ofNat a.toNat, tail) := by
  have hlt : a < 0x80 := UInt8.lt_iff_toNat_lt.mpr ha
  rw [nextChar, if_pos hlt]

/-- A first byte of some shape, with a second one within its bounds. -/
lemma nextChar_of_shape {low high : UInt8} {count : ℕ} (ha : 0x80 ≤ a.toNat)
    (hshape : sequenceShape a = some (low, high, count)) (hlow : low.toNat ≤ b.toNat)
    (hhigh : b.toNat ≤ high.toNat) :
    nextChar a (b :: tail) = continuation (leadBits a * 0x40 + b.toNat % 0x40) count tail := by
  have hge : ¬ a < 0x80 := fun hlt => Nat.not_lt.mpr ha (UInt8.lt_iff_toNat_lt.mp hlt)
  have hwithin : (low ≤ b && b ≤ high) = true := by simp [UInt8.le_iff_toNat_le, hlow, hhigh]
  simp only [nextChar, hge, hshape, hwithin, ↓reduceIte]

lemma continuation_succ (value count : ℕ) (hb : 0x80 ≤ b.toNat ∧ b.toNat ≤ 0xBF) :
    continuation value (count + 1) (b :: tail) =
      continuation (value * 0x40 + b.toNat % 0x40) count tail := by
  have hwithin : (0x80 ≤ b && b ≤ 0xBF) = true := by simp [UInt8.le_iff_toNat_le, hb]
  rw [continuation, if_pos hwithin]

lemma leadBits_eq : leadBits a = if a.toNat ≤ 0xDF then a.toNat % 0x20
    else if a.toNat ≤ 0xEF then a.toNat % 0x10 else a.toNat % 0x08 := by
  simp only [leadBits, UInt8.le_iff_toNat_le, UInt8.reduceToNat]

/-- A character of two bytes. -/
lemma nextChar_two (ha : 0xC2 ≤ a.toNat ∧ a.toNat ≤ 0xDF)
    (hb : 0x80 ≤ b.toNat ∧ b.toNat ≤ 0xBF) :
    nextChar a (b :: tail) = (Char.ofNat (a.toNat % 0x20 * 0x40 + b.toNat % 0x40), tail) := by
  have hshape : sequenceShape a = some (0x80, 0xBF, 0) := by
    simp [sequenceShape, UInt8.le_iff_toNat_le, ha]
  rw [nextChar_of_shape (by omega) hshape hb.1 hb.2, continuation, leadBits_eq, if_pos ha.2]

/-- A character of three bytes: overlong sequences and surrogates are excluded by the bounds
of the second byte. -/
lemma nextChar_three (ha : 0xE0 ≤ a.toNat ∧ a.toNat ≤ 0xEF)
    (hb : 0x80 ≤ b.toNat ∧ b.toNat ≤ 0xBF) (hlow : a.toNat = 0xE0 → 0xA0 ≤ b.toNat)
    (hhigh : a.toNat = 0xED → b.toNat ≤ 0x9F) (hc : 0x80 ≤ c.toNat ∧ c.toNat ≤ 0xBF) :
    nextChar a (b :: c :: tail) = (Char.ofNat
      ((a.toNat % 0x10 * 0x40 + b.toNat % 0x40) * 0x40 + c.toNat % 0x40), tail) := by
  have hshape : ∃ low high : UInt8, sequenceShape a = some (low, high, 1) ∧
      low.toNat ≤ b.toNat ∧ b.toNat ≤ high.toNat := by
    simp only [sequenceShape, UInt8.le_iff_toNat_le, ← UInt8.toNat_inj, beq_iff_eq,
      UInt8.reduceToNat, Bool.and_eq_true, decide_eq_true_eq]
    split_ifs with htwo hlowest hsurrogate
    · omega
    · exact ⟨_, _, rfl, hlow hlowest, hb.2⟩
    · exact ⟨_, _, rfl, hb.1, hhigh hsurrogate⟩
    · exact ⟨_, _, rfl, hb.1, hb.2⟩
    all_goals omega
  obtain ⟨low, high, hshape, hlow, hhigh⟩ := hshape
  rw [nextChar_of_shape (by omega) hshape hlow hhigh, continuation_succ _ _ hc, continuation,
    leadBits_eq, if_neg (by omega), if_pos ha.2]

/-- A character of four bytes: overlong sequences and numbers of no character are excluded by
the bounds of the second byte. -/
lemma nextChar_four (ha : 0xF0 ≤ a.toNat ∧ a.toNat ≤ 0xF4)
    (hb : 0x80 ≤ b.toNat ∧ b.toNat ≤ 0xBF) (hlow : a.toNat = 0xF0 → 0x90 ≤ b.toNat)
    (hhigh : a.toNat = 0xF4 → b.toNat ≤ 0x8F) (hc : 0x80 ≤ c.toNat ∧ c.toNat ≤ 0xBF)
    (hd : 0x80 ≤ d.toNat ∧ d.toNat ≤ 0xBF) :
    nextChar a (b :: c :: d :: tail) = (Char.ofNat (((a.toNat % 0x08 * 0x40 + b.toNat % 0x40) *
      0x40 + c.toNat % 0x40) * 0x40 + d.toNat % 0x40), tail) := by
  have hshape : ∃ low high : UInt8, sequenceShape a = some (low, high, 2) ∧
      low.toNat ≤ b.toNat ∧ b.toNat ≤ high.toNat := by
    simp only [sequenceShape, UInt8.le_iff_toNat_le, ← UInt8.toNat_inj, beq_iff_eq,
      UInt8.reduceToNat, Bool.and_eq_true, decide_eq_true_eq]
    split_ifs with htwo hfirst hsecond hthree hlowest hmiddle hhighest
    · omega
    · omega
    · omega
    · omega
    · exact ⟨_, _, rfl, hlow hlowest, hb.2⟩
    · exact ⟨_, _, rfl, hb.1, hb.2⟩
    · exact ⟨_, _, rfl, hb.1, hhigh hhighest⟩
    · omega
  obtain ⟨low, high, hshape, hlow, hhigh⟩ := hshape
  rw [nextChar_of_shape (by omega) hshape hlow hhigh, continuation_succ _ _ hc,
    continuation_succ _ _ hd, continuation, leadBits_eq, if_neg (by omega), if_neg (by omega)]

end

/-- **A character is read as it was written**, whatever follows it. -/
theorem nextChar_utf8EncodeChar (c : Char) (tail : List UInt8) :
    ∃ first rest, String.utf8EncodeChar c = first :: rest ∧
      nextChar first (rest ++ tail) = (c, tail) := by
  have hc : Char.ofNat c.val.toNat = c := Char.ofNat_toNat c
  have hvalid : c.val.toNat < 0xD800 ∨ 0xDFFF < c.val.toNat ∧ c.val.toNat < 0x110000 := c.valid
  have hbyte : ∀ n : ℕ, n < 256 → (UInt8.ofNat n).toNat = n := fun n hn => by
    simp [Nat.mod_eq_of_lt hn]
  unfold String.utf8EncodeChar
  dsimp only
  set v := c.val.toNat
  have hlast := hbyte (v % 64 + 128) (by omega)
  have hnext := hbyte (v / 64 % 64 + 128) (by omega)
  -- one, two, three or four bytes, by the number of the character
  split_ifs with hone htwo hthree
  · have hfirst := hbyte v (by omega)
    refine ⟨_, _, rfl, ?_⟩
    rw [List.nil_append, nextChar_of_lt (by omega), hfirst, hc]
  · have hfirst := hbyte (v / 64 % 32 + 192) (by omega)
    refine ⟨_, _, rfl, ?_⟩
    simp only [List.cons_append, List.nil_append]
    rw [nextChar_two (by omega) (by omega), hfirst, hlast, ← hc]
    congr 2
    omega
  · have hfirst := hbyte (v / 4096 % 16 + 224) (by omega)
    refine ⟨_, _, rfl, ?_⟩
    simp only [List.cons_append, List.nil_append]
    rw [nextChar_three (by omega) (by omega) (by omega) (by omega) (by omega), hfirst, hnext,
      hlast, ← hc]
    congr 2
    omega
  · have hfirst := hbyte (v / 262144 % 8 + 240) (by omega)
    have hsecond := hbyte (v / 4096 % 64 + 128) (by omega)
    refine ⟨_, _, rfl, ?_⟩
    simp only [List.cons_append, List.nil_append]
    rw [nextChar_four (by omega) (by omega) (by omega) (by omega) (by omega) (by omega), hfirst,
      hsecond, hnext, hlast, ← hc]
    congr 2
    omega

/-! ### Texts -/

lemma ofBytes_flatMap (cs : List Char) : ofBytes (cs.flatMap String.utf8EncodeChar) = cs := by
  induction cs with
  | nil => rw [List.flatMap_nil, ofBytes]
  | cons c rest ih =>
      obtain ⟨first, more, hc, hread⟩ :=
        nextChar_utf8EncodeChar c (rest.flatMap String.utf8EncodeChar)
      rw [List.flatMap_cons, hc, List.cons_append, ofBytes, hread, ih]

/-- The bytes of a text are those of its characters. -/
lemma toList_toUTF8 (text : String) :
    text.toUTF8.toList = text.toList.flatMap String.utf8EncodeChar := by
  rw [Bytes.toList_eq, String.toUTF8, ← String.utf8Encode_toList, List.utf8Encode,
    List.toList_data_toByteArray]

/-- **A text is read as it was written.** -/
theorem ofBytes_toUTF8 (text : String) :
    String.ofList (ofBytes text.toUTF8.toList) = text := by
  rw [toList_toUTF8, ofBytes_flatMap, String.ofList_toList]

end Text

namespace Diff

/-! ### Lines that are kept -/

lemma commonStart_self (lines : Array String) (i : ℕ) {count : ℕ} (h : i + count ≤ lines.size) :
    commonStart lines lines i i count = count := by
  induction count generalizing i with
  | zero => rfl
  | succ count ih =>
      have hline : lines[i]? = some lines[i] := Array.getElem?_eq_getElem (by omega)
      simp only [commonStart, hline, ↓reduceIte, ih (i + 1) (by omega)]

/-- The script from a text to itself: all lines are kept, if there are any. -/
def keepAll (count : ℕ) : List Edit :=
  if count = 0 then [] else [Edit.keep 0 0 count]

lemma script_self (lines : Array String) : (Sides.mk lines lines).script = keepAll lines.size := by
  have hfront : commonStart lines lines 0 0 lines.size = lines.size :=
    commonStart_self lines 0 (by omega)
  simp only [Sides.script, edits, Nat.min_self, hfront, Nat.sub_self, commonEnd, and_self,
    ↓reduceIte, List.append_nil, keepAll]

/-- A single edit of another kind is left as it is. -/
lemma tidyAction_singleton (s : Sides) {action : Action} (steps fuel : ℕ) {e : Edit}
    (he : e.action ≠ action) : tidyAction s action steps fuel [] [e] = [e] := by
  cases fuel with
  | zero => rfl
  | succ fuel =>
      rw [tidyAction, if_neg he]
      cases fuel <;> rfl

lemma edits_self (lines : Array String) : (Sides.mk lines lines).edits = keepAll lines.size := by
  rw [Sides.edits, script_self, keepAll]
  split_ifs
  · rfl
  · rw [tidy, tidyAction_singleton _ _ _ (by simp [Edit.keep]),
      tidyAction_singleton _ _ _ (by simp [Edit.keep])]
    rfl

/-- Kept lines stand around no change. -/
lemma groups_keepAll (count : ℕ) : groups (keepAll count) = [] := by
  unfold keepAll
  split_ifs with hcount
  · rfl
  · simp [groups, trimFirst, trimLast, Edit.keep, Edit.dropStart, Edit.dropEnd, Edit.moveDown,
      contextLines, cut]
    omega

/-- **A text does not differ from itself.** -/
theorem hunks_self (text : String) (limit : ℕ) : hunks text text limit = [] := by
  have hsides : ∃ lines, Sides.ofTexts text text = ⟨lines, lines⟩ := ⟨_, rfl⟩
  obtain ⟨lines, hlines⟩ := hsides
  rw [hunks, hlines, edits_self, groups_keepAll]
  rfl

end Diff

end Scaffold

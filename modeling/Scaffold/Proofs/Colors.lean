import Mathlib.Tactic
import Scaffold.Image

/-!
Colours in hexadecimal digits.

* `IsHexDigit`: a character is the digit of a number below sixteen, small or capital;
* `Color.IsSpelledBy`: a colour is spelled by two digits for each channel, or by one digit that is
  meant twice. `Color.exists_isSpelledBy_iff`: three or six digits spell a colour, and nothing
  else does;
* `Color.ofHex?_eq_some_iff`: a text is read as the colour that it spells when plus signs in front
  of a channel's last digit are read as zeros (`plusAsZero`);
* `hex_colors_read_plus_as_zero`: so digits are read by their value, and other texts are refused
  unless they have such a sign;
* `plus_signs_are_a_color`: a text where they do.
-/

namespace Scaffold.Image

open Text

/-! ### Digits -/

/-- The digit of a number below sixteen. -/
def IsHexDigit (c : Char) (n : ℕ) : Prop :=
  n < 16 ∧ (c = n.digitChar ∨ c = n.digitChar.toUpper)

section Digits

variable {c first second : Char} {n : ℕ} {value : UInt8}

lemma hexValue?_eq_some_iff : hexValue? c = some n ↔ IsHexDigit c n := by
  constructor
  · intro h
    have hc : Char.ofNat c.toNat = c := Char.ofNat_toNat c
    unfold hexValue? at h
    rw [← hc]
    split_ifs at h with hdigit hsmall hcapital <;> obtain rfl := Option.some.inj h
    · have hlow : 48 ≤ c.toNat := hdigit.1
      have hhigh : c.toNat ≤ 57 := hdigit.2
      generalize c.toNat = k at hlow hhigh ⊢
      interval_cases k <;> exact ⟨by decide, by decide⟩
    · have hlow : 97 ≤ c.toNat := hsmall.1
      have hhigh : c.toNat ≤ 102 := hsmall.2
      generalize c.toNat = k at hlow hhigh ⊢
      interval_cases k <;> exact ⟨by decide, by decide⟩
    · have hlow : 65 ≤ c.toNat := hcapital.1
      have hhigh : c.toNat ≤ 70 := hcapital.2
      generalize c.toNat = k at hlow hhigh ⊢
      interval_cases k <;> exact ⟨by decide, by decide⟩
  · rintro ⟨hn, hc⟩
    interval_cases n <;> rcases hc with rfl | rfl <;> rfl

/-- A plus sign is no digit. -/
lemma not_isHexDigit_plus (n : ℕ) : ¬ IsHexDigit '+' n := by
  rw [← hexValue?_eq_some_iff]
  exact nofun

/-- A channel is the number of its two digits. -/
def IsChannel (value : UInt8) (first second : Char) : Prop :=
  ∃ high low, IsHexDigit first high ∧ IsHexDigit second low ∧ value.toNat = 16 * high + low

/-- A plus sign counts as a zero. -/
def plusAsZero (c : Char) : Char :=
  if c = '+' then '0' else c

lemma plusAsZero_of_ne (h : c ≠ '+') : plusAsZero c = c := if_neg h

/-- Two digits are a channel. -/
lemma isChannel_ofNat {high low : ℕ} (hfirst : IsHexDigit first high)
    (hsecond : IsHexDigit second low) :
    IsChannel (UInt8.ofNat (16 * high + low)) first second := by
  have hhigh : high < 16 := hfirst.1
  have hlow : low < 16 := hsecond.1
  have hfits : 16 * high + low < 256 := by omega
  exact ⟨high, low, hfirst, hsecond, UInt8.toNat_ofNat_of_lt' hfits⟩

lemma channel?_eq (first second : Char) :
    channel? first second = (hexValue? second).bind fun low =>
      (hexValue? (plusAsZero first)).map fun high => UInt8.ofNat (16 * high + low) := by
  by_cases hplus : first = '+'
  · subst hplus
    rfl
  · have hbeq : (first == '+') = false := beq_false_of_ne hplus
    simp only [plusAsZero_of_ne hplus, channel?, hbeq, Bool.false_eq_true, if_false]
    cases hexValue? second <;> cases hexValue? first <;> rfl

/-- The first digit of a channel may be a plus sign. -/
lemma channel?_eq_some_iff :
    channel? first second = some value ↔ IsChannel value (plusAsZero first) second := by
  simp only [channel?_eq, Option.bind_eq_some_iff, Option.map_eq_some_iff, hexValue?_eq_some_iff]
  constructor
  · rintro ⟨low, hlow, high, hhigh, rfl⟩
    exact isChannel_ofNat hhigh hlow
  · rintro ⟨high, low, hhigh, hlow, hvalue⟩
    exact ⟨low, hlow, high, hhigh, by rw [← hvalue, UInt8.ofNat_toNat]⟩

/-- A digit that is meant twice is no plus sign. -/
lemma channel?_self_eq_some_iff : channel? c c = some value ↔ IsChannel value c c := by
  rw [channel?_eq_some_iff]
  by_cases hplus : c = '+'
  · subst hplus
    exact iff_of_false (fun ⟨_, low, _, hlow, _⟩ => not_isHexDigit_plus low hlow)
      fun ⟨_, low, _, hlow, _⟩ => not_isHexDigit_plus low hlow
  · rw [plusAsZero_of_ne hplus]

end Digits

/-! ### Colours -/

namespace Color

/-- A colour is spelled by one digit or two digits for each channel. -/
inductive IsSpelledBy (color : Color) : List Char → Prop
  | short {r g b : Char} : IsChannel color.red r r → IsChannel color.green g g →
      IsChannel color.blue b b → IsSpelledBy color [r, g, b]
  | long {r s g h b c : Char} : IsChannel color.red r s → IsChannel color.green g h →
      IsChannel color.blue b c → IsSpelledBy color [r, s, g, h, b, c]

/-- The characters that a colour is read from. -/
def bodyOf (text : String) : List Char :=
  (trim text.toList).dropWhile (· == '#')

/-- The plus signs in front of the last digits of six characters as zeros. -/
def plusesAsZeros : List Char → List Char
  | [r, s, g, h, b, c] => [plusAsZero r, s, plusAsZero g, h, plusAsZero b, c]
  | body => body

section Reading

variable {body : List Char} {color : Color} {text : String}

lemma plusesAsZeros_eq_self (h : '+' ∉ body) : plusesAsZeros body = body := by
  unfold plusesAsZeros
  split
  · simp only [List.mem_cons, List.not_mem_nil, or_false, not_or] at h
    obtain ⟨hr, -, hg, -, hb, -⟩ := h
    rw [plusAsZero_of_ne (Ne.symm hr), plusAsZero_of_ne (Ne.symm hg), plusAsZero_of_ne (Ne.symm hb)]
  · rfl

/-- What spells a colour are digits. -/
lemma IsSpelledBy.isHexDigit (h : color.IsSpelledBy body) {c : Char} (hc : c ∈ body) :
    ∃ n, IsHexDigit c n := by
  have hpair : ∀ {value : UInt8} {first second : Char}, IsChannel value first second →
      ∀ d ∈ [first, second], ∃ n, IsHexDigit d n := by
    rintro value first second ⟨high, low, hfirst, hsecond, -⟩ d hd
    rcases List.mem_pair.mp hd with rfl | rfl
    · exact ⟨high, hfirst⟩
    · exact ⟨low, hsecond⟩
  cases h with
  | short hr hg hb =>
      have hall := List.forall_mem_append.mpr ⟨hpair hr, List.forall_mem_append.mpr
        ⟨hpair hg, hpair hb⟩⟩
      exact hall c (by simpa using hc)
  | long hr hg hb =>
      have hall := List.forall_mem_append.mpr ⟨hpair hr, List.forall_mem_append.mpr
        ⟨hpair hg, hpair hb⟩⟩
      exact hall c (by simpa using hc)

lemma IsSpelledBy.not_mem (h : color.IsSpelledBy body) : '+' ∉ body := by
  intro hmem
  obtain ⟨n, hn⟩ := h.isHexDigit hmem
  exact not_isHexDigit_plus n hn

lemma exists_isChannel {first second : Char} (h : ∃ n, IsHexDigit first n)
    (h' : ∃ n, IsHexDigit second n) : ∃ value, IsChannel value first second := by
  obtain ⟨high, hfirst⟩ := h
  obtain ⟨low, hsecond⟩ := h'
  exact ⟨_, isChannel_ofNat hfirst hsecond⟩

/-- Three or six digits spell a colour. -/
lemma exists_isSpelledBy_iff :
    (∃ color : Color, color.IsSpelledBy body) ↔
      (body.length = 3 ∨ body.length = 6) ∧ ∀ c ∈ body, ∃ n, IsHexDigit c n := by
  constructor
  · rintro ⟨color, h⟩
    exact ⟨by cases h <;> simp, fun c hc => h.isHexDigit hc⟩
  · rintro ⟨hlength | hlength, hdigits⟩
    · obtain ⟨r, g, b, rfl⟩ := List.length_eq_three.mp hlength
      obtain ⟨red, hr⟩ := exists_isChannel (hdigits r (by simp)) (hdigits r (by simp))
      obtain ⟨green, hg⟩ := exists_isChannel (hdigits g (by simp)) (hdigits g (by simp))
      obtain ⟨blue, hb⟩ := exists_isChannel (hdigits b (by simp)) (hdigits b (by simp))
      exact ⟨⟨red, green, blue⟩, .short hr hg hb⟩
    · match body, hlength with
      | [r, s, g, h, b, c], _ =>
        obtain ⟨red, hr⟩ := exists_isChannel (hdigits r (by simp)) (hdigits s (by simp))
        obtain ⟨green, hg⟩ := exists_isChannel (hdigits g (by simp)) (hdigits h (by simp))
        obtain ⟨blue, hb⟩ := exists_isChannel (hdigits b (by simp)) (hdigits c (by simp))
        exact ⟨⟨red, green, blue⟩, .long hr hg hb⟩

/-- A text is read as the colour that it spells with zeros in place of plus signs. -/
lemma ofHex?_eq_some_iff :
    ofHex? text = some color ↔ color.IsSpelledBy (plusesAsZeros (bodyOf text)) := by
  have hthree : ∀ {a b c : Option UInt8},
      (do return (⟨← a, ← b, ← c⟩ : Color)) = some color ↔
        a = some color.red ∧ b = some color.green ∧ c = some color.blue := by
    intro a b c
    simp only [Option.bind_eq_bind, Option.bind_eq_some_iff, Option.pure_def, Option.some.injEq]
    constructor
    · rintro ⟨_, rfl, _, rfl, _, rfl, rfl⟩
      exact ⟨rfl, rfl, rfl⟩
    · rintro ⟨rfl, rfl, rfl⟩
      exact ⟨_, rfl, _, rfl, _, rfl, rfl⟩
  rw [ofHex?, ← bodyOf]
  split
  · rename_i r g b hbody
    rw [hthree, channel?_self_eq_some_iff, channel?_self_eq_some_iff, channel?_self_eq_some_iff,
      hbody]
    exact ⟨fun ⟨hr, hg, hb⟩ => .short hr hg hb, fun h => by cases h; exact ⟨‹_›, ‹_›, ‹_›⟩⟩
  · rename_i r s g h b c hbody
    rw [hthree, channel?_eq_some_iff, channel?_eq_some_iff, channel?_eq_some_iff, hbody]
    exact ⟨fun ⟨hr, hg, hb⟩ => .long hr hg hb, fun h => by cases h; exact ⟨‹_›, ‹_›, ‹_›⟩⟩
  · rename_i hshort hlong
    refine iff_of_false nofun fun h => ?_
    have hself : plusesAsZeros (bodyOf text) = bodyOf text := by
      unfold plusesAsZeros
      split
      · rename_i hbody
        exact absurd hbody (hlong _ _ _ _ _ _)
      · rfl
    rw [hself] at h
    generalize bodyOf text = body at h hshort hlong
    cases h with
    | short => exact hshort _ _ _ rfl
    | long => exact hlong _ _ _ _ _ _ rfl

/-- **A text is read as the colour that its digits spell**, three or six of them behind any number
signs. It holds of each text, and conversely, unless the text has plus signs and is read: a plus
sign in front of the last digit of a channel is taken for a zero. -/
theorem hex_colors_read_plus_as_zero (text : String) :
    (∀ color, ofHex? text = some color ↔ color.IsSpelledBy (plusesAsZeros (bodyOf text))) ∧
      ((∃ color : Color, color.IsSpelledBy (bodyOf text)) ↔
        ((bodyOf text).length = 3 ∨ (bodyOf text).length = 6) ∧
          ∀ c ∈ bodyOf text, ∃ n, IsHexDigit c n) ∧
      ((∀ color, ofHex? text = some color ↔ color.IsSpelledBy (bodyOf text)) ↔
        '+' ∉ bodyOf text ∨ ofHex? text = none) := by
  refine ⟨fun color => ofHex?_eq_some_iff, exists_isSpelledBy_iff, fun hspells => ?_, ?_⟩
  · by_contra hboth
    rw [not_or, not_not] at hboth
    obtain ⟨hplus, hread⟩ := hboth
    obtain ⟨color, hcolor⟩ := Option.ne_none_iff_exists'.mp hread
    exact ((hspells color).mp hcolor).not_mem hplus
  · intro h color
    rcases h with hplus | hnone
    · rw [ofHex?_eq_some_iff, plusesAsZeros_eq_self hplus]
    · refine iff_of_false (by rw [hnone]; exact nofun) fun hspelled => ?_
      have hread := ofHex?_eq_some_iff.mpr (by rwa [plusesAsZeros_eq_self hspelled.not_mem])
      rw [hnone] at hread
      cases hread

end Reading

/-- Three plus signs, each with a digit behind it, are read as a colour, and spell none. -/
theorem plus_signs_are_a_color :
    ofHex? "+1+2+3" = some ⟨1, 2, 3⟩ ∧ ¬ ∃ color : Color, color.IsSpelledBy (bodyOf "+1+2+3") :=
  ⟨by decide, fun ⟨_, h⟩ => h.not_mem (by decide)⟩

end Color

end Scaffold.Image

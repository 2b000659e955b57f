import Mathlib.Tactic
import Scaffold.Proofs.SpelledAddress

/-!
Addresses that are written in numbers.

A host may be an address of four bytes or of eight words, and the latter may stand for the former.
In whatever spelling it is written, what counts is the number that it is.

* `Ipv4.IsSpelledBy`: the numbers between the points of a host, each in a base of its own, spell
  an address (`exists_numbers_of_readHost`);
* `InNetwork`: a number lies in a network, which is given by its first address and the count of
  bits that all its addresses share. `Ipv4.closedNetworks` and `Ipv6.closedNetworks` list the
  networks that no download reaches;
* `Ipv4.blockReason?_eq_none_iff_networks` and `Ipv6.blockReason?_eq_none_iff_networks`: the
  addresses outside of these are accepted, and no others;
* `Ipv6.mapped?_eq_some_iff`: which addresses of eight words stand for one of four bytes;
* `literals_are_judged_by_value`: so a text is accepted or refused by the number that its host is,
  and only with one scheme.
-/

namespace Scaffold.Url

open Text

/-! ### Spellings -/

namespace Ipv4

/-- An address is spelled by numbers between points: all but the last one are bytes, and the last
one fills the bytes that are left. -/
structure IsSpelledBy (a : Ipv4) (front : List Nat) (last : Nat) : Prop where
  few : front.length < 4
  bytes : ∀ n ∈ front, n < 256
  fits : last < 256 ^ (4 - front.length)
  value : a.value.toNat = Nat.ofDigits 256 front.reverse * 256 ^ (4 - front.length) + last

/-- The numbers in front are put in their places from the left. -/
lemma foldl_zipIdx_eq {front : List Nat} {k : Nat} (h : k + front.length < 4) (n : Nat) :
    (front.zipIdx k).foldl (fun n p => n + p.1 * Nat.pow 256 (3 - p.2)) n =
      n + Nat.ofDigits 256 front.reverse * 256 ^ (4 - (k + front.length)) := by
  induction front generalizing k n with
  | nil => simp
  | cons first rest ih =>
      have hlength : k + (first :: rest).length = k + 1 + rest.length := by
        rw [List.length_cons]
        omega
      rw [hlength] at h ⊢
      have hplace : 256 ^ rest.length * 256 ^ (4 - (k + 1 + rest.length)) = 256 ^ (3 - k) := by
        rw [← Nat.pow_add]
        congr 1
        omega
      rw [List.zipIdx_cons, List.foldl_cons, ih h, List.reverse_cons, Nat.ofDigits_append,
        List.length_reverse, Nat.ofDigits_singleton, Nat.pow_eq, ← hplace]
      ring

lemma ofNumbers?_eq_some {numbers : List Nat} {a : Ipv4} (h : ofNumbers? numbers = some a) :
    ∃ front last, numbers = front ++ [last] ∧ a.IsSpelledBy front last := by
  induction numbers using List.reverseRecOn with
  | nil => simp [ofNumbers?] at h
  | append_singleton front last =>
      refine ⟨front, last, rfl, ?_⟩
      simp only [ofNumbers?, List.reverse_append, List.reverse_cons, List.reverse_nil,
        List.nil_append, List.cons_append, List.reverse_reverse, List.length_append,
        List.length_cons, List.length_nil] at h
      split_ifs at h with hbad
      push Not at hbad
      obtain ⟨hfew, hbytes, hfits⟩ := hbad
      have hfew : front.length < 4 := by omega
      have hbytes : ∀ n ∈ front, n < 256 := by
        simpa [Nat.lt_succ_iff] using hbytes
      have hfits : last < 256 ^ (4 - front.length) := hfits
      refine ⟨hfew, hbytes, hfits, ?_⟩
      have hhigh : Nat.ofDigits 256 front.reverse < 256 ^ front.length := by
        have hlt := Nat.ofDigits_lt_base_pow_length (b := 256) (l := front.reverse) (by decide)
          fun n hn => hbytes n (List.mem_reverse.mp hn)
        rwa [List.length_reverse] at hlt
      have hall : Nat.ofDigits 256 front.reverse * 256 ^ (4 - front.length) + last < 2 ^ 32 :=
        calc Nat.ofDigits 256 front.reverse * 256 ^ (4 - front.length) + last
            < (Nat.ofDigits 256 front.reverse + 1) * 256 ^ (4 - front.length) := by
              rw [Nat.add_mul, Nat.one_mul]
              omega
          _ ≤ 256 ^ front.length * 256 ^ (4 - front.length) := Nat.mul_le_mul_right _ hhigh
          _ = 2 ^ 32 := by
              rw [← Nat.pow_add, Nat.add_sub_cancel' hfew.le]
              rfl
      have hplaced := foldl_zipIdx_eq (k := 0) (by rwa [Nat.zero_add]) 0
      rw [Nat.zero_add, Nat.zero_add] at hplaced
      rw [← Option.some.inj h, hplaced, UInt32.toNat_ofNat', Nat.mod_eq_of_lt hall]

example : ["127.0.0.1", "0x7f.1", "0177.0.1", "017700000001", "2130706433"].map
    (fun host => ofHost? host.toList) = List.replicate 5 (some (ofBytes 127 0 0 1)) := by
  decide +kernel

end Ipv4

/-! ### Networks -/

/-- A number of some width in bits has its first bits in common with the first address of a
network. -/
def InNetwork (width n first bits : Nat) : Prop :=
  n / 2 ^ (width - bits) = first / 2 ^ (width - bits)

instance (width n first bits : Nat) : Decidable (InNetwork width n first bits) :=
  inferInstanceAs (Decidable (_ = _))

namespace Ipv4

/-- The networks of addresses of four bytes that are not public. -/
def closedNetworks : List (Ipv4 × Nat) :=
  [(ofBytes 0 0 0 0, 8), (ofBytes 10 0 0 0, 8), (ofBytes 100 64 0 0, 10), (ofBytes 127 0 0 0, 8),
    (ofBytes 169 254 0 0, 16), (ofBytes 172 16 0 0, 12), (ofBytes 192 168 0 0, 16),
    (ofBytes 224 0 0 0, 4), (ofBytes 255 255 255 255, 32)]

/-- An address lies in none of these. -/
def IsOpen (a : Ipv4) : Prop :=
  ∀ network ∈ closedNetworks,
    ¬ InNetwork 32 a.value.toNat network.1.value.toNat network.2

instance (a : Ipv4) : Decidable a.IsOpen :=
  inferInstanceAs (Decidable (∀ network ∈ closedNetworks, _))

/-- The addresses of these networks are those of the blocked ranges. -/
lemma isOpen_iff (a : Ipv4) : a.IsOpen ↔ ¬ a.IsBlocked := by
  have hn : a.value.toNat < 2 ^ 32 := a.value.toNat_lt
  simp only [IsOpen, IsBlocked, closedNetworks, blockedRanges, InNetwork]
  generalize a.value.toNat = n at hn
  simp [ofBytes]
  omega

/-- **An address of four bytes is accepted** outside of the networks that are not public. -/
lemma blockReason?_eq_none_iff_networks (a : Ipv4) : a.blockReason? = none ↔ a.IsOpen := by
  rw [blockReason?_eq_none_iff, isOpen_iff]

end Ipv4

namespace Ipv6

/-- The number that an address of eight words is. -/
def value (b : Ipv6) : Nat :=
  Nat.ofDigits 0x10000 b.toList.reverse

/-- The networks of addresses of eight words that are not public. -/
def closedNetworks : List (Nat × Nat) :=
  [(0, 128), (1, 128), (0xFC00 * 2 ^ 112, 7), (0xFE80 * 2 ^ 112, 10), (0xFF00 * 2 ^ 112, 8)]

/-- An address lies in none of these. -/
def IsOpen (b : Ipv6) : Prop :=
  ∀ network ∈ closedNetworks, ¬ InNetwork 128 b.value network.1 network.2

instance (b : Ipv6) : Decidable b.IsOpen :=
  inferInstanceAs (Decidable (∀ network ∈ closedNetworks, _))

/-- An address stands for one of four bytes: those are its last ones, behind two bytes of ones
and ten of zeros. -/
def StandsFor (b : Ipv6) (a : Ipv4) : Prop :=
  b.value = 0xFFFF * 2 ^ 32 + a.value.toNat

instance (b : Ipv6) (a : Ipv4) : Decidable (b.StandsFor a) :=
  inferInstanceAs (Decidable (_ = _))

variable {b : Ipv6} {a : Ipv4}

lemma length_toList (b : Ipv6) : b.toList.length = 8 := by simp [toList]

lemma lt_of_mem_toList {w : Nat} (h : w ∈ b.toList) : w < 0x10000 := by
  obtain ⟨word, -, rfl⟩ := List.mem_map.mp h
  exact word.toNat_lt

/-- Addresses of one number have the same words. -/
lemma toList_eq_iff {words : List Nat} (hlength : words.length = 8)
    (hbound : ∀ w ∈ words, w < 0x10000) :
    b.toList = words ↔ b.value = Nat.ofDigits 0x10000 words.reverse := by
  refine ⟨fun h => by rw [value, h], fun h => ?_⟩
  refine List.reverse_injective (Nat.ofDigits_inj_of_len_eq (by decide) ?_ ?_ ?_ h)
  · rw [List.length_reverse, List.length_reverse, length_toList, hlength]
  · exact fun w hw => lt_of_mem_toList (List.mem_reverse.mp hw)
  · exact fun w hw => hbound w (List.mem_reverse.mp hw)

/-- The first bits of an address are those of its first word. -/
lemma value_div (b : Ipv6) {bits : Nat} (hbits : bits ≤ 16) :
    b.value / 2 ^ (128 - bits) = b.toList.headD 0 / 2 ^ (16 - bits) := by
  obtain ⟨first, rest, hwords⟩ := List.exists_cons_of_length_eq_add_one b.length_toList
  have hrest : rest.reverse.length = 7 := by
    have := b.length_toList
    simp_all
  have hlow : Nat.ofDigits 0x10000 rest.reverse < 2 ^ 112 := by
    have hlt := Nat.ofDigits_lt_base_pow_length (b := 0x10000) (l := rest.reverse) (by decide)
      fun w hw => lt_of_mem_toList (b := b) (by simp_all)
    rw [hrest] at hlt
    exact hlt
  have hfirst : b.value / 2 ^ 112 = first := by
    rw [value, hwords, List.reverse_cons, Nat.ofDigits_append, hrest, Nat.ofDigits_singleton]
    omega
  have hpow : 2 ^ (128 - bits) = 2 ^ 112 * 2 ^ (16 - bits) := by
    rw [← Nat.pow_add]
    congr 1
    omega
  rw [hpow, ← Nat.div_div_eq_div_mul, hfirst, hwords, List.headD_cons]

/-- Two words as one number. -/
lemma value_ofBytes {high low : Nat} (hhigh : high < 0x10000) (hlow : low < 0x10000) :
    (Ipv4.ofBytes (high / 256) (high % 256) (low / 256) (low % 256)).value.toNat =
      0x10000 * high + low := by
  rw [Ipv4.ofBytes, UInt32.toNat_ofNat']
  omega

/-- **Which address is stood for** is read off from the words. -/
lemma mapped?_eq_some_iff : b.mapped? = some a ↔ b.StandsFor a := by
  have hdigits (high low : Nat) : Nat.ofDigits 0x10000 [0, 0, 0, 0, 0, 0xFFFF, high, low].reverse =
      0xFFFF * 2 ^ 32 + (0x10000 * high + low) := by
    simp only [List.reverse_cons, List.reverse_nil, List.nil_append, List.cons_append,
      Nat.ofDigits_cons, Nat.ofDigits_nil]
    omega
  constructor
  · intro h
    unfold mapped? at h
    split at h
    · next high low hwords =>
        obtain rfl := Option.some.inj h
        have hbound : high < 0x10000 ∧ low < 0x10000 :=
          ⟨lt_of_mem_toList (b := b) (by simp [hwords]),
            lt_of_mem_toList (b := b) (by simp [hwords])⟩
        rw [StandsFor, value_ofBytes hbound.1 hbound.2, value, hwords, hdigits]
    · simp at h
  · intro h
    have ha : a.value.toNat < 2 ^ 32 := a.value.toNat_lt
    have hhigh : a.value.toNat / 0x10000 < 0x10000 := by omega
    have hlow : a.value.toNat % 0x10000 < 0x10000 := by omega
    have hwords : b.toList = [0, 0, 0, 0, 0, 0xFFFF, a.value.toNat / 0x10000,
        a.value.toNat % 0x10000] := by
      rw [toList_eq_iff rfl (by simp [hhigh, hlow]), hdigits, h]
      omega
    have hsame := value_ofBytes hhigh hlow
    rw [Nat.div_add_mod] at hsame
    rw [mapped?, hwords]
    exact congrArg (fun n => some (Ipv4.mk n)) (UInt32.toNat_inj.mp hsame)

/-- **An address of eight words is accepted** outside of the networks that are not public, if it
stands for no address of four bytes. -/
lemma blockReason?_eq_none_iff_networks (hb : ∀ a, ¬ b.StandsFor a) :
    b.blockReason? = none ↔ b.IsOpen := by
  have hmapped : b.mapped? = none :=
    Option.eq_none_iff_forall_ne_some.mpr fun a ha => hb a (mapped?_eq_some_iff.mp ha)
  have hnull : b.toList = [0, 0, 0, 0, 0, 0, 0, 0] ↔ b.value = 0 :=
    toList_eq_iff rfl (by decide)
  have hown : b.toList = [0, 0, 0, 0, 0, 0, 0, 1] ↔ b.value = 1 :=
    toList_eq_iff rfl (by decide)
  rw [blockReason?, hmapped]
  simp only [hnull, hown, ite_some_eq_none, and_true, IsOpen, closedNetworks, InNetwork,
    List.forall_mem_cons, List.not_mem_nil, false_implies, implies_true,
    b.value_div (by decide : 7 ≤ 16), b.value_div (by decide : 10 ≤ 16),
    b.value_div (by decide : 8 ≤ 16)]
  generalize b.toList.headD 0 = first
  generalize b.value = n
  omega

end Ipv6

/-! ### Downloads -/

/-- The scheme of an address, and what follows its colon. -/
def schemeAndRest? (text : String) : Option (List Char × List Char) :=
  splitScheme? ((trimBy isEdge text.toList).filter (!isSkipped ·))

/-- The host, as it is written behind the colon of the scheme. -/
def writtenHost (rest : List Char) : List Char :=
  let authority :=
    (rest.dropWhile fun c => c == '/' || c == '\\').takeWhile (!endsAuthority .web ·)
  (splitPort (splitUser authority).2).1

/-- The host in plain ASCII, with escapes read. -/
def asciiHost? (host : List Char) : Option (List Char) :=
  (String.fromUTF8? (ByteArray.mk (unescape host).toArray)).bind fun decoded =>
    Domain.toAscii? decoded.toList

/-- What two steps give comes from what the first one gives. -/
lemma exists_of_bind_eq_ok {ε α β : Type} {x : Except ε α} {f : α → Except ε β} {b : β}
    (h : x >>= f = .ok b) : ∃ a, x = .ok a ∧ f a = .ok b := by
  cases x with
  | error e => simp [bind, Except.bind] at h
  | ok a => exact ⟨a, rfl, h⟩

lemma readHost_of_readWeb {scheme rest : List Char} {u : Url}
    (h : readWeb scheme (rest.dropWhile fun c => c == '/' || c == '\\') = .ok u) :
    readHost (writtenHost rest) = .ok u.host := by
  unfold readWeb at h
  dsimp only at h
  split_ifs at h
  · obtain ⟨_, hthrow, -⟩ := exists_of_bind_eq_ok h
    simp [throw, throwThe, MonadExceptOf.throw] at hthrow
  · obtain ⟨host, hhost, hrest⟩ := exists_of_bind_eq_ok h
    obtain ⟨port, -, hurl⟩ := exists_of_bind_eq_ok hrest
    obtain rfl := Except.ok.inj hurl
    exact hhost

/-- Only addresses with one scheme are read as those of downloads. -/
lemma exists_rest_of_read {text : String} {u : Url} (h : read text = .ok (.https u)) :
    ∃ rest, schemeAndRest? text = some ("https".toList, rest) ∧
      readHost (writtenHost rest) = .ok u.host := by
  unfold read at h
  dsimp only at h
  split at h
  · simp [throw, throwThe, MonadExceptOf.throw] at h
  · next scheme rest hsplit =>
      split at h
      · obtain ⟨v, hweb, hv⟩ := exists_of_bind_eq_ok h
        split_ifs at hv with hscheme
        · obtain rfl : v = u := by simpa [pure, Except.pure] using hv
          exact ⟨rest, hscheme ▸ hsplit, readHost_of_readWeb hweb⟩
        · simp [pure, Except.pure] at hv
      · obtain ⟨-, -, hother⟩ := exists_of_bind_eq_ok h
        simp [pure, Except.pure] at hother
      · split_ifs at h
        · obtain ⟨-, -, hother⟩ := exists_of_bind_eq_ok h
          simp [pure, Except.pure] at hother
        · simp [pure, Except.pure] at h

/-- An address of four bytes is the number that its host spells. -/
lemma exists_numbers_of_readHost {cs : List Char} {a : Ipv4} (h : readHost cs = .ok (.ipv4 a)) :
    ∃ ascii front last, asciiHost? cs = some ascii ∧
      (Ipv4.numberParts ascii).mapM Ipv4.number? = some (front ++ [last]) ∧
      a.IsSpelledBy front last := by
  unfold readHost at h
  split at h
  · split at h
    · next host hhost =>
        obtain ⟨-, b, -, rfl⟩ : _ ∧ ∃ b, _ ∧ Host.ipv6 b = host := by
          simpa [bracketedHost?] using hhost
        simp at h
    · simp at h
  · split at h
    · simp at h
    · next decoded hdecoded =>
      split at h
      · simp at h
      · simp at h
      · next ascii _ hascii =>
        split_ifs at h
        · split at h
          · next b hb =>
              obtain rfl : b = a := by simpa using h
              obtain ⟨numbers, hnumbers, hb⟩ := Option.bind_eq_some_iff.mp hb
              obtain ⟨front, last, rfl, hspelled⟩ := Ipv4.ofNumbers?_eq_some hb
              exact ⟨ascii, front, last, by rw [asciiHost?, hdecoded]; exact hascii, hnumbers,
                hspelled⟩
          · simp at h
        · simp at h

/-- An address that is read as that of a download is judged by its host. -/
lemma guard_eq_ok_iff {text : String} {u : Url}
    (h : read (String.ofList (trim text.toList)) = .ok (.https u)) :
    guard text = .ok u ↔ u.host.blockReason? = none := by
  rw [guard, h]
  dsimp only
  split <;> simp_all

/-- What is accepted is the address that was read. -/
lemma read_of_guard {text : String} {u : Url} (h : guard text = .ok u) :
    read (String.ofList (trim text.toList)) = .ok (.https u) := by
  unfold guard at h
  split at h
  · simp at h
  · simp at h
  · next v hread =>
      split at h
      · simp at h
      · rw [hread, Except.ok.inj h]

/-- **Addresses in numbers are judged by value**, in whatever spelling they are. A text with an
address of four bytes for a host, or with one of eight words that stands for it, is accepted
exactly if the address of four bytes lies in none of its closed networks. With any other address
of eight words it is accepted exactly if this lies in none of theirs. An address of four bytes is
the number that one to four numbers spell: each but the last one is a byte, and the last one
fills all bytes that are left. No text with another scheme than `https` is accepted. -/
theorem literals_are_judged_by_value (text : String) :
    let written := String.ofList (trim text.toList)
    (∀ u a, read written = .ok (.https u) →
      (u.host = .ipv4 a ∨ ∃ b, u.host = .ipv6 b ∧ b.StandsFor a) →
        (guard text = .ok u ↔ a.IsOpen)) ∧
    (∀ u b, read written = .ok (.https u) → u.host = .ipv6 b → (∀ a, ¬ b.StandsFor a) →
      (guard text = .ok u ↔ b.IsOpen)) ∧
    (∀ u a, read written = .ok (.https u) → u.host = .ipv4 a →
      ∃ rest ascii front last, schemeAndRest? written = some ("https".toList, rest) ∧
        asciiHost? (writtenHost rest) = some ascii ∧
        (Ipv4.numberParts ascii).mapM Ipv4.number? = some (front ++ [last]) ∧
        a.IsSpelledBy front last) ∧
    ∀ u, guard text = .ok u → ∃ rest, schemeAndRest? written = some ("https".toList, rest) := by
  refine ⟨fun u a hread hhost => ?_, fun u b hread hhost hb => ?_, fun u a hread hhost => ?_,
    fun u hu => ?_⟩
  · rw [guard_eq_ok_iff hread, ← a.blockReason?_eq_none_iff_networks]
    obtain hhost | ⟨b, hhost, hb⟩ := hhost
    · rw [hhost, Host.blockReason?]
    · rw [hhost, Host.blockReason?, Ipv6.blockReason?, Ipv6.mapped?_eq_some_iff.mpr hb]
  · rw [guard_eq_ok_iff hread, hhost, Host.blockReason?,
      Ipv6.blockReason?_eq_none_iff_networks hb]
  · obtain ⟨rest, hscheme, hrest⟩ := exists_rest_of_read hread
    obtain ⟨ascii, front, last, hspelled⟩ :=
      exists_numbers_of_readHost (hrest.trans (by rw [hhost]))
    exact ⟨rest, ascii, front, last, hscheme, hspelled⟩
  · obtain ⟨rest, hscheme, -⟩ := exists_rest_of_read (read_of_guard hu)
    exact ⟨rest, hscheme⟩

/-- A public address of four bytes, the own machine, and a public address of eight words. -/
theorem literals_are_judged_by_value_in_brackets :
    let urlOf (b : Ipv6) : Url := ⟨[], .ipv6 b, none, ['/'], none, none⟩
    let outer : Ipv6 := ⟨#v[0, 0, 0, 0, 0, 0xFFFF, 0x0808, 0x0808]⟩
    let own : Ipv6 := ⟨#v[0, 0, 0, 0, 0, 0xFFFF, 0x7F00, 1]⟩
    let long : Ipv6 := ⟨#v[0x2001, 0xDB8, 0, 0, 0, 0, 0, 1]⟩
    guard " https://[::ffff:8.8.8.8] " = .ok (urlOf outer) ∧
      guard "HTTPS://[::FFFF:7f00:1]/" ≠ .ok (urlOf own) ∧
      guard "https:[2001:db8::1]/" = .ok (urlOf long) := by
  intro urlOf outer own long
  have houter : read (String.ofList (trim " https://[::ffff:8.8.8.8] ".toList)) =
      .ok (.https (urlOf outer)) := by decide +kernel
  have hown : read (String.ofList (trim "HTTPS://[::FFFF:7f00:1]/".toList)) =
      .ok (.https (urlOf own)) := by decide +kernel
  have hlong : read (String.ofList (trim "https:[2001:db8::1]/".toList)) =
      .ok (.https (urlOf long)) := by decide +kernel
  have hopen : (Ipv4.ofBytes 8 8 8 8).IsOpen ∧ ¬ (Ipv4.ofBytes 127 0 0 1).IsOpen ∧ long.IsOpen := by
    decide +kernel
  have hstands : outer.StandsFor (.ofBytes 8 8 8 8) ∧ own.StandsFor (.ofBytes 127 0 0 1) := by
    decide +kernel
  have hnone : ∀ a, ¬ long.StandsFor a := fun a ha => by
    have hvalue : long.value / 2 ^ 32 ≠ 0xFFFF := by decide +kernel
    have hbytes : a.value.toNat < 2 ^ 32 := a.value.toNat_lt
    rw [Ipv6.StandsFor] at ha
    omega
  obtain ⟨hfour, -⟩ := literals_are_judged_by_value " https://[::ffff:8.8.8.8] "
  obtain ⟨hfour', -⟩ := literals_are_judged_by_value "HTTPS://[::FFFF:7f00:1]/"
  obtain ⟨-, hwords, -⟩ := literals_are_judged_by_value "https:[2001:db8::1]/"
  exact ⟨(hfour _ _ houter (.inr ⟨_, rfl, hstands.1⟩)).mpr hopen.1,
    mt (hfour' _ _ hown (.inr ⟨_, rfl, hstands.2⟩)).mp hopen.2.1,
    (hwords _ _ hlong rfl hnone).mpr hopen.2.2⟩

end Scaffold.Url

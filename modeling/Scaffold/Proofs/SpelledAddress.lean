import Mathlib.Tactic
import Scaffold.Url.Guard

/-!
Addresses that are spelled in names of hosts.

* `Ipv4.IsBlocked`: the networks that no download reaches, given by their first and last
  addresses; `Ipv4.blockReason?_eq_none_iff` says that these are refused;
* `Domain.Spells`: a name spells an address, in four labels in a row or in one label with
  hyphens; `Domain.spelled` lists what it spells, in the order in which it is looked for;
* `Domain.first_spelled_not_blocked`: a name is judged by the first address of this list.
  So a name that spells no other is refused if it spells a blocked one;
* `Domain.later_spelled_not_judged`: but a blocked address may follow a public one;
* `not_isBlocked_of_guard`: what this means for the hosts of downloads.
-/

namespace Scaffold.Url

open Text

/-! ### Blocked addresses -/

/-- The first and the last address of each network that is not public. -/
def blockedRanges : List (Nat × Nat) :=
  [(0x7F000000, 0x7FFFFFFF), (0x0A000000, 0x0AFFFFFF), (0xAC100000, 0xAC1FFFFF),
    (0xC0A80000, 0xC0A8FFFF), (0xA9FE0000, 0xA9FEFFFF), (0xFFFFFFFF, 0xFFFFFFFF),
    (0xE0000000, 0xEFFFFFFF), (0, 0x00FFFFFF), (0x64400000, 0x647FFFFF)]

/-- An address lies in a network that is not public. -/
def Ipv4.IsBlocked (a : Ipv4) : Prop :=
  ∃ range ∈ blockedRanges, range.1 ≤ a.value.toNat ∧ a.value.toNat ≤ range.2

instance (a : Ipv4) : Decidable a.IsBlocked :=
  inferInstanceAs (Decidable (∃ range ∈ blockedRanges, _))

/-- There is no reason if none of several conditions holds. -/
lemma ite_some_eq_none {α : Type} {c : Prop} [Decidable c] {reason : α} {rest : Option α} :
    (if c then some reason else rest) = none ↔ ¬ c ∧ rest = none := by
  split_ifs with h <;> simp [h]

/-- The addresses for which there is no reason to refuse them are the public ones. -/
lemma Ipv4.blockReason?_eq_none_iff (a : Ipv4) : a.blockReason? = none ↔ ¬ a.IsBlocked := by
  have hn : a.value.toNat < 2 ^ 32 := a.value.toNat_lt
  simp only [blockReason?, bytes, IsBlocked, blockedRanges]
  generalize a.value.toNat = n at hn
  -- each reason is given for the addresses of some ranges
  have hloopback : n / 0x1000000 = 127 ↔ 0x7F000000 ≤ n ∧ n ≤ 0x7FFFFFFF := by omega
  have hprivate : (n / 0x1000000 = 10 ∨
      (n / 0x1000000 = 172 ∧ 16 ≤ n / 0x10000 % 256 ∧ n / 0x10000 % 256 < 32) ∨
      (n / 0x1000000 = 192 ∧ n / 0x10000 % 256 = 168)) ↔
      (0x0A000000 ≤ n ∧ n ≤ 0x0AFFFFFF) ∨ (0xAC100000 ≤ n ∧ n ≤ 0xAC1FFFFF) ∨
        (0xC0A80000 ≤ n ∧ n ≤ 0xC0A8FFFF) := by omega
  have hlinkLocal : (n / 0x1000000 = 169 ∧ n / 0x10000 % 256 = 254) ↔
      0xA9FE0000 ≤ n ∧ n ≤ 0xA9FEFFFF := by omega
  have hmulticast : ((n / 0x1000000 = 255 ∧ n / 0x10000 % 256 = 255 ∧ n / 0x100 % 256 = 255 ∧
      n % 256 = 255) ∨ (224 ≤ n / 0x1000000 ∧ n / 0x1000000 < 240)) ↔
      (0xFFFFFFFF ≤ n ∧ n ≤ 0xFFFFFFFF) ∨ (0xE0000000 ≤ n ∧ n ≤ 0xEFFFFFFF) := by omega
  have hunspecified : n / 0x1000000 = 0 ↔ 0 ≤ n ∧ n ≤ 0x00FFFFFF := by omega
  have hshared : (n / 0x1000000 = 100 ∧ 64 ≤ n / 0x10000 % 256 ∧ n / 0x10000 % 256 < 128) ↔
      0x64400000 ≤ n ∧ n ≤ 0x647FFFFF := by omega
  simp only [hloopback, hprivate, hlinkLocal, hmulticast, hunspecified, hshared,
    ite_some_eq_none, List.mem_cons, List.not_mem_nil, or_false, exists_eq_or_imp, exists_eq_left,
    not_or, and_assoc, and_true]

namespace Domain

/-! ### Spelled addresses -/

/-- The labels of a name, in small letters and without points at its end. -/
def labels (name : List Char) : List (List Char) :=
  splitOn '.' (asciiLower (dropEndWhile (· == '.') name))

/-- A name spells an address: four labels in a row do, with points between them, or one
label does, with its hyphens read as points. -/
def Spells (name : List Char) (a : Ipv4) : Prop :=
  (∃ w, w.length = 4 ∧ w <:+: labels name ∧ Ipv4.ofDotted? (join ['.'] w) = some a) ∨
    ∃ label ∈ labels name, Ipv4.ofDotted? (replaceChar '-' ['.'] label) = some a

/-- The addresses that a name spells: those of four labels, then those of one. -/
def spelled (name : List Char) : List Ipv4 :=
  (windows (labels name)).filterMap (fun w => Ipv4.ofDotted? (join ['.'] w)) ++
    (labels name).filterMap fun label => Ipv4.ofDotted? (replaceChar '-' ['.'] label)

/-- The windows of a list are all its parts of length four. -/
lemma mem_windows {w ls : List (List Char)} : w ∈ windows ls ↔ w.length = 4 ∧ w <:+: ls := by
  induction ls using windows.induct with
  | case1 a b c d rest ih =>
      have hcons : w <:+: a :: b :: c :: d :: rest ↔
          w <+: a :: b :: c :: d :: rest ∨ w <:+: b :: c :: d :: rest := List.infix_cons_iff
      rw [windows, List.mem_cons, ih, hcons]
      constructor
      · rintro (rfl | ⟨hlen, hin⟩)
        · exact ⟨rfl, .inl ⟨rest, rfl⟩⟩
        · exact ⟨hlen, .inr hin⟩
      · rintro ⟨hlen, hpre | hin⟩
        · have htake := List.prefix_iff_eq_take.mp hpre
          rw [hlen] at htake
          exact .inl htake
        · exact .inr ⟨hlen, hin⟩
  | case2 ls hshort =>
      have hlt : ls.length < 4 := by
        match ls, hshort with
        | [], _ | [_], _ | [_, _], _ | [_, _, _], _ => simp
        | a :: b :: c :: d :: rest, h => exact (h a b c d rest rfl).elim
      rw [windows]
      · refine iff_of_false (by simp) fun ⟨hlen, hin⟩ => ?_
        have hle := hin.length_le
        omega
      · exact hshort

lemma mem_spelled {name : List Char} {a : Ipv4} : a ∈ spelled name ↔ Spells name a := by
  simp only [spelled, Spells, List.mem_append, List.mem_filterMap, mem_windows, and_assoc]

/-- What is looked for is the first of these addresses. -/
lemma embedded?_eq (name : List Char) :
    embedded? (asciiLower (dropEndWhile (· == '.') name)) = (spelled name).head? := by
  rw [spelled, List.head?_append, List.head?_filterMap, List.head?_filterMap]
  rfl

/-- A name is judged by the first address that it spells. -/
lemma not_isBlocked_of_head? {name : List Char} (h : blockReason? name = none) {a : Ipv4}
    (ha : (spelled name).head? = some a) : ¬ a.IsBlocked := by
  rw [← Ipv4.blockReason?_eq_none_iff]
  unfold blockReason? at h
  simp only [embedded?_eq, ha] at h
  split_ifs at h
  split at h
  · simp at h
  · rcases hreason : a.blockReason? with _ | reason
    · rfl
    · simp [hreason] at h

/-- **The first address that a name spells** is public, if the name is not refused. So all
that it spells is public if and only if all but the first is. -/
theorem first_spelled_not_blocked {name : List Char} (h : blockReason? name = none) :
    (∀ a, (spelled name).head? = some a → ¬ a.IsBlocked) ∧
      ((∀ a, Spells name a → ¬ a.IsBlocked) ↔ ∀ a ∈ (spelled name).tail, ¬ a.IsBlocked) := by
  have hfirst : ∀ a, (spelled name).head? = some a → ¬ a.IsBlocked := fun _ =>
    not_isBlocked_of_head? h
  refine ⟨hfirst, ?_⟩
  simp only [← mem_spelled]
  cases hs : spelled name with
  | nil => simp
  | cons first rest =>
      have hpublic := hfirst first (by rw [hs, List.head?_cons])
      simp [hpublic]

/-- A name that spells nothing but a public address. -/
theorem first_spelled_not_blocked_of_public :
    let name := "8.8.8.8.dns.example.com".toList
    blockReason? name = none ∧ Spells name (.ofBytes 8 8 8 8) ∧
      ∀ a, Spells name a → ¬ a.IsBlocked := by
  intro name
  have haccepted : blockReason? name = none := by decide +kernel
  have hspelled : spelled name = [.ofBytes 8 8 8 8] := by decide +kernel
  refine ⟨haccepted, mem_spelled.mp (by simp [hspelled]), ?_⟩
  exact (first_spelled_not_blocked haccepted).2.mpr (by simp [hspelled])

/-- A name that spells a public address and then a private one is not refused. -/
theorem later_spelled_not_judged :
    let name := "8.8.8.8.10.0.0.5.attacker.com".toList
    blockReason? name = none ∧ Spells name (.ofBytes 10 0 0 5) ∧
      (Ipv4.ofBytes 10 0 0 5).IsBlocked := by
  intro name
  have hspells : Ipv4.ofBytes 10 0 0 5 ∈ spelled name := by decide +kernel
  exact ⟨by decide +kernel, mem_spelled.mp hspells, by decide⟩

end Domain

/-- There is no reason to refuse the host of an address that is accepted. -/
lemma host_of_guard {text : String} {u : Url} (h : guard text = .ok u) :
    u.host.blockReason? = none := by
  unfold guard at h
  split at h
  · simp at h
  · simp at h
  · split at h
    · simp at h
    · rename_i hreason
      obtain rfl := Except.ok.inj h
      exact hreason

/-- **A download** does not reach a host by a name whose first spelled address is not
public, or by such an address itself. -/
theorem not_isBlocked_of_guard {text : String} {u : Url} (h : guard text = .ok u) :
    match u.host with
    | .domain name => ∀ a, (Domain.spelled name).head? = some a → ¬ a.IsBlocked
    | .ipv4 a => ¬ a.IsBlocked
    | .ipv6 a => ∀ b, a.mapped? = some b → ¬ b.IsBlocked := by
  have hreason := host_of_guard h
  cases hhost : u.host with
  | domain name =>
      rw [hhost] at hreason
      exact fun a => Domain.not_isBlocked_of_head? hreason
  | ipv4 a =>
      rw [hhost] at hreason
      exact a.blockReason?_eq_none_iff.mp hreason
  | ipv6 a =>
      rw [hhost] at hreason
      intro b hb
      simp only [Host.blockReason?, Ipv6.blockReason?, hb] at hreason
      exact b.blockReason?_eq_none_iff.mp hreason

end Scaffold.Url

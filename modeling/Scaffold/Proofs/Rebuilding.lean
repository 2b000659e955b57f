import Mathlib.Tactic
import Scaffold.Archive.Rebuild
import Scaffold.Proofs.Archiving

/-!
What rebuilding keeps of an archive.

* `Kept`: what is the same in a member and in what becomes of it, and what its text becomes;
* `membersFrom_eq`: the members that an archive holds are read one after the other, and none
  of them is refused for its size;
* `rebuild_eq`: so the archive is rebuilt from what becomes of its members.
-/

namespace Scaffold.Archive

open Variable Zip

variable {kind : Kind} {env : Environment} {bytes : ByteArray} {h : Header} {hs : List Header}
  {m : Member} {ms : List Member}

/-! ### Members -/

/-- What is kept of a member, and what becomes of its text. -/
structure Kept (kind : Kind) (env : Environment) (m m' : Member) : Prop where
  name : m'.name = m.name
  isFolder : m'.isFolder = m.isFolder
  method : m.isFolder = false → m'.method = m.method
  permissions : ∀ mode, m.mode = some mode → m'.mode.map (· % 0o1000) = some (mode % 0o1000)
  untouched : m.isFolder = false →
    kind.hasText m.name = false ∨ String.fromUTF8? m.data = none → m'.data = m.data
  text : ∀ text, kind.hasText m.name = true → String.fromUTF8? m.data = some text →
    m'.data = (replacedText kind env m.name text).toUTF8
  emptied : m.isFolder = true → m'.data = .empty

/-- The last character of the name of a folder. -/
def IsFolderEnd (c : Char) : Prop := c = '/' ∨ c = '\\'

instance : DecidablePred IsFolderEnd := fun c => inferInstanceAs (Decidable (c = '/' ∨ c = '\\'))

lemma isFolderName_iff {name : String} :
    isFolderName name = true ↔ ∃ c, name.toList.getLast? = some c ∧ IsFolderEnd c := by
  unfold isFolderName
  split
  · rename_i c hlast
    simp [hlast, IsFolderEnd]
  · rename_i hlast
    simp [hlast]

lemma splitLast_eq_append {separator : Char} {cs front tail : List Char}
    (h : Text.splitLast separator cs = some (front, tail)) : cs = front ++ separator :: tail := by
  obtain ⟨⟨behind, before⟩, hsplit, heq⟩ := Option.map_eq_some_iff.mp h
  obtain ⟨rfl, rfl⟩ := Prod.mk.inj heq
  unfold Text.splitOnce at hsplit
  split at hsplit
  · simp at hsplit
  · rename_i first rest hdrop
    obtain ⟨rfl, rfl⟩ := Prod.mk.inj (Option.some.inj hsplit)
    have hfirst : first = separator := by
      have hhead := List.head?_dropWhile_not (· != separator) cs.reverse
      simpa [hdrop] using hhead
    have hwhole := @List.takeWhile_append_dropWhile _ (· != separator) cs.reverse
    rw [hdrop, hfirst] at hwhole
    calc cs = cs.reverse.reverse := cs.reverse_reverse.symm
      _ = (cs.reverse.takeWhile (· != separator) ++ separator :: rest).reverse := by rw [hwhole]
      _ = rest.reverse ++ separator :: (cs.reverse.takeWhile (· != separator)).reverse := by simp

/-- The extension of the name of a folder ends as the name does. -/
lemma extension?_of_isFolderName {name ext : String} (hname : isFolderName name = true)
    (hext : extension? name = some ext) : ∃ c, ext.toList.getLast? = some c ∧ IsFolderEnd c := by
  obtain ⟨c, hlast, hc⟩ := isFolderName_iff.mp hname
  obtain ⟨⟨front, tail⟩, hsplit, rfl⟩ := Option.map_eq_some_iff.mp hext
  have hne : c ≠ '.' := by rcases hc with rfl | rfl <;> decide
  have htail : tail.getLast? = some c := by
    rw [splitLast_eq_append hsplit] at hlast
    cases tail with
    | nil => simp [hne.symm] at hlast
    | cons d more => simpa using hlast
  refine ⟨c, ?_, hc⟩
  rw [String.toList_ofList, List.getLast?_map, htail, Option.map_some]
  rcases hc with rfl | rfl <;> rfl

lemma not_hasExtension_of_isFolderName {name : String} (hname : isFolderName name = true)
    {extensions : List String} (hextensions : ∀ ext ∈ extensions, isFolderName ext = false) :
    hasExtension name extensions = false := by
  rw [hasExtension, Bool.eq_false_iff]
  intro hany
  obtain ⟨ext, hext, hmem⟩ := Option.any_eq_true _ _ |>.mp hany
  have hfolder := isFolderName_iff.mpr (extension?_of_isFolderName hname hext)
  simp [hextensions ext (by simpa using hmem)] at hfolder

/-- **A folder does not carry text.** -/
lemma hasText_of_isFolderName {name : String} (hname : isFolderName name = true) :
    kind.hasText name = false := by
  cases kind with
  | office =>
      have hend : name.endsWith ".xml" = false := by
        rw [Bool.eq_false_iff]
        intro hend
        obtain ⟨front, hcut⟩ : ".xml".toList <:+ name.toList := by
          simpa using String.Slice.endsWith_string_iff.mp hend
        obtain ⟨c, hlast, hc⟩ := isFolderName_iff.mp hname
        have hl : name.toList.getLast? = some 'l' := by simp [← hcut]
        obtain rfl : 'l' = c := Option.some.inj (hl.symm.trans hlast)
        exact absurd hc (by decide)
      simp [Kind.hasText, hend]
  | openDocument =>
      have hother : ∀ other, isFolderName other = false → (name == other) = false := by
        rintro other hother
        refine beq_eq_false_iff_ne.mpr ?_
        rintro rfl
        simp [hname] at hother
      simp [Kind.hasText, hother "content.xml" (by decide), hother "styles.xml" (by decide)]
  | book => exact not_hasExtension_of_isFolderName hname (by decide)
  | plain => exact not_hasExtension_of_isFolderName hname (by decide)

/-! ### What becomes of a member -/

/-- The permissions that are recorded stay. -/
lemma rebuiltMode_mod (isFolder : Bool) (mode : ℕ) :
    rebuiltMode isFolder (some mode) % 0o1000 = mode % 0o1000 := by
  simp only [rebuiltMode, Option.map_some, Option.getD_some]
  split_ifs <;> omega

@[simp]
lemma replaced_name (kind : Kind) (env : Environment) (m : Member) :
    (replaced kind env m).name = m.name := by
  rw [replaced]
  split_ifs <;> rfl

@[simp]
lemma replaced_mode (kind : Kind) (env : Environment) (m : Member) :
    (replaced kind env m).mode = some (rebuiltMode m.isFolder m.mode) := by
  rw [replaced]
  split_ifs <;> rfl

/-- What becomes of a member keeps what it shall. -/
lemma kept_replaced (kind : Kind) (env : Environment) (m : Member) :
    Kept kind env m (replaced kind env m) where
  name := replaced_name kind env m
  isFolder := congrArg isFolderName (replaced_name kind env m)
  method hm := by simp [replaced, hm]
  permissions mode hmode := by rw [replaced_mode, hmode, Option.map_some, rebuiltMode_mod]
  untouched hm hplain := by
    have hdata : (replaced kind env m).data = replacedData kind env m.name m.data := by
      simp [replaced, hm]
    rw [hdata, replacedData]
    rcases hplain with hother | hbytes
    · rw [hother]
      rfl
    · simp [hbytes]
  text text hkind htext := by
    have hm : m.isFolder = false := by
      rw [Bool.eq_false_iff]
      intro hm
      simp [hasText_of_isFolderName hm] at hkind
    simp [replaced, hm, replacedData, hkind, htext]
  emptied hm := by simp [replaced, hm]

/-! ### Reading -/

/-- The size that a directory records for the files of an archive. -/
def recordedSize (hs : List Header) : ℕ :=
  ((hs.filter fun h => !isFolderName h.name).map (·.size)).sum

/-- The size of the files of an archive. -/
def fileSize (ms : List Member) : ℕ :=
  ((ms.filter fun m => !m.isFolder).map (·.data.size)).sum

lemma recordedSize_cons (h : Header) (hs : List Header) :
    recordedSize (h :: hs) = (if isFolderName h.name then 0 else h.size) + recordedSize hs := by
  cases hfolder : isFolderName h.name <;> simp [recordedSize, hfolder]

lemma fileSize_cons (m : Member) (ms : List Member) :
    fileSize (m :: ms) = (if m.isFolder then 0 else m.data.size) + fileSize ms := by
  cases hfolder : m.isFolder <;> simp [fileSize, hfolder]

/-- A member as it is read: the bytes of a folder are passed over. -/
def opened (m : Member) : Member :=
  if m.isFolder then { m with data := .empty } else m

/-- What becomes of a folder does not depend on its bytes. -/
lemma replaced_opened (kind : Kind) (env : Environment) (m : Member) :
    replaced kind env (opened m) = replaced kind env m := by
  cases hm : m.isFolder with
  | true =>
      have hm' : ({ m with data := .empty } : Member).isFolder = true := hm
      simp [opened, replaced, hm, hm']
  | false => simp [opened, hm]

lemma toOption_eq_some_iff {ε α : Type} {x : Except ε α} {a : α} :
    x.toOption = some a ↔ x = .ok a := by
  cases x <;> simp [Except.toOption]

/-- What the header of a member says of it. -/
lemma member?_eq_some_iff : h.member? bytes = some m ↔
    h.name = m.name ∧ h.method = .ok m.method ∧ h.mode = m.mode ∧
      h.content m.method bytes = .ok m.data := by
  obtain ⟨name, method, mode, data⟩ := m
  simp only [Header.member?, Option.bind_eq_bind, Option.bind_eq_some_iff, toOption_eq_some_iff,
    Option.pure_def, Option.some.injEq, Member.mk.injEq]
  constructor
  · rintro ⟨_, hmethod, _, hdata, hname, rfl, hmode, rfl⟩
    exact ⟨hname, hmethod, hmode, hdata⟩
  · rintro ⟨hname, hmethod, hmode, hdata⟩
    exact ⟨method, hmethod, data, hdata, hname, rfl, hmode, rfl⟩

/-- What is short enough is read to its end. -/
lemma contentUpTo_eq {method : Method} {data : ByteArray} {limit : ℕ}
    (hcontent : h.content method bytes = .ok data) (hlimit : data.size < limit) :
    h.contentUpTo limit method bytes = .ok data := by
  cases hunpacked : h.unpacked? method bytes with
  | none => simp [Header.content, hunpacked] at hcontent
  | some data' =>
      have hsame : data' = data := by
        simp only [Header.content, hunpacked] at hcontent
        split_ifs at hcontent
        exact Except.ok.inj hcontent
      rw [Header.contentUpTo, hunpacked, hsame]
      exact (if_neg (Nat.not_le.mpr hlimit)).trans hcontent

/-- **The members** are read one after the other. -/
lemma membersFrom_eq {index expanded : ℕ} (hms : hs.mapM (·.member? bytes) = some ms)
    (hrecorded : expanded + recordedSize hs ≤ maxExpandedBytes)
    (hsize : fileSize ms ≤ maxExpandedBytes) :
    membersFrom bytes index expanded hs = .ok (ms.map opened) := by
  induction hs generalizing ms index expanded with
  | nil =>
      obtain rfl : [] = ms := by simpa using hms
      rfl
  | cons h rest ih =>
      simp only [List.mapM_cons, Option.bind_eq_bind, Option.bind_eq_some_iff, Option.pure_def,
        Option.some.injEq] at hms
      obtain ⟨m, hm, ms, hms, rfl⟩ := hms
      obtain ⟨hname, hmethod, hmode, hcontent⟩ := member?_eq_some_iff.mp hm
      rw [recordedSize_cons, hname] at hrecorded
      rw [fileSize_cons, Member.isFolder] at hsize
      have hopened : opened m = ⟨m.name, m.method, m.mode,
          if isFolderName m.name then .empty else m.data⟩ := by
        rw [opened, Member.isFolder]
        split_ifs <;> rfl
      rw [membersFrom, hmethod, hname, hmode, List.map_cons, hopened]
      -- the bytes of a folder are not read and count for nothing
      cases hfolder : isFolderName m.name with
      | true =>
          simp only [hfolder, ↓reduceIte, Nat.zero_add] at hrecorded hsize
          simp only [↓reduceIte, ih hms hrecorded hsize]
          rfl
      | false =>
          simp only [hfolder, Bool.false_eq_true, ↓reduceIte, ← Nat.add_assoc] at hrecorded hsize
          have hroom : ¬ maxExpandedBytes < expanded + h.size := by omega
          have hread := contentUpTo_eq hcontent (show m.data.size < maxExpandedBytes + 1 by omega)
          simp only [Bool.false_eq_true, ↓reduceIte, hroom, hread, ih hms hrecorded (by omega)]
          rfl

/-- **An archive is rebuilt** from what becomes of the members that it holds. -/
theorem rebuild_eq (hheaders : headers bytes = .ok hs)
    (hms : hs.mapM (·.member? bytes) = some ms) (hrecorded : recordedSize hs ≤ maxExpandedBytes)
    (hsize : fileSize ms ≤ maxExpandedBytes) :
    rebuild kind env bytes = .ok (write (ms.map (replaced kind env))) := by
  have hread : readMembers bytes = .ok (ms.map opened) := by
    rw [readMembers, hheaders]
    exact membersFrom_eq hms (by rwa [Nat.zero_add]) hsize
  have hsame : (ms.map opened).map (replaced kind env) = ms.map (replaced kind env) := by
    rw [List.map_map]
    exact List.map_congr_left fun m _ => replaced_opened kind env m
  rw [rebuild, hread]
  exact congrArg (fun out => Except.ok (write out)) hsame

end Scaffold.Archive

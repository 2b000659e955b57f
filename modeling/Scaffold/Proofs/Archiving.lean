import Mathlib.Tactic
import Scaffold.Proofs.Inflation
import Scaffold.Proofs.SameText
import Scaffold.Zip.Reader

/-!
An archive that was written is read again.

* `Fits`: what the format has room for;
* `header?_centralRecord`: the directory record of a member is read as its header;
* `headers_write`: the directory is found from the end of the archive, and its records are read
  as the headers of the members;
* `members?_write`: so the members of an archive are those that it was written with.
-/

namespace Scaffold.Zip

open Bytes

variable {bytes : ByteArray} {m : Member} {ms rest : List Member} {place directory : ℕ}

/-! ### The layout -/

/-- The local records of members. -/
def records (ms : List Member) : ByteArray := join (ms.map localRecord)

/-- The directory of members whose local records start at a place. -/
def directoryFrom : ℕ → List Member → ByteArray
  | _, [] => .empty
  | place, m :: rest => centralRecord m place ++ directoryFrom (place + (localRecord m).size) rest

/-- The header of a member whose local record starts at a place. -/
def headerOf (m : Member) (place : ℕ) : Header where
  name := m.name
  method := .ok m.method
  mode := m.mode
  size := m.data.size
  packedSize := (m.method.pack m.data).size
  checksum := (Checksum.crc32 m.data).toNat
  start := place + 30 + m.name.toUTF8.size

/-- The headers of members whose local records start at a place. -/
def headersOf : ℕ → List Member → List Header
  | _, [] => []
  | place, m :: rest => headerOf m place :: headersOf (place + (localRecord m).size) rest

lemma foldl_layout (ms : List Member) (written central : ByteArray) :
    ms.foldl (fun (s : ByteArray × ByteArray) m =>
      (s.1 ++ localRecord m, s.2 ++ centralRecord m s.1.size)) (written, central) =
      (written ++ records ms, central ++ directoryFrom written.size ms) := by
  induction ms generalizing written central with
  | nil => simp [records, directoryFrom]
  | cons m rest ih =>
      simp only [List.foldl_cons, ih, records, List.map_cons, join_cons, directoryFrom,
        ByteArray.size_append, ByteArray.append_assoc]

lemma write_eq (ms : List Member) :
    write ms = records ms ++ directoryFrom 0 ms ++
      endRecord ms.length (directoryFrom 0 ms).size (records ms).size := by
  have hlayout := foldl_layout ms .empty .empty
  simp only [ByteArray.empty_append, ByteArray.size_empty] at hlayout
  simp only [write, hlayout]

/-! ### What fits -/

/-- The format has room for a member. -/
structure Member.Fits (m : Member) : Prop where
  name : m.name.toUTF8.size < 65536
  size : m.data.size < 4294967296
  mode : ∃ mode, m.mode = some mode ∧ 0 < mode ∧ mode < 65536

/-- The format has room for an archive. -/
structure Fits (ms : List Member) : Prop where
  members : ∀ m ∈ ms, m.Fits
  length : ms.length < 65536
  size : (records ms).size < 4294967296
  distinct : (ms.map (·.name)).Nodup

/-! ### One header -/

lemma size_localRecord (m : Member) :
    (localRecord m).size = 30 + m.name.toUTF8.size + (m.method.pack m.data).size := by
  simp [localRecord, sharedFields, size_fields]

lemma size_centralRecord (m : Member) (place : ℕ) :
    (centralRecord m place).size = 46 + m.name.toUTF8.size := by
  simp [centralRecord, sharedFields, size_fields]

/-- The packed bytes come after the local header. -/
lemma stands_pack (h : Stands bytes place (localRecord m)) :
    Stands bytes (place + 30 + m.name.toUTF8.size) (m.method.pack m.data) := by
  have hpack := h.right
  rwa [ByteArray.size_append, size_fields, ← Nat.add_assoc] at hpack

lemma dataStart?_localRecord (h : Stands bytes place (localRecord m))
    (hname : m.name.toUTF8.size < 65536) :
    dataStart? bytes place = some (place + 30 + m.name.toUTF8.size) := by
  have hfields := h.left.left
  have hmark : little? bytes place 4 = some 0x04034B50 := hfields.word 0 rfl rfl (by decide)
  have hsize : little? bytes (place + 26) 2 = some m.name.toUTF8.size :=
    hfields.word 9 rfl rfl hname
  have hextra : little? bytes (place + 28) 2 = some 0 := hfields.word 10 rfl rfl (by decide)
  have hwhole : slice? bytes place 30 = some (bytes.extract place (place + 30)) := by
    have hle := h.size_le
    rw [size_localRecord] at hle
    exact if_pos (by omega)
  simp [dataStart?, hmark, hwhole, hsize, hextra]

/-- A character of ASCII is the same in the code page. -/
lemma map_codePageChar {c : Char} (hc : c.toNat < 0x80) :
    (String.utf8EncodeChar c).map codePageChar = [c] := by
  have hwidth : c.utf8Size = 1 := by
    rw [Char.utf8Size_eq_one_iff, UInt32.le_iff_toNat_le]
    exact Nat.le_of_lt_succ hc
  have hbyte : c.val.toUInt8.toNat = c.toNat := by
    rw [UInt32.toNat_toUInt8]
    exact Nat.mod_eq_of_lt (hc.trans (by decide))
  have hsmall : c.val.toUInt8 < 0x80 := UInt8.lt_iff_toNat_lt.mpr (hbyte.trans_lt hc)
  rw [String.utf8EncodeChar_eq_singleton hwidth, List.map_singleton, codePageChar, if_pos hsmall,
    hbyte, Char.ofNat_toNat]

/-- A name is read as it was written: it is marked if it is not in ASCII. -/
lemma nameOf_toUTF8 (name : String) :
    nameOf ((if name.toList.all (·.toNat < 0x80) then 0 else 0x800) / 0x800 % 2 == 1) name.toUTF8 =
      name := by
  split_ifs with hascii
  · have hchars : ∀ c ∈ name.toList, c.toNat < 0x80 := by simpa using hascii
    have hmap : (name.toList.flatMap String.utf8EncodeChar).map codePageChar = name.toList := by
      rw [List.map_flatMap, List.flatMap_congr fun c hc => map_codePageChar (hchars c hc)]
      simp
    simp only [nameOf, Text.toList_toUTF8]
    rw [if_neg (by decide), hmap, String.ofList_toList]
  · exact Text.ofBytes_toUTF8 name

/-- The mode of a member is kept as one of a Unix system. -/
lemma modeOf_unix {mode : ℕ} (hpos : 0 < mode) : modeOf 0x0314 (mode * 65536) = some mode := by
  have hne : (mode * 65536 == 0) = false := by simp; omega
  simp [modeOf, hne]

/-- **A directory record** is read as the header of its member. -/
lemma header?_centralRecord {place' : ℕ} (hfits : m.Fits)
    (hcentral : Stands bytes place' (centralRecord m place))
    (hlocal : Stands bytes place (localRecord m))
    (hbefore : place + (localRecord m).size ≤ directory) (hdirectory : directory < 4294967296) :
    header? bytes 0 directory place' =
      some (headerOf m place, place' + (centralRecord m place).size) := by
  obtain ⟨hname, hsize, mode, hmode, hpos, hlt⟩ := hfits
  rw [size_localRecord] at hbefore
  have hfields := hcentral.left
  have hword : Nat.pow 256 4 = 4294967296 := rfl
  have hmark : little? bytes place' 4 = some 0x02014B50 := hfields.word 0 rfl rfl (by decide)
  have hmade : little? bytes (place' + 4) 2 = some 0x0314 := hfields.word 1 rfl rfl (by decide)
  have hflags : little? bytes (place' + 8) 2 =
      some (if m.name.toList.all (·.toNat < 0x80) then 0 else 0x800) :=
    hfields.word 3 rfl rfl (by split_ifs <;> decide)
  have hmethod : little? bytes (place' + 10) 2 = some m.method.code :=
    hfields.word 4 rfl rfl (by cases m.method <;> decide)
  have hcheck : little? bytes (place' + 16) 4 = some (Checksum.crc32 m.data).toNat :=
    hfields.word 7 rfl rfl (UInt32.toNat_lt _)
  have hpacked : little? bytes (place' + 20) 4 = some (m.method.pack m.data).size :=
    hfields.word 8 rfl rfl (by omega)
  have hdata : little? bytes (place' + 24) 4 = some m.data.size :=
    hfields.word 9 rfl rfl (by omega)
  have hnamed : little? bytes (place' + 28) 2 = some m.name.toUTF8.size :=
    hfields.word 10 rfl rfl hname
  have hextra : little? bytes (place' + 30) 2 = some 0 := hfields.word 11 rfl rfl (by decide)
  have hcomment : little? bytes (place' + 32) 2 = some 0 := hfields.word 12 rfl rfl (by decide)
  have hattributes : little? bytes (place' + 38) 4 = some (m.mode.getD 0 * 65536) :=
    hfields.word 15 rfl rfl (by rw [hmode, Option.getD_some]; omega)
  have hplace : little? bytes (place' + 42) 4 = some place := hfields.word 16 rfl rfl (by omega)
  have hnames : slice? bytes (place' + 46) m.name.toUTF8.size = some m.name.toUTF8 := by
    have hslice := hcentral.right.slice?_eq
    rwa [size_fields] at hslice
  have hend := hcentral.size_le
  rw [size_centralRecord] at hend ⊢
  have hstart := dataStart?_localRecord hlocal hname
  have hplain : ((if m.name.toList.all (·.toNat < 0x80) then 0 else 0x800) % 2 == 1) = false := by
    split_ifs <;> rfl
  simp only [header?, hmark, hmade, hflags, hmethod, hcheck, hpacked, hdata, hnamed, hextra,
    hcomment, hattributes, hplace, hnames, hstart, hplain, Nat.add_zero, Option.bind_eq_bind,
    Option.bind_some, Option.pure_def, beq_self_eq_true, guard_true,
    show place' + 46 + m.name.toUTF8.size ≤ bytes.size by omega, show place < directory by omega,
    show place + 30 + m.name.toUTF8.size ≤ directory by omega]
  rw [nameOf_toUTF8, hmode, Option.getD_some, modeOf_unix hpos, ← Nat.add_assoc, headerOf, hmode]
  cases m.method <;> rfl

lemma hasWord_centralRecord {place' : ℕ} (h : Stands bytes place' (centralRecord m place)) :
    hasWord bytes 0x02014B50 place' := by
  have hmark : little? bytes place' 4 = some 0x02014B50 := h.left.word 0 rfl rfl (by decide)
  rw [hasWord, hmark]
  rfl

lemma hasWord_endRecord {place' count size : ℕ}
    (h : Stands bytes place' (endRecord count size place)) : hasWord bytes 0x06054B50 place' := by
  have hmark : little? bytes place' 4 = some 0x06054B50 := h.word 0 rfl rfl (by decide)
  rw [hasWord, hmark]
  rfl

/-- The directory is read record by record. -/
lemma headersFrom?_directoryFrom {place' : ℕ} (hfits : ∀ m ∈ ms, m.Fits)
    (hcentral : Stands bytes place' (directoryFrom place ms))
    (hlocal : Stands bytes place (records ms)) (hbefore : place + (records ms).size ≤ directory)
    (hdirectory : directory < 4294967296) :
    headersFrom? bytes 0 directory ms.length place' = some (headersOf place ms) := by
  induction ms generalizing place place' with
  | nil => rfl
  | cons m rest ih =>
      simp only [records, List.map_cons, join_cons, ByteArray.size_append] at hlocal hbefore
      have hheader := header?_centralRecord (hfits m List.mem_cons_self) hcentral.left hlocal.left
        (by omega) hdirectory
      have hrest := ih (fun m hm => hfits m (List.mem_cons_of_mem _ hm)) hcentral.right
        hlocal.right (by rw [records]; omega)
      simp only [List.length_cons, headersFrom?, hheader, hrest, headersOf, Option.bind_eq_bind,
        Option.bind_some, Option.pure_def]

/-! ### Finding the directory -/

/-- Headers of different names are not joined. -/
lemma byName_eq_self {headers : List Header} (h : (headers.map (·.name)).Nodup) :
    byName headers = headers := by
  have hall : ∀ rest acc : List Header, ((acc ++ rest).map (·.name)).Nodup →
      rest.foldl (fun acc h =>
        if acc.any (·.name == h.name) then acc.map fun a => if a.name == h.name then h else a
        else acc ++ [h]) acc = acc ++ rest := by
    intro rest
    induction rest with
    | nil => simp
    | cons h rest ih =>
        intro acc hnodup
        have hnew : acc.any (·.name == h.name) = false := by
          simp only [List.map_append, List.map_cons, List.nodup_append, List.mem_map] at hnodup
          simpa using fun a ha => hnodup.2.2 a.name ⟨a, ha, rfl⟩ h.name List.mem_cons_self
        rw [List.foldl_cons, hnew, if_neg (by simp), ih (acc ++ [h]) (by simpa using hnodup)]
        simp
  exact hall headers [] (by simpa using h)

lemma map_name_headersOf (place : ℕ) (ms : List Member) :
    (headersOf place ms).map (·.name) = ms.map (·.name) := by
  induction ms generalizing place with
  | nil => rfl
  | cons m rest ih => simp [headersOf, headerOf, ih]

/-- Where the end record starts. -/
def endPlace (ms : List Member) : ℕ := (records ms).size + (directoryFrom 0 ms).size

section

variable (hfits : Fits ms)

lemma stands_records : Stands (write ms) 0 (records ms) := by
  rw [write_eq]
  exact (Stands.whole _).left.left

lemma stands_directory : Stands (write ms) (records ms).size (directoryFrom 0 ms) := by
  rw [write_eq]
  exact .mid _ _ _

lemma stands_endRecord : Stands (write ms) (endPlace ms)
    (endRecord ms.length (directoryFrom 0 ms).size (records ms).size) := by
  have hend := Stands.whole (write ms)
  rw [write_eq] at hend ⊢
  simpa [endPlace] using hend.right

lemma size_write : (write ms).size = endPlace ms + 22 := by
  simp [write_eq, endPlace, endRecord, size_fields, Nat.add_assoc]

include hfits in
/-- The end record leads to the directory. -/
lemma directoryOf_write :
    directoryOf (write ms) (endPlace ms) =
      .ok (if ms = [] then none else some ((records ms).size, 0)) := by
  have hfields : Stands (write ms) (endPlace ms) (fields _) := stands_endRecord
  have hcomment : little? (write ms) (endPlace ms + 20) 2 = some 0 :=
    hfields.word 7 rfl rfl (by decide)
  have htotal : little? (write ms) (endPlace ms + 10) 2 = some ms.length :=
    hfields.word 4 rfl rfl hfits.length
  have hsaid : little? (write ms) (endPlace ms + 16) 4 = some (records ms).size :=
    hfields.word 6 rfl rfl hfits.size
  have hwhole : ¬ (write ms).size < endPlace ms + 22 + 0 := by rw [size_write]; omega
  cases ms with
  | nil =>
      simp only [directoryOf, hcomment, htotal, hwhole, ↓reduceIte]
      rfl
  | cons m rest =>
      have hmark : hasWord (write (m :: rest)) 0x02014B50 (records (m :: rest)).size :=
        hasWord_centralRecord stands_directory.left
      have hroom : (records (m :: rest)).size + 46 ≤ endPlace (m :: rest) := by
        simp only [endPlace, directoryFrom, ByteArray.size_append, size_centralRecord]
        omega
      have hplace : ¬ endPlace (m :: rest) ≤ (records (m :: rest)).size := by omega
      have hfound : (List.range (endPlace (m :: rest) - 3 - (records (m :: rest)).size)).find?
          (fun i => hasWord (write (m :: rest)) 0x02014B50 ((records (m :: rest)).size + i)) =
          some 0 :=
        List.find?_range_eq_some.mpr ⟨hmark, List.mem_range.mpr (by omega), by simp⟩
      simp only [directoryOf, hcomment, htotal, hsaid, hwhole, hplace, hfound, ↓reduceIte]
      rfl

include hfits in
/-- **The directory** that the end record leads to is read as the headers. -/
lemma headersOf?_write :
    headersOf? (write ms) (endPlace ms) (if ms = [] then none else some ((records ms).size, 0)) =
      some (headersOf 0 ms) := by
  split_ifs with hms
  · rw [hms]
    rfl
  · have hfields : Stands (write ms) (endPlace ms) (fields _) := stands_endRecord
    have hdisk : little? (write ms) (endPlace ms + 4) 2 = some 0 :=
      hfields.word 1 rfl rfl (by decide)
    have hfirst : little? (write ms) (endPlace ms + 6) 2 = some 0 :=
      hfields.word 2 rfl rfl (by decide)
    have hcount : little? (write ms) (endPlace ms + 8) 2 = some ms.length :=
      hfields.word 3 rfl rfl hfits.length
    have hheaders : headersFrom? (write ms) 0 (records ms).size ms.length (records ms).size =
        some (headersOf 0 ms) :=
      headersFrom?_directoryFrom hfits.members stands_directory stands_records (by omega) hfits.size
    simp only [headersOf?, hdisk, hfirst, hcount, hheaders, Option.bind_eq_bind, Option.bind_some,
      beq_self_eq_true, guard_true, Option.pure_def]

/-- Where the end record is too short, reading goes on with the places before. -/
lemma headersAt_of_cut {places : List ℕ}
    (h : ∀ place ∈ places, directoryOf bytes place = .error .cutEndRecord) (fault : Option Fault)
    (places' : List ℕ) :
    ∃ fault', headersAt bytes fault (places ++ places') = headersAt bytes fault' places' := by
  induction places generalizing fault with
  | nil => exact ⟨fault, rfl⟩
  | cons place places ih =>
      obtain ⟨fault', hrest⟩ := ih (fun p hp => h p (List.mem_cons_of_mem _ hp))
        (fault.or (some .cutEndRecord))
      refine ⟨fault', ?_⟩
      rw [List.cons_append, headersAt, h place List.mem_cons_self, hrest]

/-- Behind the end record there is no room for another one. -/
lemma directoryOf_behind {place : ℕ} (h : bytes.size < place + 22) :
    directoryOf bytes place = .error .cutEndRecord := by
  have hcomment : little? bytes (place + 20) 2 = none := by
    rw [little?, slice?, if_neg (by omega)]
    rfl
  rw [directoryOf, hcomment]
  rfl

include hfits in
/-- **The headers** of an archive are those of the members that it was written with. -/
theorem headers_write : headers (write ms) = .ok (headersOf 0 ms) := by
  -- the places that are tried, from the last one down to that of the end record
  have hplaces : (List.range (write ms).size).reverse =
      ((List.range 21).map (endPlace ms + 1 + ·)).reverse ++
        (endPlace ms :: (List.range (endPlace ms)).reverse) := by
    have hlast : (List.range (endPlace ms + 1)).reverse =
        endPlace ms :: (List.range (endPlace ms)).reverse := by simp [List.range_succ]
    rw [size_write, show endPlace ms + 22 = endPlace ms + 1 + 21 by omega, List.range_add,
      List.reverse_append, hlast]
  have hcut : ∀ place ∈ (((List.range 21).map (endPlace ms + 1 + ·)).reverse).filter
      (fun place => hasWord (write ms) 0x06054B50 place),
      directoryOf (write ms) place = .error .cutEndRecord := by
    intro place hplace
    obtain ⟨i, -, rfl⟩ := List.mem_map.mp (List.mem_reverse.mp (List.mem_of_mem_filter hplace))
    exact directoryOf_behind (by rw [size_write]; omega)
  rw [headers, hplaces, List.filter_append,
    List.filter_cons_of_pos (hasWord_endRecord stands_endRecord)]
  obtain ⟨fault, hskip⟩ := headersAt_of_cut hcut none _
  rw [hskip, headersAt, directoryOf_write hfits]
  simp only [headersOf?_write hfits]
  rw [byName_eq_self (by rw [map_name_headersOf]; exact hfits.distinct)]
  rfl

/-! ### The members -/

/-- What was packed is unpacked. -/
lemma unpack_pack (method : Method) (data : ByteArray) :
    (match method with
      | .stored => some (method.pack data)
      | .deflated => Deflate.inflate? (method.pack data)) = some data := by
  cases method with
  | stored => rfl
  | deflated => exact Deflate.inflate?_store data

/-- The content of a member is found by its header. -/
lemma content_headerOf (h : Stands bytes place (localRecord m)) :
    (headerOf m place).content m.method bytes = .ok m.data := by
  have hpacked : bytes.extract (headerOf m place).start
      ((headerOf m place).start + (headerOf m place).packedSize) = m.method.pack m.data :=
    (stands_pack h).extract_eq
  have hunpacked : (headerOf m place).unpacked? m.method bytes = some m.data := by
    simp only [Header.unpacked?, hpacked]
    exact unpack_pack m.method m.data
  rw [Header.content, hunpacked]
  exact if_pos (beq_self_eq_true _)

/-- A member is read by its header. -/
lemma member?_headerOf (h : Stands bytes place (localRecord m)) :
    (headerOf m place).member? bytes = some m := by
  change ((headerOf m place).content m.method bytes).toOption.bind
    (fun data => some (⟨m.name, m.method, m.mode, data⟩ : Member)) = some m
  rw [content_headerOf h]
  rfl

lemma mapM_member?_headersOf (h : Stands bytes place (records ms)) :
    (headersOf place ms).mapM (·.member? bytes) = some ms := by
  induction ms generalizing place with
  | nil => rfl
  | cons m rest ih =>
      have hrecords : Stands bytes place (localRecord m ++ records rest) := h
      rw [headersOf, List.mapM_cons, member?_headerOf hrecords.left, ih hrecords.right]
      rfl

include hfits in
/-- **The members** of an archive are those that it was written with. -/
theorem members?_write : members? (write ms) = some ms := by
  rw [members?, headers_write hfits]
  exact mapM_member?_headersOf stands_records

end

end Scaffold.Zip

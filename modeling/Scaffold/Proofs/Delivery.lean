import Mathlib.Tactic
import Scaffold.Proofs.Fetching
import Scaffold.Proofs.Rebuilding

/-!
What becomes of a fetched archive.

* `Creation.SavedAsIs`: a download was saved as it was brought, with a warning;
* `visitFile_saves`: so it is when the archive cannot be rebuilt: nothing else is asked, and no
  error is counted;
* `archives_keep_all_but_text`: an archive that can be read is rebuilt, and all of it is kept
  except for the text of its members and the bytes of its folders; any other one is saved as it
  is.
-/

namespace Scaffold

open Variable Archive

namespace Creation

/-- A download was saved as it was brought: a warning says why, and it is counted. -/
structure SavedAsIs (path name url : String) (bytes : ByteArray) (fault : Archive.Fault)
    (c c' : Creation) : Prop where
  items : ∃ preExisted, c'.items = c.items.push ⟨path, .file, preExisted⟩
  hookResults : c'.hookResults = c.hookResults
  summary : c'.summary = { c.summary with filesDownloaded := c.summary.filesDownloaded + 1 }
  logs : c'.logs = (c.logs.push
    ⟨.warning, s!"Could not process archive: {name}", s!"{fault.message}; saved unmodified"⟩).push
    ⟨.success, s!"Downloaded: {name}", s!"{url} ({bytes.size} bytes)"⟩

/-- If some bytes were fetched, then nothing else is asked but to look at the place before and
to write these bytes there, and they are saved as they are. -/
def Saves (path name : String) (bytes : ByteArray) (fault : Archive.Fault) (c c' : Creation)
    (events : List Event) : Prop :=
  ∀ url, (⟨.fetch url, .ok bytes⟩ : Event) ∈ events → ∃ found reply,
    events = [⟨.entry path, found⟩, ⟨.fetch url, .ok bytes⟩, ⟨.write path bytes, reply⟩] ∧
      (reply = .ok () → SavedAsIs path name url bytes fault c c')

section

variable {s : CreateSettings} {place : Cursor} {f : FileNode} {env : Environment}
  {name : String} {bytes : ByteArray} {kind : Kind} {fault : Archive.Fault}
  {found : Except Failure (Option Entry)}

/-- A program that does not fetch, where nothing has been fetched. -/
lemma saves_of_everyCall {α : Type} {x : CreateM α} (hx : EveryCall (·.isFetch = false) x)
    {events : List Event} (hevents : ∀ url, (⟨.fetch url, .ok bytes⟩ : Event) ∉ events)
    (c₀ c : Creation) :
    Ensures Run.noting x c events fun _ c' => Saves place.path name bytes fault c₀ c' := by
  refine (hx.ensures_noting c events).mono ?_
  rintro _ c' _ ⟨more, rfl, hmore⟩ url hmem
  rcases List.mem_append.mp hmem with hmem | hmem
  · exact absurd hmem (hevents url)
  · simpa using hmore _ hmem

/-- An archive that cannot be rebuilt is kept as it is, and reported. -/
lemma prepareDownload_rejected (hkind : Kind.ofName? name = some kind)
    (hrejected : rebuild kind env bytes = .error fault) :
    prepareDownload name env bytes = (do
      log .warning s!"Could not process archive: {name}" s!"{fault.message}; saved unmodified"
      return (bytes, false)) := by
  rw [prepareDownload, hkind]
  dsimp only
  rw [hrejected]

/-- A download is saved as it is. -/
lemma download_saves {raw : String} (hreal : s.options.dryRun = false)
    (hsize : bytes.size ≤ s.limits.maxDownloadBytes) (hkind : Kind.ofName? name = some kind)
    (hrejected : rebuild kind env bytes = .error fault) (preExisted : Bool) (c : Creation) :
    Ensures Run.noting (download s name raw place env preExisted) c [⟨.entry place.path, found⟩]
      fun _ c' => Saves place.path name bytes fault c c' := by
  unfold download
  split
  · exact saves_of_everyCall (everyCall_fail _ _) (by simp) c c
  rename_i accepted haccepts
  simp only [hreal, Bool.false_eq_true, ↓reduceIte]
  rw [ensures_bind, fetch]
  split_ifs with hcan
  · exact ensures_pure.mpr (saves_of_everyCall (everyCall_fail _ _) (by simp) c c)
  rw [ensures_bind, ask, ensures_call]
  rintro reply _ rfl
  cases reply with
  | error e => exact ensures_pure.mpr (saves_of_everyCall (everyCall_fail _ _) (by simp) c c)
  | ok fetched =>
      dsimp only
      by_cases hfetched : fetched = bytes
      · subst hfetched
        rw [if_neg (Nat.not_lt.mpr hsize)]
        refine ensures_pure.mpr ?_
        dsimp only
        rw [prepareDownload_rejected hkind hrejected]
        simp only [ensures_bind, log, ensures_modify, ensures_pure, write, ask]
        rw [ensures_call]
        rintro reply _ rfl
        have hone : ∀ url, (⟨.fetch url, .ok fetched⟩ : Event) ∈
            [⟨.entry place.path, found⟩, ⟨.fetch accepted.text, .ok fetched⟩,
              ⟨.write place.path fetched, reply⟩] → url = accepted.text := by
          intro url hmem
          simpa using hmem
        cases reply with
        | error e =>
            refine ensures_pure.mpr ((fail_ensures _ _ _).mono ?_)
            rintro _ c' _ ⟨rfl, -⟩ url hmem
            obtain rfl := hone url hmem
            exact ⟨found, _, rfl, by simp⟩
        | ok =>
            simp only [ensures_bind, record, count, ensures_modify, ensures_pure]
            intro url hmem
            obtain rfl := hone url hmem
            exact ⟨found, _, rfl, fun _ => ⟨⟨preExisted, rfl⟩, rfl, rfl, rfl⟩⟩
      · -- other bytes were fetched, and nothing more is
        have hother : ∀ url, (⟨.fetch url, .ok bytes⟩ : Event) ∉
            [⟨.entry place.path, found⟩, ⟨.fetch accepted.text, .ok fetched⟩] := by
          intro url hmem
          rcases List.mem_pair.mp hmem with heq | heq
          · cases heq
          · cases heq
            exact hfetched rfl
        split_ifs
        · exact ensures_pure.mpr (saves_of_everyCall (everyCall_fail _ _) hother c c)
        · refine ensures_pure.mpr (saves_of_everyCall ?_ hother c c)
          refine (everyCall_prepareDownload _ _ _).bind fun _ => ?_
          exact (everyCall_write (P := (·.isFetch = false)) rfl _).bindResult
            (fun _ => everyCall_fail _ _) fun _ => everyCall_note _ _ _ _

/-- **The visit of a file** saves an archive that cannot be rebuilt as it was brought. -/
theorem visitFile_saves (hreal : s.options.dryRun = false) (hplace : place.isPlanned = false)
    (hsize : bytes.size ≤ s.limits.maxDownloadBytes) (hkind : Kind.ofName? name = some kind)
    (hrejected : rebuild kind env bytes = .error fault) (c : Creation) :
    Ensures Run.noting (visitFile s name f place env) c []
      fun _ c' => Saves place.path name bytes fault c c' := by
  have hwrite : ∀ (found : Except Failure (Option Entry)) (preExisted : Bool),
      Ensures Run.noting (do
        writeFile s name f place env preExisted
        pure (none : Option Unit)) c [⟨.entry place.path, found⟩]
        fun _ c' => Saves place.path name bytes fault c c' := by
    intro found preExisted
    refine Ensures.map ?_ _
    unfold writeFile
    split
    · exact download_saves hreal hsize hkind hrejected preExisted c
    · exact saves_of_everyCall (everyCall_generate (fun _ _ => rfl) (fun _ _ => rfl) name _ f
        preExisted) (by simp) c c
    · exact saves_of_everyCall (everyCall_writeInline (fun _ _ => rfl) name f preExisted)
        (by simp) c c
  have hstop : ∀ (found : Except Failure (Option Entry)) (message details : String),
      Ensures Run.noting (do
        fail message details
        pure (none : Option Unit)) c [⟨.entry place.path, found⟩]
        fun _ c' => Saves place.path name bytes fault c c' :=
    fun found message details =>
      .map (saves_of_everyCall (everyCall_fail _ _) (by simp) c c) _
  unfold visitFile look
  simp only [hplace, Bool.false_eq_true, ↓reduceIte]
  rw [ensures_bind, ask, ensures_call]
  rintro reply _ rfl
  split
  · exact hstop _ _ _
  · exact hwrite _ false
  · split_ifs
    · exact hstop _ _ _
    · exact hwrite _ true
    · rw [ensures_bind, count, ensures_modify, ensures_bind, log, ensures_modify]
      exact ensures_pure.mpr (by simp [Saves])

end

end Creation

/-- A visit of a run that creates saves an archive that cannot be rebuilt as it was brought. -/
lemma CreateSettings.saves_of_mem_arrivals {σ : Type} {host : Host (StateM σ)} {s : CreateSettings}
    {schema : Schema} {output : String} {scope : Scope} {st : σ} {a : Arrival Creation σ}
    (ha : a ∈ s.arrivals host schema output scope st) {bytes : ByteArray} {kind : Kind}
    {fault : Archive.Fault} (hsize : bytes.size ≤ s.limits.maxDownloadBytes)
    (hkind : Kind.ofName? a.name = some kind)
    (hrejected : rebuild kind a.env bytes = .error fault) :
    Creation.Saves a.place.path a.name bytes fault a.start.1 (a.finish (Creation.visitor s) host).1
      (a.events (Creation.visitor s) host) := by
  cases hdry : s.options.dryRun with
  | true =>
      intro url hmem
      have hnone : ∀ e ∈ a.events (Creation.visitor s) host, e.call.isFetch = false :=
        (Creation.visitFile_dry hdry _).events a.start
      simpa using hnone _ hmem
  | false =>
      have hany : host.Within (fun _ => ()) Creation.anyReply := fun _ _ => trivial
      have hplace : a.place.isPlanned = false :=
        Creation.visitor_balances.arrivals hany (fun _ => rfl) ha hdry
      exact (Creation.visitFile_saves hdry hplace hsize hkind hrejected a.start.1).events

/-- **Archives are kept but for their text.** If an archive can be read, and its files are not
too large in all by the sizes that it records and those that they have, then it is rebuilt, and
each of its members is kept but for its text and the bytes of folders. What is written is read
again, as far as the format has room for it. If an archive cannot be rebuilt then each visit of
a file in a run that creates and has fetched it saves it as it is. -/
theorem archives_keep_all_but_text (kind : Kind) (env : Environment) (bytes : ByteArray) :
    (∀ hs ms, Zip.headers bytes = .ok hs → hs.mapM (·.member? bytes) = some ms →
      recordedSize hs ≤ maxExpandedBytes → fileSize ms ≤ maxExpandedBytes →
      let out := ms.map (replaced kind env)
      rebuild kind env bytes = .ok (Zip.write out) ∧ List.Forall₂ (Kept kind env) ms out ∧
        (Zip.Fits out → Zip.members? (Zip.write out) = some out)) ∧
    ∀ fault, rebuild kind env bytes = .error fault →
      ∀ {σ : Type} (host : Host (StateM σ)) (s : CreateSettings) (schema : Schema)
        (output : String) (scope : Scope) (st : σ),
      ∀ a ∈ s.arrivals host schema output scope st, a.env = env →
        Kind.ofName? a.name = some kind → bytes.size ≤ s.limits.maxDownloadBytes →
        Creation.Saves a.place.path a.name bytes fault a.start.1
          (a.finish (Creation.visitor s) host).1 (a.events (Creation.visitor s) host) := by
  refine ⟨fun hs ms hheaders hms hrecorded hsize => ?_, ?_⟩
  · refine ⟨rebuild_eq hheaders hms hrecorded hsize, ?_, Zip.members?_write⟩
    exact List.forall₂_map_right_iff.mpr (List.forall₂_same.mpr fun m _ => kept_replaced kind env m)
  · rintro fault hrejected σ host s schema output scope st a ha rfl hkind hsize
    exact s.saves_of_mem_arrivals ha hsize hkind hrejected

/-- A folder, a picture and a text in an archive. -/
def bundle (text : String) : List Zip.Member :=
  [⟨"d/", .stored, some 0o40700, .empty⟩, ⟨"d/logo.png", .stored, some 0o100600, ⟨#[0x89, 0xFF]⟩⟩,
    ⟨"d/read.me.md", .deflated, some 0o100644, text.toUTF8⟩]

lemma fits_bundle : ∀ text ∈ ["# %NAME%", "# Acme & Co"], Zip.Fits (bundle text) := by
  intro text htext
  refine ⟨fun m hm => ?_, by simp [bundle], ?_, by simp [bundle]⟩
  · fin_cases htext <;> fin_cases hm <;>
      exact ⟨by decide, by decide, _, rfl, by decide, by decide⟩
  · fin_cases htext <;> decide +kernel

/-- A file could not be written. -/
def Event.isFailedWrite : Event → Bool
  | ⟨.write _ _, .error _⟩ => true
  | _ => false

/-- The text of the bundle is replaced in the archive. A file that is no archive is saved. -/
theorem archives_keep_all_but_text_of_bundle :
    let env : Environment := ⟨⟨2024, 1, 1, by decide⟩, fun _ => some "Acme & Co"⟩
    let bytes := "not a zip".toUTF8
    let s : CreateSettings :=
      { limits := {}, today := ⟨2024, 1, 1, by decide⟩, equipment := { canFetch := true }
        options := {} }
    let schema : Schema := { root := .file { name := "b.zip", url := some "https://[2606::1]/" } }
    let host := Memory.host { fetch := fun _ => .ok bytes }
    let before := (Memory.empty.makeFolder "out").2
    (rebuild .plain env (Zip.write (bundle "# %NAME%")) = .ok (Zip.write (bundle "# Acme & Co")) ∧
      List.Forall₂ (Kept .plain env) (bundle "# %NAME%") (bundle "# Acme & Co") ∧
      Zip.members? (Zip.write (bundle "# Acme & Co")) = some (bundle "# Acme & Co")) ∧
    ∃ a ∈ s.arrivals host schema "out" default before, ∃ url found,
      a.events (Creation.visitor s) host = [⟨.entry a.place.path, found⟩,
        ⟨.fetch url, .ok bytes⟩, ⟨.write a.place.path bytes, .ok ()⟩] ∧
      Creation.SavedAsIs a.place.path a.name url bytes (.notArchive .noEndRecord) a.start.1
        (a.finish (Creation.visitor s) host).1 := by
  intro env bytes s schema host before
  constructor
  · have hfits := fits_bundle "# %NAME%" (by simp)
    have hout : (bundle "# %NAME%").map (replaced .plain env) = bundle "# Acme & Co" := by
      decide +kernel
    have hms : (Zip.headersOf 0 (bundle "# %NAME%")).mapM
        (·.member? (Zip.write (bundle "# %NAME%"))) = some (bundle "# %NAME%") :=
      Zip.mapM_member?_headersOf Zip.stands_records
    obtain ⟨hkept, -⟩ :=
      archives_keep_all_but_text .plain env (Zip.write (bundle "# %NAME%"))
    obtain ⟨hrebuilt, hall, hread⟩ := hkept _ _ (Zip.headers_write hfits) hms
      (by decide +kernel) (by decide +kernel)
    rw [hout] at hrebuilt hall hread
    exact ⟨hrebuilt, hall, hread (fits_bundle _ (by simp))⟩
  · have hsame : ∀ name ∈ ["b.zip", "https://[2606::1]/"], ∀ env, substitute env name = name := by
      intro name hname env
      exact substitute_of_not_mem (by fin_cases hname <;> decide)
    obtain ⟨accepted, haccepts⟩ : ∃ accepted, Url.guard "https://[2606::1]/" = .ok accepted := by
      have hok : (Url.guard "https://[2606::1]/").isOk = true := by decide +kernel
      revert hok
      cases Url.guard "https://[2606::1]/" with
      | error e => simp [Except.isOk, Except.toBool]
      | ok accepted => exact fun _ => ⟨accepted, rfl⟩
    let f : FileNode := { name := "b.zip", url := some "https://[2606::1]/" }
    let a : Arrival Creation Memory :=
      ⟨⟨"b.zip", rfl⟩, f, Scope.environment default s.today, { path := "out" }, .done, ({}, before)⟩
    have ha : a ∈ s.arrivals host schema "out" default before := by
      simp only [CreateSettings.arrivals, Plan.ofRoot, Plan.ofList, Plan.ofNode, schema,
        hsame "b.zip" (by simp)]
      exact List.mem_cons_self
    have hfetched : ⟨.fetch accepted.text, .ok bytes⟩ ∈ a.events (Creation.visitor s) host := by
      have hentry : (host (.entry a.place.path) before).1 = .ok none :=
        congrArg Except.ok (show before.entry a.place.path = none by decide)
      exact Creation.fetch_mem_events rfl rfl rfl rfl
        ((hsame "https://[2606::1]/" (by simp) a.env).symm ▸ haccepts) (.inl hentry)
    have hrejected : rebuild .plain a.env bytes = .error (.notArchive .noEndRecord) := by
      decide +kernel
    obtain ⟨-, hsaves⟩ := archives_keep_all_but_text .plain a.env bytes
    obtain ⟨found, reply, hevents, hsaved⟩ :=
      hsaves _ hrejected host s schema "out" default before a ha rfl (by decide) (by decide) _
        hfetched
    have hreply : reply = .ok () := by
      have hwritten : (a.events (Creation.visitor s) host).any Event.isFailedWrite = false := by
        decide +kernel
      rw [hevents] at hwritten
      cases reply with
      | error e => simp [Event.isFailedWrite] at hwritten
      | ok => rfl
    subst hreply
    exact ⟨a, ha, _, found, hevents, hsaved rfl⟩

/-- An archive of one empty file, for which its directory records half a gigabyte. -/
def misstated : ByteArray :=
  let packed := Deflate.store .empty
  let shared := [(2, 20), (2, 0), (2, 8), (2, 0), (2, 0x21), (4, 0), (4, packed.size),
    (4, 0x20000000), (2, 1), (2, 0)]
  Bytes.fields ((4, 0x04034B50) :: shared) ++ "a".toUTF8 ++ packed ++
    (Bytes.fields ([(4, 0x02014B50), (2, 0x0314)] ++ shared ++
      [(2, 0), (2, 0), (2, 0), (4, 0o100644 * 65536), (4, 0)]) ++ "a".toUTF8) ++
    Zip.endRecord 1 47 36

/-- A file with the name of a folder loses its bytes, and an archive is refused if its directory
misstates the size of an empty file. -/
theorem archive_loses_bytes_of_folder :
    let env : Environment := ⟨⟨2024, 1, 1, by decide⟩, fun _ => none⟩
    let note : Zip.Member := ⟨"notes\\", .stored, some 0o100644, "abc".toUTF8⟩
    let emptied : Zip.Member := ⟨"notes\\", .stored, some 0o40644, .empty⟩
    (Zip.members? (Zip.write [note]) = some [note] ∧ Kind.plain.hasText note.name = false ∧
      rebuild .plain env (Zip.write [note]) = .ok (Zip.write [emptied]) ∧
      Zip.members? (Zip.write [emptied]) = some [emptied] ∧ emptied.data ≠ note.data) ∧
    (Zip.members? misstated = some [⟨"a", .deflated, some 0o100644, .empty⟩] ∧
      rebuild .plain env misstated = .error .tooLarge) := by
  intro env note emptied
  have hfits : ∀ m ∈ [note, emptied], Zip.Fits [m] := by
    intro m hm
    refine ⟨fun m' hm' => ?_, by simp, ?_, by simp⟩
    · fin_cases hm <;> fin_cases hm' <;>
        exact ⟨by decide, by decide, _, rfl, by decide, by decide⟩
    · fin_cases hm <;> decide +kernel
  have hnote := hfits note (by simp)
  have hrebuilt : rebuild .plain env (Zip.write [note]) =
      .ok (Zip.write ([note].map (replaced .plain env))) :=
    rebuild_eq (Zip.headers_write hnote) (Zip.mapM_member?_headersOf Zip.stands_records)
      (by decide +kernel) (by decide +kernel)
  have hout : [note].map (replaced .plain env) = [emptied] := by decide +kernel
  rw [hout] at hrebuilt
  exact ⟨⟨Zip.members?_write hnote, by decide, hrebuilt,
    Zip.members?_write (hfits _ (by simp)), by decide⟩, by decide +kernel, by decide +kernel⟩

end Scaffold

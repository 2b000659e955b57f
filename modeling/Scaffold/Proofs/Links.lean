import Mathlib.Tactic
import Scaffold.Proofs.Calls
import Scaffold.Proofs.Disk
import Scaffold.Proofs.DryRun

/-!
Links that lead out of the output folder.

A look at a path does not follow a link at its end, and writing does. So a file that may be
overwritten is written through a link in its place, wherever the link leads.

* `Disk.IsWrittenThrough`: a file was written through a link in a folder below the output folder;
* `Disk.Confined`: a disk has grown, and outside of the output folder only by such files. Each
  call for a place that is reached without links does this (`Reaches.confined_write`,
  `Reaches.confined_makeFolder`), and each visit does (`Creation.visitor_confined`);
* `only_links_lead_outside`: so a run that creates leaves everything outside of the output folder
  alone, unless it may overwrite and a link in the output folder leads there.
  `link_is_written_through` is such a run.
-/

namespace Scaffold

open Scaffold.Path Variable

namespace Disk

variable {d d' d'' : Disk} {root names : List String} {mayFollow : Prop}

/-! ### Disks that grow in a folder -/

/-- A file was written at some names through a link in a folder below a root. -/
def IsWrittenThrough (d d' : Disk) (root names : List String) : Prop :=
  ∃ folder name target bytes, root <+: folder ∧
    d.slot? (folder ++ [name]) = some (.link target) ∧
    d'.resolveFrom true maxLinks folder [.name name] = .ok names ∧
    d'.slot? names = some (.file bytes)

/-- A disk has grown, and outside of a folder only by files that were written through links. -/
structure Confined (mayFollow : Prop) (root : List String) (d d' : Disk) : Prop where
  grows : d.Grows d'
  isTree : d'.IsTree
  outside : ∀ names, ¬ root <+: names →
    d'.slot? names = d.slot? names ∨ mayFollow ∧ d.IsWrittenThrough d' root names

namespace Confined

lemma refl (h : d.IsTree) : Confined mayFollow root d d :=
  ⟨.refl d, h, fun _ _ => .inl rfl⟩

/-- A file that was written through a link stays where it is, and so does the link. -/
lemma trans (h : Confined mayFollow root d d') (h' : Confined mayFollow root d' d'') :
    Confined mayFollow root d d'' where
  grows := h.grows.trans h'.grows
  isTree := h'.isTree
  outside names hout := by
    obtain hsame' | ⟨hmay, folder, name, target, bytes, hin, hlink, hleads, hfile⟩ :=
      h'.outside names hout
    · obtain hsame | ⟨hmay, folder, name, target, bytes, hin, hlink, hleads, hfile⟩ :=
        h.outside names hout
      · exact .inl (hsame'.trans hsame)
      · rw [resolveFrom_eq_ok_iff] at hleads
        exact .inr ⟨hmay, folder, name, target, bytes, hin, hlink,
          resolveFrom_eq_ok_iff.mpr (hleads.grows h'.grows), hsame'.trans hfile⟩
    · exact .inr ⟨hmay, folder, name, target, bytes, hin, (h.grows.link _ _).mp hlink, hleads,
        hfile⟩

end Confined

section Calls

variable {base : String} {name : AcceptedName}

/-- Below a folder that is reached, a folder is made where nothing is. -/
lemma Reaches.confined_makeFolder (h : d.Reaches base names) (htree : d.IsTree)
    (hin : root <+: names) (hslot : d.slot? (names ++ [name.1]) = none) :
    Confined mayFollow root d (d.put (names ++ [name.1]) .folder) := by
  have hne : names ++ [name.1] ≠ [] := by simp
  have hgrows : d.Grows (d.put (names ++ [name.1]) .folder) :=
    .put (.inl hslot) hne (by simp) fun _ => hslot
  refine ⟨hgrows, htree.put hgrows (by rw [List.dropLast_concat]; exact h.folder), ?_⟩
  intro other hout
  have hother : other ≠ names ++ [name.1] := by
    rintro rfl
    exact hout (hin.trans (List.prefix_append _ _))
  exact .inl (slot?_put_of_ne d _ hother)

/-- **A file is written** in a folder that is reached, or through a link in its place. -/
lemma Reaches.confined_write (h : d.Reaches base names) (htree : d.IsTree) (hin : root <+: names)
    (hmay : mayFollow ∨ ∀ target, d.slot? (names ++ [name.1]) ≠ some (.link target))
    {bytes : ByteArray} (hwrite : d.write (Path.join base name) bytes = .ok d') :
    Confined mayFollow root d d' := by
  obtain ⟨found, hleads, hnotFolder, rfl⟩ := h.write_eq_ok_iff.mp hwrite
  obtain ⟨hopen, hne, habove⟩ :=
    (hleads.isFolder_or_isOpen htree h.folder).resolve_left hnotFolder
  have hgrows : d.Grows (d.put found (.file bytes)) := .put hopen hne (by simp) (by simp)
  refine ⟨hgrows, htree.put hgrows habove, fun other hout => ?_⟩
  by_cases hother : other = found
  · subst hother
    -- outside of the root there is no way but through a link
    cases hleads with
    | last => exact absurd (hin.trans (List.prefix_append _ _)) hout
    | folder _ _ hleads =>
        cases hleads
        exact absurd (hin.trans (List.prefix_append _ _)) hout
    | unfollowed _ _ hnever => simp at hnever
    | link hshort hlink hend hleads =>
        have hmay := hmay.resolve_right fun hnone => hnone _ hlink
        refine .inr ⟨hmay, names, name, _, bytes, hin, hlink, ?_, slot?_put_self d _ hne⟩
        exact resolveFrom_eq_ok_iff.mpr ((Leads.link hshort hlink hend hleads).grows hgrows)
  · exact .inl (slot?_put_of_ne d _ hother)

end Calls

/-- The replies of a disk, and what it is after them. -/
def replying (outside : Outside) : Run.Rule Disk := fun d c reply d' =>
  reply = (answer outside d c).1 ∧ d' = (answer outside d c).2

lemma host_within (outside : Outside) : (host outside).Within id (replying outside) :=
  fun _ _ => ⟨rfl, rfl⟩

end Disk

/-! ### Visits -/

namespace Creation

open Disk

variable {s : CreateSettings} {outside : Outside} {root names : List String} {d : Disk}
  {place : Cursor} {name : AcceptedName}

/-- A run that follows links may overwrite, and is not dry. -/
abbrev MayFollow (s : CreateSettings) : Prop :=
  s.options.dryRun = false ∧ s.options.overwrite = true

/-- A place that a walk comes to in a tree: a folder below the root, reached without links. -/
def IsAt (root : List String) (place : Cursor) (d : Disk) : Prop :=
  d.IsTree ∧ place.isPlanned = false ∧ ∃ names, root <+: names ∧ d.Reaches place.path names

lemma IsAt.confined {mayFollow : Prop} {d' : Disk} (h : IsAt root place d)
    (hd : Confined mayFollow root d d') : IsAt root place d' := by
  obtain ⟨-, hreal, names, hin, hreaches⟩ := h
  exact ⟨hd.isTree, hreal, names, hin, hreaches.grows hd.grows⟩

lemma ensures_ask {c : Call} {reply : c.Reply} {d' : Disk} (h : answer outside d c = (reply, d'))
    {t : Creation} {after : c.Reply → Creation → Disk → Prop} :
    Ensures (replying outside) (ask c) t d after ↔ after reply t d' := by
  rw [ask, ensures_call]
  simp only [replying, h]
  exact ⟨fun hall => hall _ _ ⟨rfl, rfl⟩, by rintro hafter _ _ ⟨rfl, rfl⟩; exact hafter⟩

/-- A look at a name in a folder that is reached tells of its slot. -/
lemma ensures_entry (h : d.Reaches place.path names) {t : Creation}
    {after : Except Failure (Option Entry) → Creation → Disk → Prop} :
    Ensures (replying outside) (ask (.entry (place.descend name).path)) t d after ↔
      after (.ok ((d.slot? (names ++ [name.1])).map Slot.entry)) t d := by
  refine ensures_ask ?_
  rw [answer, Cursor.descend, h.entry_eq]
  rfl

/-- A folder is made where nothing is. -/
lemma ensures_makeFolder (h : d.Reaches place.path names)
    (hslot : d.slot? (names ++ [name.1]) = none) {t : Creation}
    {after : Except Failure Unit → Creation → Disk → Prop} :
    Ensures (replying outside) (ask (.makeFolder (place.descend name).path)) t d after ↔
      after (.ok ()) t (d.put (names ++ [name.1]) .folder) := by
  refine ensures_ask ?_
  rw [answer, Cursor.descend, h.makeFolder_of_none hslot]
  rfl

/-- A file is written where following links leads. -/
lemma ensures_write (h : d.Reaches place.path names) {found : List String}
    (hleads : d.Leads true maxLinks names [.name name] found)
    (hfound : d.slot? found ≠ some .folder) {bytes : ByteArray} {t : Creation}
    {after : Except Failure Unit → Creation → Disk → Prop} :
    Ensures (replying outside) (ask (.write (place.descend name).path bytes)) t d after ↔
      after (.ok ()) t (d.put found (.file bytes)) := by
  refine ensures_ask ?_
  rw [answer, Cursor.descend, h.write_eq_ok_iff.mpr ⟨found, hleads, hfound, rfl⟩]
  rfl

/-- A folder below one that a walk has come to is a place to come to. -/
lemma IsAt.descend (htree : d.IsTree) (hplace : place.isPlanned = false) (hin : root <+: names)
    (h : d.Reaches place.path names) (hslot : d.slot? (names ++ [name.1]) = some .folder)
    {opened : Option (Unit × Bool)} (hopened : opened = some ((), false)) :
    ∀ o isPlanned, opened = some (o, isPlanned) →
      IsAt root { place.descend name with isPlanned := place.isPlanned || isPlanned } d := by
  rintro o isPlanned rfl
  obtain rfl : isPlanned = false := by simpa using hopened
  refine ⟨htree, ?_, names ++ [name.1], hin.trans (List.prefix_append _ _), h.join hslot⟩
  rw [hplace]
  rfl

/-- **A folder** that is entered is reached without links. -/
lemma enterFolder_confined (hreal : s.options.dryRun = false) (h : IsAt root place d)
    (t : Creation) :
    Ensures (replying outside) (enterFolder s name (place.descend name)) t d fun opened _ d' =>
      Confined (MayFollow s) root d d' ∧ ∀ o isPlanned, opened = some (o, isPlanned) →
        IsAt root { place.descend name with isPlanned := place.isPlanned || isPlanned } d' := by
  obtain ⟨htree, hplace, names, hin, hreaches⟩ := h
  have hsame : Confined (MayFollow s) root d d := .refl htree
  have hplanned : (place.descend name).isPlanned = false := hplace
  rw [enterFolder, if_neg (by simp [hplanned]), ensures_bind, ensures_entry hreaches]
  cases hslot : d.slot? (names ++ [name.1]) with
  | none =>
      have hmade : Confined (MayFollow s) root d (d.put (names ++ [name.1]) .folder) :=
        hreaches.confined_makeFolder htree hin hslot
      simp only [Option.map_none, hreal, Bool.false_eq_true, if_false, makeFolder, ensures_bind,
        ensures_makeFolder hreaches hslot, count, record, log, ensures_modify, ensures_pure]
      exact ⟨hmade, .descend hmade.isTree hplace hin (hreaches.grows hmade.grows)
        (slot?_put_self d _ (by simp)) rfl⟩
  | some slot =>
      cases slot with
      | folder =>
          simp only [Option.map_some, Slot.entry, Entry.isFolder, decide_true, if_true,
            ensures_bind, log, ensures_modify, ensures_pure]
          exact ⟨hsame, .descend htree hplace hin hreaches hslot rfl⟩
      | file bytes | link target =>
          simp only [Option.map_some, Slot.entry, Entry.isFolder, reduceCtorEq, decide_false,
            Bool.false_eq_true, if_false, ensures_bind, fail, count, log, ensures_modify,
            ensures_pure]
          exact ⟨hsame, by simp⟩

/-- What may be asked for a file that is written: to write it, and for its bytes elsewhere. -/
def WritesAt (path : String) : Call → Prop
  | .write path' _ => path' = path
  | .fetch _ | .generate _ => True
  | _ => False

lemma admitsFile_writesAt (s : CreateSettings) (place : Cursor) :
    AdmitsFile s (WritesAt place.path) place :=
  ⟨fun _ _ => rfl, fun _ _ _ _ => trivial, fun _ _ => trivial⟩

/-- **To write a file** in a folder that is reached changes nothing else, unless links may be
followed. -/
lemma writeFile_confined (htree : d.IsTree) (hin : root <+: names)
    (h : d.Reaches place.path names)
    (hmay : MayFollow s ∨ ∀ target, d.slot? (names ++ [name.1]) ≠ some (.link target))
    (f : FileNode) (env : Environment) (preExisted : Bool) (t : Creation) :
    Ensures (replying outside) (writeFile s name f (place.descend name) env preExisted) t d
      fun _ _ d' => Confined (MayFollow s) root d d' := by
  refine ((admitsFile_writesAt s _).writeFile _ f env preExisted).ensures ?_ t (.refl htree)
  rintro c d' _ _ hc hd ⟨-, rfl⟩
  cases c with
  | write path bytes =>
      obtain rfl : path = (place.descend name).path := hc
      have hmay' : MayFollow s ∨ ∀ target, d'.slot? (names ++ [name.1]) ≠ some (.link target) :=
        hmay.imp_right fun hnone target hlink => hnone target ((hd.grows.link _ _).mp hlink)
      cases hwrite : d'.write (place.descend name).path bytes with
      | error fault => simpa [answer, changed, hwrite] using hd
      | ok d'' =>
          have hmore := (h.grows hd.grows).confined_write hd.isTree hin hmay' hwrite
          simpa [answer, changed, hwrite] using hd.trans hmore
  | fetch url | generate request => exact hd
  | entry path | makeFolder path | read path | list path | removeFile path | removeFolder path
  | command text folder => exact hc.elim

/-- **A file** that is visited is written in its place, or through a link there. -/
lemma visitFile_confined (hreal : s.options.dryRun = false) (h : IsAt root place d) (f : FileNode)
    (env : Environment) (t : Creation) :
    Ensures (replying outside) (visitFile s name f (place.descend name) env) t d fun _ _ d' =>
      Confined (MayFollow s) root d d' := by
  obtain ⟨htree, hplace, names, hin, hreaches⟩ := h
  have hsame : Confined (MayFollow s) root d d := .refl htree
  have hplanned : (place.descend name).isPlanned = false := hplace
  have hwrite (preExisted : Bool) (hmay : MayFollow s ∨
      ∀ target, d.slot? (names ++ [name.1]) ≠ some (.link target)) :
      Ensures (replying outside) (do
        writeFile s name f (place.descend name) env preExisted
        pure (none : Option Unit)) t d fun _ _ d' => Confined (MayFollow s) root d d' := by
    rw [ensures_bind]
    exact (writeFile_confined htree hin hreaches hmay f env preExisted t).mono fun _ _ _ hd =>
      ensures_pure.mpr hd
  rw [visitFile, ensures_bind, look, hplanned, if_neg (by simp), ensures_entry hreaches]
  cases hslot : d.slot? (names ++ [name.1]) with
  | none => exact hwrite false (.inr (by simp [hslot]))
  | some slot =>
      cases slot with
      | folder =>
          simp only [Option.map_some, Slot.entry, Entry.isFolder, decide_true, if_true,
            ensures_bind, fail, count, log, ensures_modify, ensures_pure]
          exact hsame
      | file bytes | link target =>
          simp only [Option.map_some, Slot.entry, Entry.isFolder, reduceCtorEq, decide_false,
            Bool.false_eq_true, if_false]
          split_ifs with hoverwrite
          · exact hwrite true (.inl ⟨hreal, hoverwrite⟩)
          · simp only [ensures_bind, count, log, ensures_modify, ensures_pure]
            exact hsame

/-- **A file with text** in whose place a link stands is written where the link leads. -/
lemma visitFile_through (hreal : s.options.dryRun = false) (hoverwrite : s.options.overwrite = true)
    (hplace : place.isPlanned = false) (h : d.Reaches place.path names) {target : String}
    (hlink : d.slot? (names ++ [name.1]) = some (.link target)) {found : List String}
    (hleads : d.Leads true maxLinks names [.name name] found)
    (hfound : d.slot? found ≠ some .folder)
    {f : FileNode} {content : Option String} (hsource : f.source = .inline content)
    (env : Environment) (t : Creation) :
    Ensures (replying outside) (visitFile s name f (place.descend name) env) t d fun _ _ d' =>
      d' = d.put found (.file (renderContent env f.isTemplate (f.content.getD "")).1.toUTF8) := by
  have hplanned : (place.descend name).isPlanned = false := hplace
  rw [visitFile, ensures_bind, look, hplanned, if_neg (by simp), ensures_entry h, hlink]
  simp only [Option.map_some, Slot.entry, Entry.isFolder, reduceCtorEq, decide_false,
    Bool.false_eq_true, if_false, hoverwrite, if_true, ensures_bind, writeFile, hsource,
    writeInline, writeText, hreal, write]
  obtain ⟨text, fault⟩ := renderContent env f.isTemplate (f.content.getD "")
  cases fault <;>
    simp only [reportFault, ensures_bind, ensures_pure, ensures_write h hleads hfound, log, record,
      count, ensures_modify]

/-- **Each visit** of a run that is not dry grows the disk below the root, or through a link. -/
theorem visitor_confined (hreal : s.options.dryRun = false) :
    (visitor s).Advances (replying outside)
      (fun x y => x.2.IsTree → Confined (MayFollow s) root x.2 y.2)
      (fun place x => IsAt root place x.2) where
  refl _ htree := .refl htree
  trans h h' htree := (h htree).trans (h' (h htree).isTree)
  stays hplace h := hplace.confined (h hplace.1)
  report _ t d :=
    EveryCall.ensures (I := fun d' => d.IsTree → Confined (MayFollow s) root d d')
      (everyCall_report (P := fun _ => False) _) (fun _ _ _ _ hnever => hnever.elim) t
      fun htree => .refl htree
  enterFolder _ _ t _ hplace :=
    (enterFolder_confined hreal hplace t).mono fun _ _ _ h => ⟨fun _ => h.1, h.2⟩
  leaveFolder _ _ _ _ := ensures_pure.mpr fun htree => .refl htree
  file _ f _ env t _ hplace :=
    (visitFile_confined hreal hplace f env t).mono fun _ _ _ h _ => h
  group _ _ _ _ _ := ensures_pure.mpr fun htree => .refl htree
  invalidName _ _ _ _ := ensures_pure.mpr fun htree => .refl htree

end Creation

/-- A run that creates grows a disk below the output folder, or through links. -/
lemma create_confined (outside : Outside) {s : CreateSettings} (hhooks : s.options.runHooks = false)
    (schema : Schema) {output : String} (scope : Scope) {d : Disk} (htree : d.IsTree)
    {root : List String} (houtput : d.Reaches output root) :
    Disk.Confined (Creation.MayFollow s) root d
      ((create s schema output scope).on (Disk.host outside) d).2 := by
  cases hdry : s.options.dryRun with
  | true =>
      have hstill := (create_inspects hdry schema output scope).on_eq id (Disk.host_still outside) d
      rw [id_eq, id_eq] at hstill
      rw [hstill]
      exact .refl htree
  | false =>
      have hrun : (create s schema output scope).Ensures (Disk.replying outside)
          (fun _ d' => Disk.Confined (Creation.MayFollow s) root d d') d := by
        rw [create, walk_eq_perform, ensures_run, ensures_bind]
        refine ((Creation.visitor_confined hdry).perform _
          ⟨htree, rfl, root, List.prefix_rfl, houtput⟩).mono fun _ c d' hd => ?_
        rw [if_neg (by simp [hhooks])]
        exact ensures_pure.mpr (hd htree)
      exact Host.Within.on (Disk.host_within outside) hrun

/-- A disk with a link in a folder that leads out of it, to a file. -/
def Disk.leadingOut : Disk where
  slots := .ofList [(["out"], .folder), (["out", "a"], .link "../secret"),
    (["secret"], .file "s".toUTF8)]

lemma Disk.leadingOut_isTree : leadingOut.IsTree := by decide +kernel

lemma Disk.leadingOut_reaches : leadingOut.Reaches "/out" ["out"] where
  resolves := by
    have hcomponents : components "/out" = [.root, .name "out"] := by decide
    rw [resolveFrom_eq_ok_iff, hcomponents]
    exact .root (.folder (by decide) (by decide) .done)
  folder := by decide

/-- **Only links lead outside.** A run that creates in a folder that is reached without links
leaves all that is elsewhere on the disk alone and puts nothing there, unless it may overwrite
and writes a file through a link below that folder. -/
theorem only_links_lead_outside (outside : Outside) {s : CreateSettings}
    (hhooks : s.options.runHooks = false) (schema : Schema) (scope : Scope) {d : Disk}
    (htree : d.IsTree) {output : String} {root : List String} (houtput : d.Reaches output root) :
    ∃ c after, (create s schema output scope).on (Disk.host outside) d = (c, after) ∧
      after.IsTree ∧ ∀ names, ¬ root <+: names → after.slot? names = d.slot? names ∨
        s.options.dryRun = false ∧ s.options.overwrite = true ∧
          d.IsWrittenThrough after root names := by
  have hd := create_confined outside hhooks schema scope htree houtput
  refine ⟨_, _, rfl, hd.isTree, fun names hout => (hd.outside names hout).imp_right ?_⟩
  rintro ⟨⟨hreal, hoverwrite⟩, hthrough⟩
  exact ⟨hreal, hoverwrite, hthrough⟩

/-- So a file that a link leads to is left alone if nothing may be overwritten. -/
theorem only_links_lead_outside_keeping_files :
    let s : CreateSettings :=
      { limits := {}, today := ⟨2024, 1, 1, by decide⟩, equipment := {}, options := {} }
    let schema : Schema := { root := .file { name := "a", content := some "x" } }
    s.options.runHooks = false ∧ Disk.leadingOut.IsTree ∧ Disk.leadingOut.Reaches "/out" ["out"] ∧
      ∃ c after, (create s schema "/out" default).on (Disk.host {}) .leadingOut = (c, after) ∧
        after.slot? ["secret"] = some (.file "s".toUTF8) := by
  intro s schema
  obtain ⟨c, after, hrun, -, houtside⟩ := only_links_lead_outside {} (s := s) rfl schema default
    Disk.leadingOut_isTree Disk.leadingOut_reaches
  refine ⟨rfl, Disk.leadingOut_isTree, Disk.leadingOut_reaches, c, after, hrun, ?_⟩
  obtain hsame | ⟨-, hoverwrite, -⟩ := houtside ["secret"] (by decide)
  · exact hsame.trans (by decide +kernel)
  · exact absurd hoverwrite (by decide)

/-- A file with text at the root of a schema is written where a link in its place leads. -/
lemma create_through_link (outside : Outside) {s : CreateSettings}
    (hreal : s.options.dryRun = false) (hoverwrite : s.options.overwrite = true)
    (hhooks : s.options.runHooks = false) {schema : Schema} {f : FileNode}
    (hroot : schema.root = .file f) {content : Option String} (hsource : f.source = .inline content)
    (scope : Scope) {name : AcceptedName}
    (hname : Name.check (substitute (scope.environment s.today) f.name) = .ok name.1) {d : Disk}
    {output target : String} {names found : List String} (houtput : d.Reaches output names)
    (hlink : d.slot? (names ++ [name.1]) = some (.link target))
    (hleads : d.Leads true Disk.maxLinks names [.name name] found)
    (hfound : d.slot? found ≠ some .folder) :
    ((create s schema output scope).on (Disk.host outside) d).2 =
      d.put found (.file (renderContent (scope.environment s.today) f.isTemplate
        (f.content.getD "")).1.toUTF8) := by
  have hrun : (create s schema output scope).Ensures (Disk.replying outside)
      (fun _ d' => d' = d.put found (.file (renderContent (scope.environment s.today) f.isTemplate
        (f.content.getD "")).1.toUTF8)) d := by
    simp only [create, walk, Walk.walkList, Walk.walkNode, Walk.visitFile, hroot, hname,
      Nat.not_lt_zero, if_false, ensures_run, ensures_bind, bind_assoc, ensures_pure, hhooks,
      Bool.false_eq_true]
    have hplace : d.Reaches (⟨output, "", false⟩ : Cursor).path names := houtput
    exact (Creation.visitFile_through hreal hoverwrite rfl hplace hlink hleads hfound hsource _
      _).mono fun _ _ _ hd => hd
  exact Host.Within.on (Disk.host_within outside) hrun

/-- **A link is written through.** A file that may be overwritten and in whose place a link
stands is written outside of the output folder. -/
theorem link_is_written_through :
    let s : CreateSettings :=
      { limits := {}, today := ⟨2024, 1, 1, by decide⟩, equipment := {},
        options := { overwrite := true } }
    let schema : Schema := { root := .file { name := "a", content := some "x" } }
    let after := ((create s schema "/out" default).on (Disk.host {}) .leadingOut).2
    s.options.runHooks = false ∧ Disk.leadingOut.IsTree ∧ Disk.leadingOut.Reaches "/out" ["out"] ∧
      ¬ ["out"] <+: ["secret"] ∧
      Disk.leadingOut.slot? ["secret"] = some (.file "s".toUTF8) ∧
      after.slot? ["secret"] = some (.file "x".toUTF8) := by
  intro s schema after
  refine ⟨rfl, Disk.leadingOut_isTree, Disk.leadingOut_reaches, by decide, by decide +kernel, ?_⟩
  let a : AcceptedName := ⟨"a", by decide⟩
  have hplain : ∀ text, '%' ∉ text.toList →
      substitute ((default : Scope).environment s.today) text = text :=
    fun _ h => substitute_of_not_mem h
  have hname : Name.check (substitute ((default : Scope).environment s.today) "a") = .ok a.1 := by
    rw [hplain _ (by decide)]
    exact a.2
  have hlink : Disk.leadingOut.slot? (["out"] ++ [a.1]) = some (.link "../secret") := by decide
  have hleads : Disk.leadingOut.Leads true Disk.maxLinks ["out"] [.name a] ["secret"] := by
    have htarget : components "../secret" = [.up, .name "secret"] := by decide
    refine .link (by decide) hlink (by decide) ?_
    rw [htarget]
    exact .up (.last (by decide) (.inr ⟨"s".toUTF8, by decide +kernel⟩))
  have htext : (renderContent ((default : Scope).environment s.today) false "x").1 = "x" :=
    hplain _ (by decide)
  have hroot : schema.root = .file { name := "a", content := some "x" } := rfl
  have hafter : after = _ := create_through_link {} (s := s) rfl rfl rfl hroot rfl default hname
    Disk.leadingOut_reaches hlink hleads (by decide +kernel)
  rw [hafter, Disk.slot?_put_self _ _ (by decide)]
  exact congrArg (fun text => some (Disk.Slot.file text.toUTF8)) htext

end Scaffold

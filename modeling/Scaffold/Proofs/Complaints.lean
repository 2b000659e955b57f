import Mathlib.Tactic
import Scaffold.Proofs.Agreement
import Scaffold.Proofs.DryRun

/-!
What runs complain of.

* A `Complaint` is something wrong with a schema, which a run reports when it comes to it;
  `Complaint.head` is how such a message starts;
* `Plan.ComplainsOf`: all that is wrong in a plan is of some kinds of complaints;
* `Visitor.Minds`: a visitor passes on the complaints of what it is handed, and has none of its
  own. Then the same holds of a plan that is performed (`Minds.perform`);
* `Creation.visitor_minds` and `Preview.visitor_minds`: so do creating and previewing. A
  download may also fail because the address, which is accepted, could not be fetched;
* `create_complains` and `preview_complains`: hence a run complains only of what is wrong in its
  plan.
-/

namespace Scaffold

open Variable

/-! ### Complaints -/

/-- Something wrong with a schema. -/
inductive Complaint where
  | orphan
  | loopName
  | depth
  | name
  | count
  | rounds
  | address

namespace Complaint

/-- How a message of the complaint starts. -/
def head : Complaint → String
  | orphan => "Skipped orphaned else block"
  | loopName => "Invalid repeat variable name"
  | depth => "Maximum schema depth exceeded"
  | name => "Invalid name"
  | count => "Invalid repeat count"
  | rounds => "Repeat count exceeds maximum"
  | address => "Invalid URL for "

/-- Whether a message is one of the complaint. -/
def IsMadeIn (k : Complaint) (message : String) : Prop :=
  k.head.toList <+: message.toList

end Complaint

/-- A message that neither is a complaint nor tells of a failed download. -/
structure IsPlain (message : String) : Prop where
  not_made : ∀ k : Complaint, ¬ k.IsMadeIn message
  not_download : ¬ "Download failed: ".toList <+: message.toList

/-- A message is plain by its first letters. They are spelled out here: a text that is opened
into its letters takes long to check, and this opens only the message itself. -/
lemma isPlain_of_opening {message : String}
    (h : (¬ ['S', 'k', 'i', 'p', 'p', 'e', 'd', ' ', 'o'] <+: message.toList) ∧
      (¬ ['I', 'n', 'v'] <+: message.toList) ∧ (¬ ['M', 'a', 'x'] <+: message.toList) ∧
      (¬ ['R', 'e', 'p'] <+: message.toList) ∧
      ¬ ['D', 'o', 'w', 'n', 'l', 'o', 'a', 'd', ' '] <+: message.toList) :
    IsPlain message := by
  obtain ⟨hskipped, hinvalid, hmaximum, hrepeat, hdownload⟩ := h
  refine ⟨fun k hk => ?_, fun hfailed => hdownload (.trans (by simp) hfailed)⟩
  cases k with
  | orphan => exact hskipped (.trans (by simp [Complaint.head]) hk)
  | depth => exact hmaximum (.trans (by simp [Complaint.head]) hk)
  | rounds => exact hrepeat (.trans (by simp [Complaint.head]) hk)
  | loopName | name | count | address => exact hinvalid (.trans (by simp [Complaint.head]) hk)

/-- The complaint that a notice makes, if it makes one. -/
def Notice.complaint? : Notice → Option Complaint
  | tooDeep _ _ => some .depth
  | invalidName _ _ => some .name
  | orphaned => some .orphan
  | invalidVariable _ _ => some .loopName
  | invalidCount _ _ => some .count
  | tooManyRounds _ _ => some .rounds
  | noRounds _ | rounds _ _ => none

/-- The message of a notice is of no other complaint, whatever is put behind it. -/
lemma Notice.complaint?_of_isMadeIn {notice : Notice} {k : Complaint} (isDry : Bool)
    (rest : String) (h : k.IsMadeIn ((notice.entry isDry).message ++ rest)) :
    notice.complaint? = some k := by
  revert h
  cases notice with
  | rounds times name =>
      cases isDry <;> cases k <;> simp [Complaint.IsMadeIn, Complaint.head, entry, toString]
  | tooDeep | invalidName | orphaned | invalidVariable | noRounds | invalidCount
  | tooManyRounds =>
      cases k <;> simp [Complaint.IsMadeIn, Complaint.head, complaint?, entry, toString]

/-- A notice makes complaints of some kinds only. -/
def Notice.ComplainsOf (K : Complaint → Prop) (notice : Notice) : Prop :=
  ∀ k, notice.complaint? = some k → K k

/-- The address of a file is refused. -/
def FileNode.IsRefused (f : FileNode) (env : Environment) : Prop :=
  ∃ raw fault, f.source = .url raw ∧ Url.guard (substitute env raw) = .error fault

namespace Plan

/-- What is wrong in a plan gives rise to complaints of some kinds only. -/
def ComplainsOf (K : Complaint → Prop) : Plan → Prop
  | done => True
  | report notice next => notice.ComplainsOf K ∧ next.ComplainsOf K
  | refused _ next => next.ComplainsOf K
  | file _ f env next => (f.IsRefused env → K .address) ∧ next.ComplainsOf K
  | folder _ inside next | group _ inside next => inside.ComplainsOf K ∧ next.ComplainsOf K

variable {K : Complaint → Prop}

lemma ComplainsOf.append {p q : Plan} (h : p.ComplainsOf K) (h' : q.ComplainsOf K) :
    (p.append q).ComplainsOf K := by
  induction p with
  | done => exact h'
  | report notice next ih => exact ⟨h.1, ih h.2⟩
  | refused kind next ih => exact ih h
  | file name f env next ih => exact ⟨h.1, ih h.2⟩
  | folder name inside next _ ih => exact ⟨h.1, ih h.2⟩
  | group label inside next _ ih => exact ⟨h.1, ih h.2⟩

lemma complainsOf_concat {ps : List Plan} (h : ∀ p ∈ ps, p.ComplainsOf K) :
    (concat ps).ComplainsOf K := by
  induction ps with
  | nil => trivial
  | cons p rest ih =>
      obtain ⟨hp, hrest⟩ := List.forall_mem_cons.mp h
      exact hp.append (ih hrest)

end Plan

/-! ### Visitors -/

/-- What is told in between has some property. -/
def Utters {ρ γ : Type} (told : ρ → Array γ) (P : γ → Prop) (t t' : ρ) : Prop :=
  ∀ message ∈ told t', message ∈ told t ∨ P message

section Utters

variable {ρ γ : Type} {told : ρ → Array γ} {P : γ → Prop}

instance : Std.Refl (Utters told P) := ⟨fun _ _ h => .inl h⟩

instance : IsTrans ρ (Utters told P) where
  trans _ _ _ h h' message hmessage := (h' message hmessage).elim (h message) .inr

lemma Utters.of_eq {t t' : ρ} (h : told t' = told t) : Utters told P t t' :=
  fun _ hmessage => .inl (h ▸ hmessage)

lemma Utters.push {t t' : ρ} {message : γ} (h : told t' = (told t).push message)
    (hmessage : P message) : Utters told P t t' := by
  intro other hother
  rw [h, Array.mem_push] at hother
  rcases hother with hother | rfl
  · exact .inl hother
  · exact .inr hmessage

end Utters

/-- Each visit tells no more than it may, if it is handed complaints of some kinds only. -/
structure Visitor.Minds {ρ Item Opened : Type} (v : Visitor (StateT ρ Run) Item Opened)
    (rule : Run.Rule Unit) (rel : ρ → ρ → Prop) (K : Complaint → Prop) : Prop where
  report : ∀ notice : Notice, notice.ComplainsOf K →
    Keeps rule rel (v.report (notice.entry v.isDry)) fun _ => True
  enterFolder : ∀ name place, Keeps rule rel (v.enterFolder name place) fun _ => True
  leaveFolder : ∀ opened items, Keeps rule rel (v.leaveFolder opened items) fun _ => True
  file : ∀ name f place env, (f.IsRefused env → K .address) →
    Keeps rule rel (v.file name f place env) fun _ => True
  group : ∀ label place items, Keeps rule rel (v.group label place items) fun _ => True
  invalidName : ∀ kind place, Keeps rule rel (v.invalidName kind place) fun _ => True

namespace Visitor.Minds

variable {ρ Item Opened : Type} {v : Visitor (StateT ρ Run) Item Opened} {rule : Run.Rule Unit}
  {rel : ρ → ρ → Prop} [Std.Refl rel] [IsTrans ρ rel] {K : Complaint → Prop}

/-- One visit and then the rest of a plan. -/
lemma andThen {x : StateT ρ Run (Option Item)} {rest : StateT ρ Run (List Item)}
    (hx : Keeps rule rel x fun _ => True) (hrest : Keeps rule rel rest fun _ => True) :
    Keeps rule rel (do let item ← x; let items ← rest; pure (item.toList ++ items))
      fun _ => True :=
  hx.bind fun _ _ => hrest.bind fun _ _ => keeps_pure trivial

/-- **A plan that is performed** tells no more than its visits may. -/
theorem perform (hv : v.Minds rule rel K) {p : Plan} (hp : p.ComplainsOf K) (place : Cursor) :
    Keeps rule rel (p.perform v place) fun _ => True := by
  induction p generalizing place with
  | done => exact keeps_pure trivial
  | report notice next ih => exact (hv.report notice hp.1).bind fun _ _ => ih hp.2 place
  | refused kind next ih => exact andThen (hv.invalidName kind place) (ih hp place)
  | file name f env next ih => exact andThen (hv.file name f _ env hp.1) (ih hp.2 place)
  | folder name inside next ihInside ih =>
      refine andThen ((hv.enterFolder name _).bind fun opened _ => ?_) (ih hp.2 place)
      cases opened with
      | none => exact keeps_pure trivial
      | some opened =>
          exact (ihInside hp.1 _).bind fun items _ => hv.leaveFolder opened.1 items
  | group label inside next ihInside ih =>
      refine (ihInside hp.1 place).bind fun children _ => ?_
      exact andThen (hv.group label place children) (ih hp.2 place)

end Visitor.Minds

/-! ### Creating -/

namespace Creation

section

variable {σ : Type} {s : CreateSettings} {host : Host (StateM σ)} {K : Complaint → Prop}

/-- Why an address that is accepted cannot be fetched. -/
inductive FetchFails (s : CreateSettings) (host : Host (StateM σ)) (url : String) : Failure → Prop
  | unequipped : s.equipment.canFetch = false → FetchFails s host url (.notConfigured "fetcher")
  | replied {failure : Failure} (st : σ) :
      (host (.fetch url) st).1 = .error failure → FetchFails s host url failure
  | tooLarge {bytes : ByteArray} (st : σ) :
      (host (.fetch url) st).1 = .ok bytes → s.limits.maxDownloadBytes < bytes.size →
      FetchFails s host url (.downloadTooLarge url bytes.size s.limits.maxDownloadBytes)

/-- A download of an address that is accepted has failed. -/
def IsFetchFailure (s : CreateSettings) (host : Host (StateM σ)) (entry : LogEntry) : Prop :=
  s.options.dryRun = false ∧ ∃ text accepted failure, Url.guard text = .ok accepted ∧
    FetchFails s host accepted.text failure ∧ entry.details = some failure.message

/-- What may be logged where complaints are of some kinds only. -/
structure MayLog (s : CreateSettings) (host : Host (StateM σ)) (K : Complaint → Prop)
    (entry : LogEntry) : Prop where
  complaints : ∀ k : Complaint, k.IsMadeIn entry.message → K k
  downloads : entry.IsDownloadFailure → K .address ∨ IsFetchFailure s host entry

lemma MayLog.of_isPlain {entry : LogEntry} (h : IsPlain entry.message) : MayLog s host K entry :=
  ⟨fun k hk => absurd hk (h.not_made k), fun hfailed => absurd hfailed h.not_download⟩

/-- A reply that a host may give. -/
def mayReply (host : Host (StateM σ)) : Run.Rule Unit :=
  fun _ c reply _ => ∃ st, (host c st).1 = reply

/-- Whatever a host replies, a program logs what may be logged. -/
abbrev Logs {α : Type} (s : CreateSettings) (host : Host (StateM σ)) (K : Complaint → Prop)
    (x : CreateM α) (Q : α → Prop) : Prop :=
  Keeps (mayReply host) (Utters logs (MayLog s host K)) x Q

lemma logs_pure {α : Type} (a : α) : Logs s host K (pure a) fun _ => True := keeps_pure trivial

lemma logs_ask (c : Call) : Logs s host K (ask c) fun reply => ∃ st, (host c st).1 = reply :=
  fun t _ => ensures_call.mpr fun _ _ hreply => ⟨hreply, Std.Refl.refl t, rfl⟩

lemma logs_count (change : CreationSummary → CreationSummary) :
    Logs s host K (count change) fun _ => True :=
  keeps_modify fun _ => .of_eq rfl

lemma logs_log {kind : LogKind} {message : String} {details : Option String}
    (h : MayLog s host K ⟨kind, message, details⟩) :
    Logs s host K (log kind message details) fun _ => True :=
  keeps_modify fun _ => .push rfl h

lemma logs_plain {kind : LogKind} {message : String} {details : Option String}
    (h : IsPlain message) : Logs s host K (log kind message details) fun _ => True :=
  logs_log (.of_isPlain h)

/-- A plain message, and then a result. -/
lemma logs_tell {α : Type} {a : α} {kind : LogKind} {message : String} {details : Option String}
    (h : IsPlain message) :
    Logs s host K (do log kind message details; pure a) fun _ => True :=
  (logs_plain h).bind fun _ _ => logs_pure a

lemma logs_note {change : CreationSummary → CreationSummary} {kind : LogKind} {message : String}
    {details : Option String} (h : IsPlain message) :
    Logs s host K (do count change; log kind message details) fun _ => True :=
  (logs_count change).bind fun _ _ => logs_plain h

lemma logs_fail {message details : String} (h : MayLog s host K ⟨.error, message, details⟩) :
    Logs s host K (fail message details) fun _ => True :=
  (logs_count _).bind fun _ _ => logs_log h

/-- A visit that goes wrong says so. -/
lemma logs_giveUp {γ : Type} {message details : String} (h : IsPlain message) :
    Logs s host K (do fail message details; pure (none : Option γ)) fun _ => True :=
  (logs_fail (.of_isPlain h)).bind fun _ _ => logs_pure _

lemma logs_report {isDry : Bool} {notice : Notice} (h : notice.ComplainsOf K) :
    Logs s host K (report (notice.entry isDry)) fun _ => True := by
  have hmay : MayLog s host K (notice.entry isDry) := by
    refine ⟨fun k hk => h k (Notice.complaint?_of_isMadeIn isDry "" ?_),
      fun hfailed => absurd hfailed (isAside_entry isDry notice).1⟩
    rwa [String.append_empty]
  unfold report
  split_ifs
  · exact (logs_count _).bind fun _ _ => logs_log hmay
  · exact logs_log hmay

lemma logs_reportFault (name : String) (fault : Option TemplateError) :
    Logs s host K (reportFault name fault) fun _ => True := by
  cases fault with
  | none => exact logs_pure _
  | some e => exact logs_plain (isPlain_of_opening (by simp [toString]))

lemma logs_look (place : Cursor) : Logs s host K (look place) fun _ => True := by
  unfold look
  split_ifs
  · exact logs_pure _
  · exact (logs_ask _).mono fun _ _ => trivial

lemma logs_write (place : Cursor) (bytes : ByteArray) (preExisted : Bool) :
    Logs s host K (write place bytes preExisted) fun _ => True := by
  unfold write
  refine (logs_ask _).bind fun reply _ => ?_
  split
  · exact logs_pure _
  · exact (keeps_modify fun _ => .of_eq rfl).bind fun _ _ => logs_pure _

/-! ### Files -/

/-- A fetch that fails does so for one of three reasons. -/
lemma logs_fetch (url : String) : Logs s host K (fetch s url) fun fetched =>
    ∀ failure, fetched = .error failure → FetchFails s host url failure := by
  unfold fetch
  split_ifs with hequipped
  · refine keeps_pure ?_
    rintro _ ⟨⟩
    exact .unequipped (by simpa using hequipped)
  · refine (logs_ask _).bind fun reply hreply => ?_
    obtain ⟨st, hst⟩ := hreply
    split
    · refine keeps_pure ?_
      rintro _ ⟨⟩
      exact .replied st hst
    · split_ifs with hlarge
      · refine keeps_pure ?_
        rintro _ ⟨⟩
        exact .tooLarge st hst hlarge
      · exact keeps_pure (by simp)

lemma logs_prepareDownload (name : String) (env : Environment) (bytes : ByteArray) :
    Logs s host K (prepareDownload name env bytes) fun _ => True := by
  unfold prepareDownload
  split
  · exact logs_pure _
  · split
    · exact logs_pure _
    · exact logs_tell (isPlain_of_opening (by simp [toString]))

/-- A download fails because its address is refused, or because it cannot be fetched. -/
lemma logs_download {raw : String} {env : Environment}
    (hrefused : ∀ fault, Url.guard (substitute env raw) = .error fault → K .address)
    (name : String) (place : Cursor) (preExisted : Bool) :
    Logs s host K (download s name raw place env preExisted) fun _ => True := by
  have hfailed : ∀ details, (K .address ∨
      IsFetchFailure s host ⟨.error, s!"Download failed: {name}", some details⟩) →
      Logs s host K (fail s!"Download failed: {name}" details) fun _ => True := by
    intro details hcause
    refine logs_fail ⟨fun k hk => ?_, fun _ => hcause⟩
    cases k <;> simp [Complaint.IsMadeIn, Complaint.head, toString] at hk
  unfold download
  split
  · rename_i fault hguard
    exact hfailed _ (.inl (hrefused fault hguard))
  rename_i accepted hguard
  dsimp only
  split_ifs with hdry
  · exact logs_note (isPlain_of_opening (by simp [toString]))
  refine (logs_fetch _).bind fun fetched hfetched => ?_
  split
  · rename_i failure
    exact hfailed _ (.inr ⟨by simpa using hdry, _, accepted, failure, hguard,
      hfetched failure rfl, rfl⟩)
  refine (logs_prepareDownload _ _ _).bind fun prepared _ => ?_
  refine (logs_write _ _ _).bind fun saved _ => ?_
  split
  · exact logs_fail (.of_isPlain (isPlain_of_opening (by simp [toString])))
  · refine logs_note (isPlain_of_opening ?_)
    cases prepared.2 <;> simp [toString]

lemma logs_generateBytes (request : Request) :
    Logs s host K (generateBytes s request) fun _ => True := by
  unfold generateBytes
  split_ifs
  · exact logs_pure _
  · exact (logs_ask _).mono fun _ _ => trivial

lemma logs_generate (name : String) (kind : GeneratorKind) (f : FileNode) (place : Cursor)
    (env : Environment) (preExisted : Bool) :
    Logs s host K (generate s name kind f place env preExisted) fun _ => True := by
  unfold generate
  split_ifs
  · exact logs_note (isPlain_of_opening (by simp [toString]))
  refine (logs_generateBytes _).bind fun generated _ => ?_
  split
  · exact logs_fail (.of_isPlain (isPlain_of_opening (by simp [toString])))
  refine (logs_write _ _ _).bind fun saved _ => ?_
  split
  · exact logs_fail (.of_isPlain (isPlain_of_opening (by simp [toString])))
  · exact logs_note (isPlain_of_opening (by simp [toString]))

lemma logs_writeInline (name : String) (f : FileNode) (place : Cursor) (env : Environment)
    (preExisted : Bool) : Logs s host K (writeInline s name f place env preExisted)
      fun _ => True := by
  unfold writeInline writeText
  refine (logs_reportFault _ _).bind fun _ _ => ?_
  split_ifs
  · exact logs_note (isPlain_of_opening (by simp [toString]))
  refine (logs_write _ _ _).bind fun saved _ => ?_
  split
  · exact logs_fail (.of_isPlain (isPlain_of_opening (by simp [toString])))
  · exact logs_note (isPlain_of_opening (by simp [toString]))

lemma logs_writeFile {f : FileNode} {env : Environment} (hrefused : f.IsRefused env → K .address)
    (name : String) (place : Cursor) (preExisted : Bool) :
    Logs s host K (writeFile s name f place env preExisted) fun _ => True := by
  unfold writeFile
  split
  · rename_i raw hsource
    exact logs_download (fun fault hguard => hrefused ⟨raw, fault, hsource, hguard⟩) _ _ _
  · exact logs_generate _ _ _ _ _ _
  · exact logs_writeInline _ _ _ _ _

lemma logs_visitFile {f : FileNode} {env : Environment} (hrefused : f.IsRefused env → K .address)
    (name : String) (place : Cursor) :
    Logs s host K (visitFile s name f place env) fun _ => True := by
  unfold visitFile
  refine (logs_look place).bind fun found _ => ?_
  split
  · exact logs_giveUp (isPlain_of_opening (by simp [toString]))
  · exact (logs_writeFile hrefused name place false).bind fun _ _ => logs_pure _
  · split_ifs
    · exact logs_giveUp (isPlain_of_opening (by simp [toString]))
    · exact (logs_writeFile hrefused name place true).bind fun _ _ => logs_pure _
    · exact (logs_count _).bind fun _ _ => logs_tell (isPlain_of_opening (by simp [toString]))

/-! ### Folders and commands -/

lemma logs_planFolder (name : String) (place : Cursor) :
    Logs s host K (planFolder name place) fun _ => True :=
  (logs_count _).bind fun _ _ => logs_tell (isPlain_of_opening (by simp [toString]))

lemma logs_makeFolder (name : String) (place : Cursor) :
    Logs s host K (makeFolder name place) fun _ => True := by
  unfold makeFolder
  refine (logs_ask _).bind fun reply _ => ?_
  split
  · exact logs_giveUp (isPlain_of_opening (by simp [toString]))
  · refine (logs_count _).bind fun _ _ => (keeps_modify fun _ => .of_eq rfl).bind fun _ _ => ?_
    exact logs_tell (isPlain_of_opening (by simp [toString]))

lemma logs_enterFolder (name : String) (place : Cursor) :
    Logs s host K (enterFolder s name place) fun _ => True := by
  have hmissing : Logs s host K (if s.options.dryRun then planFolder name place
      else makeFolder name place) fun _ => True := by
    split_ifs
    · exact logs_planFolder _ _
    · exact logs_makeFolder _ _
  unfold enterFolder
  by_cases hplanned : place.isPlanned
  · rw [if_pos hplanned]
    exact logs_planFolder _ _
  rw [if_neg hplanned]
  refine (logs_ask _).bind fun reply _ => ?_
  split
  · exact logs_giveUp (isPlain_of_opening (by simp [toString]))
  · exact hmissing
  · split_ifs
    · exact logs_tell (isPlain_of_opening (by simp [toString]))
    · exact logs_giveUp (isPlain_of_opening (by simp [toString]))

/-- **Creating** has no complaints of its own. -/
theorem visitor_minds :
    (visitor s).Minds (mayReply host) (Utters logs (MayLog s host K)) K where
  report _ hnotice := logs_report hnotice
  enterFolder := logs_enterFolder
  leaveFolder _ _ := logs_pure _
  file name _ place _ hrefused := logs_visitFile hrefused name place
  group _ _ _ := logs_pure _
  invalidName _ _ := logs_pure _

lemma logs_reportCommand (command : String) (result : CommandResult) :
    Logs s host K (reportCommand command result) fun _ => True := by
  unfold reportCommand
  dsimp only
  split
  · refine (logs_count _).bind fun _ _ => ?_
    exact (logs_plain (isPlain_of_opening (by simp [toString]))).bind fun _ _ =>
      keeps_modify fun _ => .of_eq rfl
  · refine (logs_count _).bind fun _ _ => ?_
    exact (logs_plain (isPlain_of_opening (by simp [toString]))).bind fun _ _ =>
      keeps_modify fun _ => .of_eq rfl

lemma commands_log : CommandsKeep (mayReply host) (Utters logs (MayLog s host K)) where
  entry _ := (logs_ask _).mono fun _ _ => trivial
  command _ _ := (logs_ask _).mono fun _ _ => trivial
  report := logs_reportCommand
  would _ _ := logs_plain (isPlain_of_opening (by simp [toString]))
  skipped _ := logs_plain (isPlain_of_opening (by simp))

end

end Creation

/-- **A run that creates** complains only of what is wrong in its plan. -/
theorem create_complains {σ : Type} (host : Host (StateM σ)) {s : CreateSettings} {schema : Schema}
    {scope : Scope} {K : Complaint → Prop}
    (h : (Plan.ofRoot s.toWalkSettings schema.root scope).ComplainsOf K) (output : String)
    (st : σ) :
    ∀ entry ∈ ((create s schema output scope).on host st).1.logs,
      Creation.MayLog s host K entry := by
  have hhost : host.Within (fun _ => ()) (Creation.mayReply host) := fun c st => ⟨st, rfl⟩
  have hwalk : Creation.Logs s host K _ fun _ => True :=
    Creation.visitor_minds.perform h { path := output }
  have hcommands : Creation.Logs s host K (if s.options.runHooks then do
      let folder ← Creation.hookFolder schema.root output (scope.environment s.today)
      Creation.runHooks s schema.commands folder (scope.environment s.today) else pure ())
      fun _ => True := by
    split_ifs
    · exact Creation.commands_log.run s schema output _
    · exact Creation.logs_pure _
  have hcreate : (create s schema output scope).Ensures (Creation.mayReply host)
      (fun c _ => ∀ entry ∈ c.logs, Creation.MayLog s host K entry) () := by
    rw [create, walk_eq_perform, ensures_run]
    refine ((hwalk.bind fun _ _ => hcommands) {} ()).mono ?_
    rintro _ c _ ⟨-, hlogs, -⟩
    exact fun entry hentry => (hlogs entry hentry).resolve_left (by simp)
  exact hhost.on (s := st) hcreate

/-! ### Previewing -/

namespace Preview

section

variable {s : Settings} {K : Complaint → Prop}

/-- What may be warned of where complaints are of some kinds only. -/
def MayWarn (K : Complaint → Prop) (warning : String) : Prop :=
  ∀ k : Complaint, k.IsMadeIn warning → K k

/-- Whatever is replied, a program warns of what may be warned of. -/
abbrev Warns {α : Type} (K : Complaint → Prop) (x : PreviewM α) (Q : α → Prop) : Prop :=
  Keeps Creation.anyReply (Utters PreviewSummary.warnings (MayWarn K)) x Q

lemma warns_pure {α : Type} (a : α) : Warns K (pure a) fun _ => True := keeps_pure trivial

lemma warns_call (c : Call) : Warns K (liftM (Run.call c)) fun _ => True := fun t _ =>
  ensures_call.mpr fun _ _ _ => ⟨trivial, Std.Refl.refl t, rfl⟩

lemma warns_warn {message : String} (h : MayWarn K message) :
    Warns K (warn message) fun _ => True :=
  keeps_modify fun _ => .push rfl h

/-- A plain warning, and then a result. -/
lemma warns_tell {α : Type} {a : α} {message : String} (h : IsPlain message) :
    Warns K (do warn message; pure a) fun _ => True :=
  (warns_warn fun k hk => absurd hk (h.not_made k)).bind fun _ _ => warns_pure a

/-- A notice is warned of with its details behind its message. -/
lemma warns_report {isDry : Bool} {notice : Notice} (h : notice.ComplainsOf K) :
    Warns K (report (notice.entry isDry)) fun _ => True := by
  have hmay : ∀ wording, (∃ rest, wording = (notice.entry isDry).message ++ rest) →
      MayWarn K wording := by
    rintro _ ⟨rest, rfl⟩ k hk
    exact h k (Notice.complaint?_of_isMadeIn isDry rest hk)
  unfold report
  split
  case h_3 | h_4 => exact warns_pure _
  all_goals
    refine warns_warn (hmay _ ?_)
    cases (notice.entry isDry).details with
    | none => exact ⟨"", String.append_empty.symm⟩
    | some details => exact ⟨": " ++ details, String.append_assoc⟩

lemma warns_count (action : PreviewAction) : Warns K (count action) fun _ => True :=
  keeps_modify fun _ => .of_eq (by cases action <;> rfl)

lemma warns_look (place : Cursor) : Warns K (look place) fun _ => True := by
  unfold look
  split_ifs
  · exact warns_pure _
  · refine (warns_call _).bind fun reply _ => ?_
    split
    · exact warns_pure _
    · exact warns_tell (isPlain_of_opening (by simp [toString]))

lemma warns_enterFolder (name : String) (place : Cursor) :
    Warns K (enterFolder name place) fun _ => True := by
  unfold enterFolder
  refine (warns_look place).bind fun found _ => ?_
  split
  · exact warns_pure _
  · split_ifs
    · exact warns_pure _
    · exact warns_tell (isPlain_of_opening (by simp [toString]))

/-- An address that is refused is warned of. -/
lemma warns_describe {f : FileNode} {env : Environment} (hrefused : f.IsRefused env → K .address)
    (place : Cursor) (node : PreviewNode) :
    Warns K (describe s f place env node) fun _ => True := by
  unfold describe
  split
  · rename_i raw hsource
    dsimp only
    split
    · rename_i fault hguard
      refine (warns_warn fun k hk => ?_).bind fun _ _ => warns_pure _
      cases k with
      | address => exact hrefused ⟨raw, fault, hsource, hguard⟩
      | orphan | loopName | depth | name | count | rounds =>
          simp [Complaint.IsMadeIn, Complaint.head, toString] at hk
    · exact warns_pure _
  · exact warns_pure _
  · dsimp only
    split
    · exact warns_tell (isPlain_of_opening (by simp [toString]))
    · exact warns_pure _

lemma warns_compare (size : ℕ) (place : Cursor) (text : Option String) (node : PreviewNode) :
    Warns K (compare s size place text node) fun _ => True := by
  unfold compare
  split_ifs
  · exact warns_pure _
  · refine (warns_call _).bind fun reply _ => ?_
    split
    · exact warns_tell (isPlain_of_opening (by simp [toString]))
    · split <;> exact warns_pure _

lemma warns_visitFile {f : FileNode} {env : Environment} (hrefused : f.IsRefused env → K .address)
    (name : String) (place : Cursor) :
    Warns K (visitFile s name f place env) fun _ => True := by
  unfold visitFile
  refine (warns_look place).bind fun existing _ => ?_
  split_ifs
  · exact warns_tell (isPlain_of_opening (by simp [toString]))
  · refine Keeps.bind (Q := fun _ => True) ?_ fun _ _ => warns_pure _
    unfold judgeFile
    refine (warns_count _).bind fun _ _ => (warns_describe hrefused place _).bind fun r _ => ?_
    dsimp only
    split
    · exact warns_compare _ _ _ _
    · exact warns_pure _

/-- **Previewing** has no complaints of its own. -/
theorem visitor_minds :
    (visitor s).Minds Creation.anyReply (Utters PreviewSummary.warnings (MayWarn K)) K where
  report _ hnotice := warns_report hnotice
  enterFolder := warns_enterFolder
  leaveFolder opened _ := (warns_count opened.action).bind fun _ _ => warns_pure _
  file name _ place _ hrefused := warns_visitFile hrefused name place
  group label place children := by
    dsimp only [visitor, group]
    split_ifs <;> exact warns_pure _
  invalidName _ _ := warns_pure _

end

end Preview

/-- **A preview** complains only of what is wrong in its plan. -/
theorem preview_complains {σ : Type} (host : Host (StateM σ)) {s : Preview.Settings}
    {schema : Schema} {scope : Scope} {K : Complaint → Prop}
    (h : (Plan.ofRoot s.toWalkSettings schema.root scope).ComplainsOf K) (output : String)
    (st : σ) :
    ∀ warning ∈ ((preview s schema output scope).on host st).1.summary.warnings,
      Preview.MayWarn K warning := by
  have hhost : host.Within (fun _ => ()) Creation.anyReply := fun _ _ => trivial
  have hwalk := (Preview.visitor_minds (s := s)).perform h { path := output }
  have hpreview : (preview s schema output scope).Ensures Creation.anyReply
      (fun p _ => ∀ warning ∈ p.summary.warnings, Preview.MayWarn K warning) () := by
    rw [preview, walk_eq_perform, ensures_run]
    refine (hwalk {} ()).mono ?_
    rintro trees t _ ⟨-, hwarns, -⟩
    exact fun warning hwarning => (hwarns warning hwarning).resolve_left (by simp)
  exact hhost.on (s := st) hpreview

end Scaffold

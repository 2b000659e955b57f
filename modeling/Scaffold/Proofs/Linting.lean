import Mathlib.Tactic
import Scaffold.Check
import Scaffold.Proofs.Complaints

/-!
What a check foretells of every run.

* `Complaint.IsReported`: a check reports what is wrong, as an issue of the same kind;
* `Node.IsLiteral`: no name, address or count of a node has a percent sign, so nothing in it
  depends on variables;
* `Complaint.IsForetold`: a complaint is reported, or depends on a text that is not literal;
* `ofList_foretold`: the plan of some nodes complains only of what is foretold, whichever
  conditions hold and however often bodies are repeated. This is an induction on nodes, along
  the recursions of a check and of a plan;
* `clean_check_is_sound`: hence what a check does not report, no run complains of.
-/

namespace Scaffold

open Text Variable

/-! ### Texts without variables -/

mutual

/-- No name, address or count of a node has a percent sign. -/
def Node.IsLiteral : Node → Prop
  | .folder name children _ => '%' ∉ name.toList ∧ Node.AllLiteral children
  | .file f => '%' ∉ f.name.toList ∧ ∀ url ∈ f.url, '%' ∉ url.toList
  | .branch _ children | .otherwise children => Node.AllLiteral children
  | .loop count _ children => '%' ∉ count.toList ∧ Node.AllLiteral children

/-- No name, address or count of some nodes has a percent sign. -/
def Node.AllLiteral : List Node → Prop
  | [] => True
  | node :: rest => node.IsLiteral ∧ Node.AllLiteral rest

end

/-- A text without percent signs holds no token. -/
lemma hasTokens_of_not_mem {text : String} (h : '%' ∉ text.toList) : hasTokens text = false := by
  rw [hasTokens, pieces_of_not_mem h]
  simp

namespace Check

variable {c : Context} {raw path : String}

/-- A text without percent signs is known before variables are given. -/
lemma resolved?_of_not_mem (h : '%' ∉ raw.toList) : c.resolved? raw = some raw := by
  rw [Context.resolved?, substitute_of_not_mem h, hasTokens_of_not_mem h]
  simp

end Check

/-! ### Complaints and issues -/

namespace Complaint

/-- The kind of issue that a check reports of the complaint. -/
def issue : Complaint → IssueKind
  | orphan => .orphanedElse
  | loopName => .invalidLoopVariable
  | depth => .depthExceeded
  | name => .invalidName
  | count | rounds => .invalidRepeatCount
  | address => .invalidUrl

/-- What a check finds of the complaint: a warning where a run would go on, else an error. -/
def finding : Complaint → Issue → Finding
  | orphan, i | count, i => .warning i
  | loopName, i | depth, i | name, i | rounds, i | address, i => .error i

/-- Whether the complaint is about a text in which variables may stand. -/
def IsTextual : Complaint → Prop
  | orphan | loopName | depth => False
  | name | count | rounds | address => True

/-- The complaint is among some findings. -/
def IsReported (found : List Finding) (k : Complaint) : Prop :=
  ∃ i : Issue, i.kind = k.issue ∧ k.finding i ∈ found

/-- The complaint is among some findings, or it is about a text that may not be literal. -/
def IsForetold (found : List Finding) (literal : Prop) (k : Complaint) : Prop :=
  (k.IsTextual → literal) → k.IsReported found

end Complaint

namespace Check

section

variable {s : WalkSettings} {c : Context} {found : List Finding} {literal : Prop}
  {raw path : String} {seen : List String} {env : Environment}

/-! ### Single nodes -/

/-- A literal name that is refused is reported. -/
lemma isReported_name {fault : Violation} (hraw : '%' ∉ raw.toList)
    (hfound : ∀ f ∈ (nameFindings c raw path seen).1, f ∈ found)
    (hrefused : AcceptedName.of (substitute env raw) = .error fault) :
    Complaint.name.IsReported found := by
  have hcheck : Name.check raw = .error fault := by
    rw [substitute_of_not_mem hraw] at hrefused
    rw [AcceptedName.check_eq, hrefused]
    rfl
  refine ⟨issue .invalidName fault.message path, rfl, hfound _ ?_⟩
  simp only [nameFindings, resolved?_of_not_mem hraw, hcheck]
  exact List.mem_append_right _ List.mem_cons_self

/-- A literal address that is refused is reported. -/
lemma isReported_address {f : FileNode} (hf : ∀ url ∈ f.url, '%' ∉ url.toList)
    (hfound : ∀ finding ∈ fileFindings c f path, finding ∈ found) (hrefused : f.IsRefused env) :
    Complaint.address.IsReported found := by
  obtain ⟨raw, fault, hsource, hguard⟩ := hrefused
  have hurl : f.url = some raw := by
    unfold FileNode.source at hsource
    split at hsource
    · rename_i hurl
      rw [hurl, Source.url.inj hsource]
    · simp at hsource
    · simp at hsource
  have hraw := hf raw hurl
  rw [substitute_of_not_mem hraw] at hguard
  refine ⟨issue .invalidUrl fault.message path, rfl, hfound _ ?_⟩
  refine List.mem_append_right _ ?_
  simp only [sourceFindings, hsource, resolved?_of_not_mem hraw, Option.map_some, hguard]
  exact List.mem_cons_self

/-- What is wrong with the head of a repetition is foretold. -/
lemma readLoop_foretold {count item : String} {notice : Notice} (hlimits : c.limits = s.limits)
    (hcount : literal → '%' ∉ count.toList)
    (hfound : ∀ f ∈ loopFindings c count item path, f ∈ found)
    (hloop : Plan.readLoop s count item env = .error notice) :
    notice.ComplainsOf (Complaint.IsForetold found literal) := by
  unfold Plan.readLoop at hloop
  split at hloop
  · rename_i fault hname
    obtain rfl := Except.error.inj hloop
    rintro _ ⟨⟩ -
    refine ⟨issue .invalidLoopVariable fault.message path, rfl, hfound _ ?_⟩
    refine List.mem_append_left _ (List.mem_append_right _ ?_)
    rw [hname]
    exact List.mem_cons_self
  · -- the count is read as it is, where it is literal
    have hread : literal → (c.resolved? count).map (RepeatCount.read · c.limits.maxRepeat) =
        some (RepeatCount.read (substitute env count) s.limits.maxRepeat) := by
      intro hliteral
      rw [resolved?_of_not_mem (hcount hliteral), substitute_of_not_mem (hcount hliteral),
        Option.map_some, hlimits]
    split at hloop
    · obtain rfl := Except.error.inj hloop
      rintro _ ⟨⟩
    · simp at hloop
    · rename_i text hinvalid
      obtain rfl := Except.error.inj hloop
      rintro _ ⟨⟩ hliteral
      refine ⟨issue .invalidRepeatCount
        s!"Repeat count '{text}' is not a non-negative integer" path, rfl, hfound _ ?_⟩
      refine List.mem_append_right _ ?_
      rw [hread (hliteral trivial), hinvalid]
      exact List.mem_cons_self
    · rename_i times limit hlarge
      obtain rfl := Except.error.inj hloop
      rintro _ ⟨⟩ hliteral
      refine ⟨issue .invalidRepeatCount (Violation.repeatLimitExceeded times limit).message path,
        rfl, hfound _ ?_⟩
      refine List.mem_append_right _ ?_
      rw [hread (hliteral trivial), hlarge]
      exact List.mem_cons_self

/-! ### Lists -/

/-- The body of a node nests too deep, which is reported once, or is looked at itself. -/
lemma body_foretold {c' : Context} {children : List Node} {relative : String} {scope : Scope}
    {depth : ℕ} (hlimits : c.limits = s.limits)
    (hfound : ∀ f ∈ (if c.limits.maxDepth < depth then [depthFinding c path]
      else listFindings c' children path depth [] false), f ∈ found)
    (hbody : depth ≤ s.limits.maxDepth →
      (∀ f ∈ listFindings c' children path depth [] false, f ∈ found) →
      (Plan.ofList s children relative scope depth none).ComplainsOf
        (Complaint.IsForetold found literal)) :
    (Plan.ofList s children relative scope depth none).ComplainsOf
      (Complaint.IsForetold found literal) := by
  rw [hlimits] at hfound
  split_ifs at hfound with hdeep
  · rw [Plan.ofList_of_deep hdeep]
    refine Plan.complainsOf_concat fun p hp => ?_
    obtain ⟨node, -, rfl⟩ := List.mem_map.mp hp
    refine ⟨?_, trivial⟩
    rintro _ ⟨⟩ -
    exact ⟨issue .depthExceeded _ path, rfl, hfound _ List.mem_cons_self⟩
  · exact hbody (Nat.le_of_not_lt hdeep) hfound

mutual

/-- **The plan of a node** complains only of what is foretold. -/
theorem ofNode_foretold (node : Node) {c : Context} (hlimits : c.limits = s.limits)
    {depth : ℕ} (hdepth : depth ≤ s.limits.maxDepth) (hliteral : literal → node.IsLiteral)
    {parent : String} {seen : List String} {lastIf : Option Bool}
    (hown : ∀ f ∈ (ownFindings c node (childPath parent (label node)) seen lastIf.isSome).1,
      f ∈ found)
    (hbelow : ∀ f ∈ childFindings c node parent (depth + 1), f ∈ found) (relative : String)
    (scope : Scope) :
    (Plan.ofNode s node relative scope depth lastIf).ComplainsOf
      (Complaint.IsForetold found literal) := by
  unfold Plan.ofNode
  rw [if_neg (Nat.not_lt.mpr hdepth)]
  match node with
  | .folder raw children attributes =>
      dsimp only
      cases hname : AcceptedName.of (substitute (scope.environment s.today) raw) with
      | error fault =>
          refine ⟨?_, trivial⟩
          rintro _ ⟨⟩ htext
          exact isReported_name (hliteral (htext trivial)).1 hown hname
      | ok name =>
          refine ⟨?_, trivial⟩
          exact body_foretold hlimits hbelow fun hdeeper hbody => ofList_foretold children hlimits
            hdeeper (fun h => (hliteral h).2) hbody _ scope
  | .file f =>
      dsimp only
      have hfound : ∀ finding ∈ (nameFindings c f.name (childPath parent f.name) seen).1 ++
          fileFindings c f (childPath parent f.name), finding ∈ found := hown
      cases hname : AcceptedName.of (substitute (scope.environment s.today) f.name) with
      | error fault =>
          refine ⟨?_, trivial⟩
          rintro _ ⟨⟩ htext
          exact isReported_name (hliteral (htext trivial)).1
            (fun finding hf => hfound finding (List.mem_append_left _ hf)) hname
      | ok name =>
          refine ⟨fun hrefused htext => ?_, trivial⟩
          exact isReported_address (hliteral (htext trivial)).2
            (fun finding hf => hfound finding (List.mem_append_right _ hf)) hrefused
  | .branch condition children =>
      dsimp only
      split_ifs
      · refine ⟨?_, trivial⟩
        exact body_foretold hlimits hbelow fun hdeeper hbody => ofList_foretold children hlimits
          hdeeper hliteral hbody _ scope
      · trivial
  | .otherwise children =>
      match lastIf with
      | some false =>
          refine ⟨?_, trivial⟩
          exact body_foretold hlimits hbelow fun hdeeper hbody => ofList_foretold children hlimits
            hdeeper hliteral hbody _ scope
      | some true => trivial
      | none =>
          refine ⟨?_, trivial⟩
          rintro _ ⟨⟩ -
          exact ⟨issue .orphanedElse _ _, rfl, hown _ List.mem_cons_self⟩
  | .loop count item children =>
      dsimp only
      cases hloop : Plan.readLoop s count item (scope.environment s.today) with
      | error notice =>
          exact ⟨readLoop_foretold hlimits (fun h => (hliteral h).1) hown hloop, trivial⟩
      | ok loop =>
          refine ⟨by rintro _ ⟨⟩, Plan.complainsOf_concat fun p hp => ?_, trivial⟩
          obtain ⟨round, -, rfl⟩ := List.mem_map.mp hp
          exact body_foretold hlimits hbelow fun hdeeper hbody => ofList_foretold children
            (c := c.inLoop item) hlimits hdeeper (fun h => (hliteral h).2) hbody _ _

/-- **The plan of siblings** complains only of what is foretold. -/
theorem ofList_foretold (nodes : List Node) {c : Context} (hlimits : c.limits = s.limits)
    {depth : ℕ} (hdepth : depth ≤ s.limits.maxDepth) (hliteral : literal → Node.AllLiteral nodes)
    {parent : String} {seen : List String} {lastIf : Option Bool}
    (hfound : ∀ f ∈ listFindings c nodes parent depth seen lastIf.isSome, f ∈ found)
    (relative : String) (scope : Scope) :
    (Plan.ofList s nodes relative scope depth lastIf).ComplainsOf
      (Complaint.IsForetold found literal) := by
  match nodes with
  | [] => trivial
  | node :: rest =>
      -- the next sibling follows a condition for the check if it does so for the walk
      have hnext : (Plan.nextIf s node scope depth).isSome = isBranch node := by
        unfold Plan.nextIf
        simp only [Nat.not_lt.mpr hdepth, ↓reduceIte]
        cases node <;> rfl
      rw [listFindings, ← hnext] at hfound
      dsimp only at hfound
      rw [Plan.ofList]
      refine Plan.ComplainsOf.append ?_ ?_
      · exact ofNode_foretold node hlimits hdepth (fun h => (hliteral h).1)
          (fun f hf => hfound f (List.mem_append_left _ (List.mem_append_left _ hf)))
          (fun f hf => hfound f (List.mem_append_left _ (List.mem_append_right _ hf))) _ scope
      · exact ofList_foretold rest hlimits hdepth (fun h => (hliteral h).2)
          (fun f hf => hfound f (List.mem_append_right _ hf)) _ scope

end

end

/-! ### Reports -/

/-- What is reported of a complaint is among the errors or the warnings of a report. -/
lemma mem_report_of_isReported {found : List Finding} {k : Complaint} (h : k.IsReported found) :
    ∃ i ∈ (report found).errors ++ (report found).warnings, i.kind = k.issue ∧
      (i ∈ (report found).errors ∨ k = .orphan ∨ k = .count) := by
  obtain ⟨i, hkind, hi⟩ := h
  have herror : Finding.error i ∈ found → i ∈ (report found).errors := fun hmem =>
    List.mem_filterMap.mpr ⟨_, hmem, rfl⟩
  have hwarning : Finding.warning i ∈ found → i ∈ (report found).warnings := fun hmem =>
    List.mem_append_left _ (List.mem_filterMap.mpr ⟨_, hmem, rfl⟩)
  cases k with
  | orphan => exact ⟨i, List.mem_append_right _ (hwarning hi), hkind, .inr (.inl rfl)⟩
  | count => exact ⟨i, List.mem_append_right _ (hwarning hi), hkind, .inr (.inr rfl)⟩
  | loopName | depth | name | rounds | address =>
      exact ⟨i, List.mem_append_left _ (herror hi), hkind, .inl (herror hi)⟩

/-- The plan of a schema complains only of what a check has found in it, whatever variables
were given to the check. -/
theorem ofRoot_foretold {s : WalkSettings} (c : Context) (hlimits : c.limits = s.limits)
    (schema : Schema) (scope : Scope) :
    (Plan.ofRoot s schema.root scope).ComplainsOf
      (Complaint.IsForetold (findings c schema) schema.root.IsLiteral) := by
  have hfound : ∀ f ∈ listFindings c [schema.root] "" 0 [] (none : Option Bool).isSome,
      f ∈ findings c schema := fun _ hf => List.mem_append_left _ hf
  have hliteral : schema.root.IsLiteral → Node.AllLiteral [schema.root] := fun h => ⟨h, trivial⟩
  rw [Plan.ofRoot]
  exact ofList_foretold [schema.root] hlimits (Nat.zero_le _) hliteral hfound "" scope

end Check

/-- Some message of a run that creates, or some warning of a preview, starts in some way. -/
def IsTold (c : Creation) (p : Preview) (head : String) : Prop :=
  (∃ entry ∈ c.logs, head.toList <+: entry.message.toList) ∨
    ∃ warning ∈ p.summary.warnings, head.toList <+: warning.toList

/-- **A clean check is sound.** Let a check of a schema report no alternative without a
condition, no bad variable of a repetition, and no nesting that is too deep. Then no run within
the same limits complains of one, whatever its variables, its surroundings and its options are.
If no name, address or count of the schema depends on variables, and neither an error nor a bad
count is reported, then no run complains of a name, a count or an address either; a download
fails only because an address that is accepted cannot be fetched. -/
theorem clean_check_is_sound (limits : Limits) (today : Calendar.Date) (given : Scope)
    (schema : Schema)
    (hclean : ∀ i ∈ (check limits today given schema).errors ++
        (check limits today given schema).warnings,
      i.kind ≠ .orphanedElse ∧ i.kind ≠ .invalidLoopVariable ∧ i.kind ≠ .depthExceeded)
    {σ : Type} (host : Host (StateM σ)) {s : CreateSettings} (hs : s.limits = limits)
    {t : Preview.Settings} (ht : t.limits = limits) (output : String) (scope : Scope) (st : σ) :
    let c := ((create s schema output scope).on host st).1
    let p := ((preview t schema output scope).on host st).1
    (∀ head ∈ ["Skipped orphaned else block", "Invalid repeat variable name",
      "Maximum schema depth exceeded"], ¬ IsTold c p head) ∧
    (schema.root.IsLiteral → (check limits today given schema).errors = [] →
      (∀ i ∈ (check limits today given schema).warnings, i.kind ≠ .invalidRepeatCount) →
      (∀ head ∈ ["Invalid name", "Invalid repeat count", "Repeat count exceeds maximum",
        "Invalid URL for "], ¬ IsTold c p head) ∧
      ∀ entry ∈ c.logs, entry.IsDownloadFailure → Creation.IsFetchFailure s host entry) := by
  intro c p
  set found := Check.findings { limits, today, given } schema with hfound
  have hlogs := create_complains host (s := s)
    (Check.ofRoot_foretold { limits, today, given } hs.symm schema scope) output st
  have hwarnings := preview_complains host (s := t)
    (Check.ofRoot_foretold { limits, today, given } ht.symm schema scope) output st
  have hsilent : ∀ k : Complaint, ¬ k.IsForetold found schema.root.IsLiteral →
      ¬ IsTold c p k.head := by
    rintro k hk (⟨entry, hentry, hmade⟩ | ⟨warning, hwarning, hmade⟩)
    · exact hk ((hlogs entry hentry).complaints k hmade)
    · exact hk (hwarnings warning hwarning k hmade)
  have hunreported : ∀ k : Complaint, k.IsReported found → k.issue ≠ .orphanedElse ∧
      k.issue ≠ .invalidLoopVariable ∧ k.issue ≠ .depthExceeded := by
    intro k hk
    obtain ⟨i, hi, hkind, -⟩ := Check.mem_report_of_isReported hk
    exact hkind ▸ hclean i hi
  refine ⟨?_, fun hliteral herrors hcounts => ?_⟩
  · simp only [List.forall_mem_cons, List.not_mem_nil, IsEmpty.forall_iff, implies_true, and_true]
    refine ⟨hsilent .orphan fun h => ?_, hsilent .loopName fun h => ?_, hsilent .depth fun h => ?_⟩
    · exact (hunreported _ (h False.elim)).1 rfl
    · exact (hunreported _ (h False.elim)).2.1 rfl
    · exact (hunreported _ (h False.elim)).2.2 rfl
  · have hnone : ∀ k : Complaint, k ≠ .orphan → ¬ k.IsForetold found schema.root.IsLiteral := by
      intro k hk h
      obtain ⟨i, hi, hkind, hwhere⟩ := Check.mem_report_of_isReported (h fun _ => hliteral)
      have herrors' : (Check.report found).errors = [] := herrors
      rw [herrors', List.nil_append] at hi
      rcases hwhere with herror | rfl | rfl
      · simp [herrors'] at herror
      · exact hk rfl
      · exact hcounts i hi hkind
    refine ⟨?_, fun entry hentry hfailed => ?_⟩
    · simp only [List.forall_mem_cons, List.not_mem_nil, IsEmpty.forall_iff, implies_true,
        and_true]
      exact ⟨hsilent .name (hnone _ (by simp)), hsilent .count (hnone _ (by simp)),
        hsilent .rounds (hnone _ (by simp)), hsilent .address (hnone _ (by simp))⟩
    · exact ((hlogs entry hentry).downloads hfailed).resolve_left (hnone _ (by simp))

/-- A condition with its alternative, a repetition and a download: a check finds nothing wrong
but a variable that is not set, and no run complains. -/
theorem clean_check_is_sound_of_groups :
    let s : CreateSettings :=
      { limits := {}, today := ⟨2024, 1, 1, by decide⟩, equipment := {}, options := {} }
    let schema : Schema :=
      { root := .folder "a" [
          .branch "X" [.file { name := "b", url := some "https://[2606::1]/b" }],
          .otherwise [.file { name := "c", content := some "%NAME%" }],
          .loop "2" "i" [.file { name := "d" }]] ∅ }
    let report := check s.limits s.today default schema
    (∀ i ∈ report.errors ++ report.warnings,
      i.kind ≠ .orphanedElse ∧ i.kind ≠ .invalidLoopVariable ∧ i.kind ≠ .depthExceeded) ∧
    schema.root.IsLiteral ∧ report.errors = [] ∧
    (∀ i ∈ report.warnings, i.kind ≠ .invalidRepeatCount) ∧
    ∃ c p, ((create s schema "out" default).on (Memory.host {}) .empty).1 = c ∧
      ((preview ⟨s.toWalkSettings, false⟩ schema "out" default).on (Memory.host {}) .empty).1 = p ∧
      (∀ head ∈ ["Skipped orphaned else block", "Invalid repeat variable name",
        "Maximum schema depth exceeded"], ¬ IsTold c p head) ∧
      (∀ head ∈ ["Invalid name", "Invalid repeat count", "Repeat count exceeds maximum",
        "Invalid URL for "], ¬ IsTold c p head) := by
  intro s schema report
  have hclean : ∀ i ∈ report.errors ++ report.warnings,
      i.kind ≠ .orphanedElse ∧ i.kind ≠ .invalidLoopVariable ∧ i.kind ≠ .depthExceeded := by
    decide +kernel
  have hliteral : schema.root.IsLiteral := by
    simp [schema, Node.IsLiteral, Node.AllLiteral]
  have herrors : report.errors = [] := by decide +kernel
  have hcounts : ∀ i ∈ report.warnings, i.kind ≠ .invalidRepeatCount := by decide +kernel
  obtain ⟨hstructure, htexts⟩ := clean_check_is_sound s.limits s.today default schema hclean
    (Memory.host {}) (s := s) rfl (t := ⟨s.toWalkSettings, false⟩) rfl "out" default .empty
  exact ⟨hclean, hliteral, herrors, hcounts, _, _, rfl, rfl, hstructure,
    (htexts hliteral herrors hcounts).1⟩

end Scaffold

import Mathlib.Tactic
import Scaffold.CommandLine
import Scaffold.Host.Disk
import Scaffold.Proofs.Sources

/-!
Which value a variable has in a run that a line asks for.

A line gives values in pairs and in a file, and a run has built-in variables. The names may be
spelled in any way.

* `lastSpelled`: the value of the last pair whose key spells a name. Binding pairs one after the
  other binds these values (`Scope.get?_bindAll`), and so does a layer of a scope
  (`Bindings.IsLayer.lastSpelled_entries`);
* `lastSpelled_mergeValues`: the values of a line are those of its pairs, and those of its file
  where no pair spells the name, although both are merged by key and bound by key again;
* `ascending_of_readVariables`: a file of variables is listed with ascending names, in whatever
  order they stand in it;
* `variables_by_precedence`: so these values come first, then those of the file, and then the
  built-in ones.
-/

namespace Scaffold

open Calendar Text

namespace Variable

/-! ### The last value that is bound -/

/-- The value of the last pair whose key spells a name. -/
def lastSpelled (name : String) (pairs : List (String × String)) : Option String :=
  (pairs.reverse.find? fun e => canonicalKey e.1 = canonicalKey name).map Prod.snd

section LastSpelled

variable {name : String} {pairs front back : List (String × String)} {layer : Bindings}

lemma lastSpelled_append :
    lastSpelled name (front ++ back) = (lastSpelled name back).or (lastSpelled name front) := by
  simp only [lastSpelled, List.reverse_append, List.find?_append, Option.map_or]

/-- What is bound last counts. -/
lemma Scope.get?_bindAll (s : Scope) (pairs : List (String × String)) (name : String) :
    (s.bindAll pairs).get? name = (lastSpelled name pairs).or (s.get? name) := by
  induction pairs using List.reverseRecOn with
  | nil => rfl
  | append_singleton pairs e ih =>
      have hbind : s.bindAll (pairs ++ [e]) = (s.bindAll pairs).bind e.1 e.2 := by
        rw [bindAll, List.foldl_append]
        rfl
      rw [hbind, lastSpelled_append]
      by_cases hsame : canonicalKey e.1 = canonicalKey name
      · have hself : ((s.bindAll pairs).bind e.1 e.2).get? name = some e.2 := by
          rw [Scope.get?, ← hsame]
          exact Scope.get?_bind_self _ e.1 e.2
        simp [hself, lastSpelled, hsame]
      · have hname : bareName name ≠ bareName e.1 := fun h => hsame (canonicalKey_inj.mpr h.symm)
        simp [Scope.get?_bind_of_ne _ _ hname, ih, lastSpelled, hsame]

/-- The built-in variables have the values that are not given. -/
lemma Scope.get?_withBuiltins (today : Date) (project : Option String)
    (pairs : List (String × String)) (name : String) :
    (Scope.withBuiltins today project pairs).get? name =
      (lastSpelled name pairs).or (lastSpelled name (builtins today project)) := by
  have hempty : Scope.empty.get? name = none := rfl
  rw [Scope.withBuiltins, Scope.ofPairs, Scope.get?_bindAll, Scope.get?_bindAll, hempty,
    Option.or_none]

/-- In a layer of a scope, only one key spells a name, and it is the canonical one. -/
lemma Bindings.IsLayer.lastSpelled_entries (h : layer.IsLayer) (name : String) :
    lastSpelled name layer.entries = layer.get? (canonicalKey name) := by
  have hsame : ∀ e ∈ layer.entries.reverse, (canonicalKey e.1 = canonicalKey name ↔
      e.1 = canonicalKey name) := fun e he => by
    rw [h.canonical e.1 (List.mem_map_of_mem (List.mem_reverse.mp he))]
  conv_rhs => rw [← h.ascending.ofList_entries]
  rw [Dictionary.get?_ofList, lastSpelled]
  exact congrArg (Option.map Prod.snd) (List.find?_congr fun e he => by simp [hsame e he])

end LastSpelled

end Variable

namespace CommandLine

open Variable

/-! ### The values of a line -/

section Merging

variable {file : Bindings} {pairs : List (String × String)}

lemma isLayer_ofList_canonical (pairs : List (String × String)) :
    Bindings.IsLayer (Dictionary.ofList (pairs.map fun e => (canonicalKey e.1, e.2))) := by
  induction pairs using List.reverseRecOn with
  | nil => exact .empty
  | append_singleton pairs e ih =>
      rw [List.map_append, List.map_singleton, Dictionary.ofList_concat]
      exact ih.insert e.1 e.2

lemma isLayer_mergeValues : (mergeValues file pairs).IsLayer :=
  isLayer_ofList_canonical (file.entries ++ pairs)

/-- **Pairs override the file**, in whatever spelling. -/
lemma lastSpelled_mergeValues (name : String) :
    lastSpelled name (mergeValues file pairs).entries =
      (lastSpelled name pairs).or (lastSpelled name file.entries) := by
  rw [isLayer_mergeValues.lastSpelled_entries, mergeValues, Dictionary.get?_ofList,
    ← lastSpelled_append, lastSpelled, ← List.map_reverse, List.find?_map, Option.map_map]
  simp only [Function.comp_def]

end Merging

/-- A table is listed with ascending names, whatever is read in it. -/
lemma ascending_of_readToml {α : Type} {decode : Json.Value → Option α} {text : String}
    {table : Dictionary String α} (h : Document.readToml (Document.tableOf decode) text = .ok table) :
    table.Ascending := by
  rw [Document.readToml] at h
  generalize Toml.read? text = value at h
  split at h
  · next found hfound =>
      obtain rfl := Except.ok.inj h
      obtain ⟨v, -, htable⟩ := Option.bind_eq_some_iff.mp hfound
      obtain ⟨members, -, hmembers⟩ := Option.bind_eq_some_iff.mp htable
      obtain ⟨pairs, -, rfl⟩ := Option.map_eq_some_iff.mp hmembers
      exact .ofList pairs
  · simp at h

/-- A file of variables is listed with ascending names. -/
lemma ascending_of_readVariables {format : Document.Format} {text : String} {file : Bindings}
    (h : readVariables format text = .ok file) : file.Ascending := by
  cases format with
  | toml => exact ascending_of_readToml h
  | json =>
      rw [readVariables] at h
      generalize Document.readJson (Json.Reader.table Json.Reader.scalarText) text = read at h
      cases read with
      | error fault => simp [Except.map] at h
      | ok pairs =>
          obtain rfl : Dictionary.ofList pairs = file := by simpa [Except.map] using h
          exact .ofList pairs

/-! ### Runs of a line -/

variable {m : Type → Type} [Monad m]

/-- A run in an output folder, which has to be given. -/
def inFolder {α : Type} (output : String) (run : Run α) : Run (Except Failure α) :=
  if output = "" then return .error .noOutputRoot else .ok <$> run

/-- The scope that a run of a line starts from. -/
def rootScope (s : Surroundings m) (settings : Settings) (target : TargetInputs)
    (schema : Schema) (file : Bindings) : Scope :=
  Project.scope s.today schema (mergeValues file target.inputs.pairs) (givenName settings target)

/-- The name of the project: the one that is given, or else that of the root folder. -/
def projectName? (s : Surroundings m) (settings : Settings) (target : TargetInputs)
    (schema : Schema) (file : Bindings) : Option String :=
  (givenName settings target).or
    (Project.derivedName? s.today schema (mergeValues file target.inputs.pairs))

/-- **Variables by precedence.** A line that creates or previews a schema reads the schema and
its file of variables, if one is given, and starts a run from `rootScope`. There, a variable
named in any spelling has the value of the last pair of the line that spells its name. Where
there is none, it has the value of the last entry of the file that does, in the order of the
names as they are spelled there; and else the value that is built in. -/
theorem variables_by_precedence [LawfulMonad m] (s : Surroundings m) (settings : Settings)
    (isJson : Bool) (target : TargetInputs) :
    (∀ dryRun noHooks record strict,
      create s settings isJson target dryRun noHooks record strict = (do
        let schema ← document s .schema target.schema readSchema
        let file ← fileValues s target.inputs
        let creation ← carryOut s <| inFolder target.output <|
          Scaffold.create ⟨⟨settings.limits, s.today⟩, ⟨true, true, true⟩,
              ⟨dryRun, target.overwrite || settings.defaults.overwrite,
                !noHooks && settings.defaults.runHooks⟩⟩
            schema target.output (rootScope s settings target schema file)
        tellCreation s isJson dryRun record strict creation)) ∧
    preview s settings isJson target = (do
      let schema ← document s .schema target.schema readSchema
      let file ← fileValues s target.inputs
      let result ← carryOut s <| inFolder target.output <|
        Scaffold.preview ⟨⟨settings.limits, s.today⟩,
            target.overwrite || settings.defaults.overwrite⟩
          schema target.output (rootScope s settings target schema file)
      say (if isJson then [Display.json result.toValue] else Display.preview result)) ∧
    ∀ file : Bindings, file = ∅ ∨ (∃ format text, readVariables format text = .ok file) →
      file.Ascending ∧ ∀ schema name,
        (rootScope s settings target schema file).get? name =
          (lastSpelled name target.inputs.pairs).or
            ((lastSpelled name file.entries).or
              (lastSpelled name
                (builtins s.today (projectName? s settings target schema file)))) := by
  refine ⟨fun dryRun noHooks record strict => ?_, ?_, fun file hfile => ⟨?_, fun schema name => ?_⟩⟩
  · simp only [create, variableValues, bind_assoc, pure_bind]
    rfl
  · simp only [preview, variableValues, bind_assoc, pure_bind]
    rfl
  · obtain rfl | ⟨format, text, hread⟩ := hfile
    · exact Dictionary.ascending_empty
    · exact ascending_of_readVariables hread
  · rw [rootScope, Project.scope, Scope.get?_withBuiltins, lastSpelled_mergeValues, Option.or_assoc]
    rfl

/-- Surroundings in which there is nothing, on a day. -/
def nowhere (today : Calendar.Date) : Surroundings (StateM Disk) where
  host := Disk.host {}
  load _ := pure none
  save _ _ := pure (.error "no space")
  confirm _ := pure (.error "no terminal")
  environment := []
  folder := "/"
  today

/-- The pairs win over the file, in which the name that stands last in order wins over the one
that is written last, and the file wins over the day. The project has the name of its folder. -/
theorem variables_by_precedence_two_spellings :
    let today : Calendar.Date := ⟨2024, 1, 1, by decide⟩
    let pairs := [("NAME", "first"), (" %Name% ", "second")]
    let target : TargetInputs := ⟨"s.json", "out", { pairs }, none, false⟩
    let schema : Schema := { root := .folder "app-%YEAR%" [] ∅ }
    let file : Bindings := Dictionary.ofList [("kind", "b"), ("Kind", "a"), ("year", "1999")]
    readVariables .json "\x7b\"kind\": \"b\", \"Kind\": \"a\", \"year\": 1999\x7d" = .ok file ∧
      ∀ scope, scope = rootScope (nowhere today) {} target schema file →
        scope.get? "name" = some "second" ∧ scope.get? "KIND" = some "b" ∧
          scope.get? "%Year%" = some "1999" ∧ scope.get? "month" = some "01" ∧
          scope.get? "project_name" = some "app-1999" ∧ scope.get? "owner" = none := by
  intro today pairs target schema file
  have hread : readVariables .json
      "\x7b\"kind\": \"b\", \"Kind\": \"a\", \"year\": 1999\x7d" = .ok file := by decide +kernel
  have h := (variables_by_precedence (nowhere today) {} false target).2.2 file (.inr ⟨.json, _, hread⟩)
  refine ⟨hread, ?_⟩
  rintro scope rfl
  refine ⟨?_, ?_, ?_, ?_, ?_, ?_⟩ <;> exact (h.2 schema _).trans (by decide +kernel)

end CommandLine

end Scaffold

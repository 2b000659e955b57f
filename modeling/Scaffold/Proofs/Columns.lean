import Mathlib.Tactic
import Scaffold.Database
import Scaffold.Proofs.Attributes

/-!
Columns of tables, from their elements to their definitions.

* `literalText?_quotedText`: a quoted text is a literal of it, whatever quotes it has;
* `ColumnElement`: a `column` element whose attributes are fields with a value in double quotes,
  and flags. It has the flags that are among its attributes (`HasFlag`), and it shows those that
  stand between blanks of a value (`Shows`);
* `ColumnElement.hasFlag_iff`: both are read as flags, since they are looked for in the text of
  the attributes as well. `ColumnElement.definition_ofTag?`: otherwise a column is defined by its
  attributes;
* `TableElement`: a `table` element with columns. `TableElement.statements_tables`: it is read
  with all of them, and nothing else is (`TableElement.script_tables`);
* `columns_take_flags_from_values`: so a column is defined as its attributes say, except where a
  value shows a flag that is not among them;
* `default_sets_unique`: a default that does.
-/

namespace Scaffold.Database

open Text Markup

/-! ### Literals -/

/-- The text of a literal behind its first quote. Inside, a quote stands for one if it is doubled;
a single one ends the literal. -/
def literalBody? : List Char → Option (List Char)
  | [] => none
  | ['\''] => some []
  | '\'' :: '\'' :: rest => (literalBody? rest).map ('\'' :: ·)
  | '\'' :: _ => none
  | c :: rest => (literalBody? rest).map (c :: ·)

/-- The text that a literal in single quotes stands for. -/
def literalText? : List Char → Option (List Char)
  | '\'' :: rest => literalBody? rest
  | _ => none

lemma literalBody?_cons {c : Char} (h : c ≠ '\'') (rest : List Char) :
    literalBody? (c :: rest) = (literalBody? rest).map (c :: ·) := by
  cases rest <;> simp [literalBody?, h]

/-- A quoted text is a literal of the text. -/
lemma literalText?_quotedText (text : List Char) : literalText? (quotedText text) = some text := by
  have hbody : literalBody? (replaceChar '\'' ['\'', '\''] text ++ ['\'']) = some text := by
    induction text with
    | nil => rfl
    | cons c text ih =>
        have hstep : replaceChar '\'' ['\'', '\''] (c :: text) ++ ['\''] =
            (if c == '\'' then ['\'', '\''] else [c]) ++
              (replaceChar '\'' ['\'', '\''] text ++ ['\'']) := by
          simp [replaceChar]
        rw [hstep]
        by_cases hc : c = '\''
        · subst hc
          rw [if_pos (beq_self_eq_true _), List.cons_append, List.singleton_append, literalBody?,
            ih]
          rfl
        · rw [if_neg (by simpa using hc), List.singleton_append, literalBody?_cons hc, ih]
          rfl
  exact hbody

/-- A name without quotes is put between two. -/
lemma quotedName_of_not_mem {name : List Char} (h : '"' ∉ name) :
    quotedName name = '"' :: (name ++ ['"']) := by
  have hsame : replaceChar '"' ['"', '"'] name = name := by
    induction name with
    | nil => rfl
    | cons c name ih =>
        obtain ⟨hc, hname⟩ := List.ne_and_not_mem_of_not_mem_cons h
        have hfirst : (c == '"') = false := beq_false_of_ne (Ne.symm hc)
        rw [replaceChar, List.flatMap_cons, ← replaceChar, ih hname, hfirst]
        rfl
  rw [quotedName, hsame, List.cons_append]

/-! ### Fields and flags -/

/-- What a column may have a value for. -/
inductive Field
  | name
  | type
  | initial

/-- The key of a field. -/
def Field.key : Field → String
  | .name => "name"
  | .type => "type"
  | .initial => "default"

/-- What a column may be. -/
inductive Flag
  | isKey
  | isUnique
  | isRequired
  deriving DecidableEq

namespace Flag

/-- The key of a flag. -/
def key : Flag → String
  | .isKey => "primary-key"
  | .isUnique => "unique"
  | .isRequired => "not-null"

/-- What a flag adds to a definition. -/
def clause : Flag → String
  | .isKey => " PRIMARY KEY"
  | .isUnique => " UNIQUE"
  | .isRequired => " NOT NULL"

/-- The flags, in the order of their clauses. -/
def all : List Flag :=
  [.isKey, .isUnique, .isRequired]

lemma mem_all (f : Flag) : f ∈ all := by
  cases f <;> decide

/-- The clauses of some flags. -/
def clauses (flags : List Flag) : List Char :=
  flags.flatMap fun f => f.clause.toList

/-- Clauses tell which flags they are of. -/
lemma clauses_injective : ∀ flags ∈ all.sublists, ∀ flags' ∈ all.sublists,
    clauses flags = clauses flags' → flags = flags' := by
  decide

lemma clauses_filter_eq_iff {p q : Flag → Bool} :
    clauses (all.filter p) = clauses (all.filter q) ↔ ∀ f, p f = q f := by
  constructor
  · intro h f
    have hsame : all.filter p = all.filter q :=
      clauses_injective _ (List.mem_sublists.mpr List.filter_sublist) _
        (List.mem_sublists.mpr List.filter_sublist) h
    have hmem : f ∈ all.filter p ↔ f ∈ all.filter q := by rw [hsame]
    exact Bool.eq_iff_iff.mpr (by simpa [mem_all] using hmem)
  · intro h
    rw [funext h]

/-- The clauses of the flags with a property, one after the other. -/
lemma clauses_filter (p : Flag → Bool) :
    clauses (all.filter p) = (if p .isKey then " PRIMARY KEY".toList else []) ++
      (if p .isUnique then " UNIQUE".toList else []) ++
      (if p .isRequired then " NOT NULL".toList else []) := by
  cases hkey : p .isKey <;> cases hunique : p .isUnique <;> cases hrequired : p .isRequired <;>
    simp [all, clauses, clause, hkey, hunique, hrequired]

lemma field_key_ne (field : Field) (f : Flag) : field.key.toList ≠ f.key.toList := by
  cases field <;> cases f <;> decide

lemma key_ne_nil (f : Flag) : f.key.toList ≠ [] := by
  cases f <;> decide

/-- The characters of a key are no blanks, and none that have a meaning in markup. -/
lemma of_mem_key (f : Flag) :
    ∀ c ∈ f.key.toList, isBlank c = false ∧ c ≠ '/' ∧ c ≠ '"' ∧ c ≠ '=' := by
  have hall : f.key.toList.all fun c => !isBlank c && c != '/' && c != '"' && c != '=' := by
    cases f <;> decide
  simpa [and_assoc] using hall

end Flag

/-- An attribute of a column: a field with a value, or a flag that stands alone or is `true`. -/
inductive IsColumnAttribute (a : Attribute) : Prop
  | field (f : Field) (key : a.key = f.key.toList) (value : a.value?.isSome)
  | alone (f : Flag) (key : a.key = f.key.toList) (value : a.value? = none)
  | isTrue (f : Flag) (key : a.key = f.key.toList) (value : a.value? = some "true".toList)

/-- A field with a value, behind a blank. -/
def Field.given (f : Field) (value : String) : Attribute :=
  { gap := [' '], key := f.key.toList, value? := some value.toList }

/-- A flag that stands alone behind a blank. -/
def Flag.alone (f : Flag) : Attribute :=
  { gap := [' '], key := f.key.toList, value? := none }

lemma Field.isKey_key (f : Field) : IsKey f.key.toList := by
  cases f <;> exact .of_all (by decide) (by decide) (by decide)

lemma Flag.isKey_key (f : Flag) : IsKey f.key.toList := by
  cases f <;> exact .of_all (by decide) (by decide) (by decide)

lemma isGap_blank : IsGap [' '] :=
  List.forall_mem_singleton.mpr (by decide)

lemma isGap_nil : IsGap [] := by
  rintro c ⟨⟩

lemma Field.isWritten_given (f : Field) (value : String) (h : '"' ∉ value.toList) :
    (f.given value).IsWritten ∧ IsColumnAttribute (f.given value) := by
  refine ⟨⟨isGap_blank, by simp [given], f.isKey_key, isGap_nil, isGap_nil, ?_⟩, .field f rfl rfl⟩
  rintro text ⟨⟩
  exact h

lemma Flag.isWritten_alone (f : Flag) : f.alone.IsWritten ∧ IsColumnAttribute f.alone :=
  ⟨⟨isGap_blank, by simp [alone], f.isKey_key, isGap_nil, isGap_nil, nofun⟩, .alone f rfl rfl⟩

/-! ### Columns -/

/-- How a `column` element ends. -/
inductive Ending
  | closed
  | opened
  | paired

namespace Ending

/-- The end of the opening tag. -/
def mark : Ending → List Char
  | .closed => ['/', '>']
  | .opened => ['>']
  | .paired => ['>']

/-- What follows the opening tag. -/
def back : Ending → List Char
  | .closed => []
  | .opened => []
  | .paired => "</column>".toList

end Ending

/-- A `column` element, with the text in front of it. -/
structure ColumnElement where
  front : List Char
  attributes : List Attribute
  gap : List Char
  ending : Ending

namespace ColumnElement

/-- The text of the attributes. -/
def inside (c : ColumnElement) : List Char :=
  Attribute.row c.attributes c.gap

/-- The opening tag behind its first bracket. -/
def tag (c : ColumnElement) : List Char :=
  "column".toList ++ (c.inside ++ c.ending.mark)

/-- The element as it is written. -/
def text (c : ColumnElement) : List Char :=
  c.front ++ ('<' :: c.tag ++ c.ending.back)

/-- The value of a field. -/
def value? (c : ColumnElement) (field : Field) : Option (List Char) :=
  (c.attributes.filterMap Attribute.pair?).lookup field.key.toList

/-- A flag is among the attributes. -/
def HasFlag (c : ColumnElement) (f : Flag) : Prop :=
  ∃ a ∈ c.attributes, a.key = f.key.toList

instance (c : ColumnElement) (f : Flag) : Decidable (c.HasFlag f) :=
  inferInstanceAs (Decidable (∃ a ∈ c.attributes, a.key = f.key.toList))

/-- A flag stands between two blanks of a value, with slashes behind it or without. -/
def Shows (c : ColumnElement) (f : Flag) : Prop :=
  ∃ a ∈ c.attributes, ∃ value, a.value? = some value ∧
    ∃ slashes, (∀ s ∈ slashes, s = '/') ∧ Attribute.IsShown (f.key.toList ++ slashes) value

/-- The element has a name, and its attributes are those of a column. The text in front of it and
the values have no brackets. -/
structure IsWritten (c : ColumnElement) : Prop where
  front : '<' ∉ c.front
  attributes : ∀ a ∈ c.attributes, a.IsWritten ∧ IsColumnAttribute a
  values : ∀ a ∈ c.attributes, ∀ value ∈ a.value?, '<' ∉ value ∧ '>' ∉ value
  gap : IsGap c.gap
  name : (c.value? .name).isSome

/-- The flags among the attributes. -/
def flagsGiven (c : ColumnElement) : List Flag :=
  Flag.all.filter fun f => c.HasFlag f

/-- The flags that are read. -/
def flagsRead (c : ColumnElement) : List Flag :=
  Flag.all.filter fun f => hasFlag c.inside (Markup.attributes c.inside) f.key

/-- The definition of a column that has some flags: its name in quotes, its type, the clauses of
the flags, and its default as a literal. -/
def definition (c : ColumnElement) (flags : List Flag) : List Char :=
  '"' :: ((c.value? .name).getD [] ++ ['"']) ++ ' ' :: (c.value? .type).getD "TEXT".toList ++
    Flag.clauses flags ++
    (c.value? .initial).elim [] fun text => " DEFAULT ".toList ++ quotedText text

section Reading

variable {c : ColumnElement} {field : Field} {f : Flag} {key value rest : List Char}

lemma IsWritten.row (h : c.IsWritten) : ∀ a ∈ c.attributes, a.IsWritten :=
  fun a ha => (h.attributes a ha).1

/-- The attributes with a value are read. -/
lemma attributes_inside (h : c.IsWritten) :
    Markup.attributes c.inside = c.attributes.filterMap Attribute.pair? :=
  Attribute.attributes_row h.row h.gap

lemma valueOf?_inside (h : c.IsWritten) (field : Field) :
    valueOf? field.key (Markup.attributes c.inside) = c.value? field := by
  rw [attributes_inside h, valueOf?, value?]

/-- The values that are found are those of attributes. -/
lemma exists_of_lookup
    (h : (c.attributes.filterMap Attribute.pair?).lookup key = some value) :
    ∃ a ∈ c.attributes, a.key = key ∧ a.value? = some value := by
  obtain ⟨front, back, hpairs, -⟩ := List.lookup_eq_some_iff.mp h
  have hmem : (key, value) ∈ c.attributes.filterMap Attribute.pair? := by simp [hpairs]
  obtain ⟨a, ha, hpair⟩ := List.mem_filterMap.mp hmem
  obtain ⟨value', hvalue, heq⟩ := Option.map_eq_some_iff.mp hpair
  obtain ⟨hkey, rfl⟩ := Prod.mk.inj heq
  exact ⟨a, ha, hkey, hvalue⟩

lemma value?_none_of_lookup {a : Attribute} (ha : a ∈ c.attributes)
    (h : (c.attributes.filterMap Attribute.pair?).lookup a.key = none) : a.value? = none := by
  cases hvalue : a.value? with
  | none => rfl
  | some value =>
      have hmem : (a.key, value) ∈ c.attributes.filterMap Attribute.pair? :=
        List.mem_filterMap.mpr ⟨a, ha, by rw [Attribute.pair?, hvalue]; rfl⟩
      simpa using List.lookup_eq_none_iff.mp h _ hmem

/-- A word counts as a flag if it is the flag's key with slashes behind it. -/
lemma dropEndWhile_eq_key_iff {word : List Char} :
    dropEndWhile (· == '/') word = f.key.toList ↔
      ∃ slashes, (∀ s ∈ slashes, s = '/') ∧ word = f.key.toList ++ slashes := by
  have hlast : ∀ c ∈ f.key.toList.getLast?, (c == '/') = false := fun c hc =>
    beq_false_of_ne (f.of_mem_key c (List.mem_of_getLast? hc)).2.1
  simp only [dropEndWhile_eq_iff, beq_iff_eq, iff_true_intro hlast, and_true]

/-- An attribute with such a word is the flag, or its value shows the word. -/
lemma key_or_isShown_of_mem_words {a : Attribute} (ha : a.IsWritten) {slashes : List Char}
    (hslashes : ∀ s ∈ slashes, s = '/')
    (hword : f.key.toList ++ slashes ∈ wordsBy isBlank a.text) :
    a.key = f.key.toList ∨
      ∃ value, a.value? = some value ∧ Attribute.IsShown (f.key.toList ++ slashes) value := by
  -- No slash is part of a key, so a word that is the key of an attribute has none behind it.
  have hkey : f.key.toList ++ slashes = a.key → a.key = f.key.toList := by
    intro heq
    cases slashes with
    | nil => rw [← heq, List.append_nil]
    | cons s slashes =>
        have hslash : '/' ∈ a.key := by
          rw [← heq, hslashes s List.mem_cons_self]
          simp
        exact absurd (ha.key.rest '/' hslash).1 (by decide)
  have hother : ∀ d, d ≠ '/' → d ∉ f.key.toList → d ∉ f.key.toList ++ slashes := by
    intro d hslash hnot hmem
    rcases List.mem_append.mp hmem with hmem | hmem
    · exact hnot hmem
    · exact hslash (hslashes d hmem)
  cases hvalue : a.value? with
  | none =>
      rw [Attribute.text_of_none hvalue, ha.key.words, List.mem_singleton] at hword
      exact .inl (hkey hword)
  | some value =>
      have hquote := hother '"' (by decide) fun hmem => (f.of_mem_key _ hmem).2.2.1 rfl
      have hequals := hother '=' (by decide) fun hmem => (f.of_mem_key _ hmem).2.2.2 rfl
      rcases Attribute.eq_key_or_isShown ha hvalue hword hquote hequals with heq | hshown
      · exact .inl (hkey heq)
      · exact .inr ⟨value, rfl, hshown⟩

/-- A word of the attributes counts as a flag if the element has the flag or shows it. -/
lemma exists_word_iff (h : c.IsWritten)
    (hnone : (c.attributes.filterMap Attribute.pair?).lookup f.key.toList = none) :
    (∃ word ∈ wordsBy isBlank c.inside, dropEndWhile (· == '/') word = f.key.toList) ↔
      c.HasFlag f ∨ c.Shows f := by
  rw [inside, Attribute.words_row h.row h.gap]
  constructor
  · rintro ⟨word, hword, hkey⟩
    obtain ⟨slashes, hslashes, rfl⟩ := dropEndWhile_eq_key_iff.mp hkey
    obtain ⟨a, ha, hword⟩ := List.mem_flatMap.mp hword
    rcases key_or_isShown_of_mem_words (h.row a ha) hslashes hword with
      hflag | ⟨value, hvalue, hshown⟩
    · exact .inl ⟨a, ha, hflag⟩
    · exact .inr ⟨a, ha, value, hvalue, slashes, hslashes, hshown⟩
  · rintro (⟨a, ha, hkey⟩ | ⟨a, ha, value, hvalue, slashes, hslashes, hshown⟩)
    · have hvalue : a.value? = none := value?_none_of_lookup ha (by rwa [hkey])
      refine ⟨a.key, List.mem_flatMap.mpr ⟨a, ha, ?_⟩,
        dropEndWhile_eq_key_iff.mpr ⟨[], by simp, by simpa using hkey⟩⟩
      rw [Attribute.text_of_none hvalue, (h.row a ha).key.words]
      exact List.mem_cons_self
    · have hblank : ∀ d ∈ f.key.toList ++ slashes, ¬ isBlank d := by
        intro d hd
        rcases List.mem_append.mp hd with hd | hd
        · simp [(f.of_mem_key d hd).1]
        · rw [hslashes d hd]
          decide
      have hne : f.key.toList ++ slashes ≠ [] := by simp [f.key_ne_nil]
      exact ⟨_, List.mem_flatMap.mpr ⟨a, ha, hshown.mem_words hvalue hne hblank⟩,
        dropEndWhile_eq_key_iff.mpr ⟨slashes, hslashes, rfl⟩⟩

/-- **A flag is read** if it is among the attributes or shown by a value. -/
lemma hasFlag_iff (h : c.IsWritten) (f : Flag) :
    hasFlag c.inside (Markup.attributes c.inside) f.key ↔ c.HasFlag f ∨ c.Shows f := by
  rw [hasFlag, attributes_inside h, valueOf?]
  cases hlookup : (c.attributes.filterMap Attribute.pair?).lookup f.key.toList with
  | some value =>
      obtain ⟨a, ha, hkey, hvalue⟩ := exists_of_lookup hlookup
      have htrue : value = "true".toList := by
        cases (h.attributes a ha).2 with
        | field field hfield => exact absurd (hfield.symm.trans hkey) (f.field_key_ne field)
        | alone f' _ hnone => exact nomatch hvalue.symm.trans hnone
        | isTrue f' _ hset => exact Option.some.inj (hvalue.symm.trans hset)
      subst htrue
      exact iff_of_true (beq_self_eq_true _) (.inl ⟨a, ha, hkey⟩)
  | none => simpa using exists_word_iff h hlookup

lemma mem_flagsRead_iff (h : c.IsWritten) : f ∈ c.flagsRead ↔ c.HasFlag f ∨ c.Shows f := by
  simp [flagsRead, Flag.mem_all, hasFlag_iff h]

/-- The flags that are read are those given unless a value shows another. -/
lemma definition_flagsRead_eq_iff (h : c.IsWritten) :
    c.definition c.flagsRead = c.definition c.flagsGiven ↔ ∀ f, c.Shows f → c.HasFlag f := by
  have hclauses : c.definition c.flagsRead = c.definition c.flagsGiven ↔
      Flag.clauses c.flagsRead = Flag.clauses c.flagsGiven := by
    rw [definition, definition, List.append_left_inj, List.append_right_inj]
  rw [hclauses, flagsRead, flagsGiven, Flag.clauses_filter_eq_iff]
  refine forall_congr' fun f => ?_
  rw [Bool.eq_iff_iff, hasFlag_iff h, decide_eq_true_iff, or_iff_left_iff_imp]

/-- **A column is defined by its attributes**, with the flags that are read. -/
lemma definition_ofTag? (h : c.IsWritten) (isClosed : Bool) :
    (Column.ofTag? ⟨c.inside, isClosed⟩).map Column.definition =
      some (c.definition c.flagsRead) := by
  obtain ⟨name, hname⟩ := Option.isSome_iff_exists.mp h.name
  obtain ⟨a, ha, -, hvalue⟩ := exists_of_lookup hname
  have hquoted := quotedName_of_not_mem ((h.row a ha).value name hvalue)
  have hread : valueOf? "name" (Markup.attributes c.inside) = some name :=
    (valueOf?_inside h .name).trans hname
  have htype : valueOf? "type" (Markup.attributes c.inside) = c.value? .type :=
    valueOf?_inside h .type
  have hinitial : valueOf? "default" (Markup.attributes c.inside) = c.value? .initial :=
    valueOf?_inside h .initial
  have hflags : Flag.clauses c.flagsRead =
      (if hasFlag c.inside (Markup.attributes c.inside) "primary-key" then " PRIMARY KEY".toList
        else []) ++
      (if hasFlag c.inside (Markup.attributes c.inside) "unique" then " UNIQUE".toList else []) ++
      (if hasFlag c.inside (Markup.attributes c.inside) "not-null" then " NOT NULL".toList
        else []) :=
    Flag.clauses_filter _
  simp only [Column.ofTag?, hread, Option.map_some, Column.definition, definition, hflags, hquoted,
    hname, htype, hinitial, Option.getD_some, List.append_assoc]
  cases c.value? .initial <;> rfl

/-! ### Tags -/

lemma not_mem_inside (h : c.IsWritten) {d : Char} (hd : d = '<' ∨ d = '>') : d ∉ c.inside := by
  have hother : isBlank d = false ∧ isKeyChar d = false ∧ d ≠ '=' ∧ d ≠ '"' := by
    rcases hd with rfl | rfl <;> decide
  refine Attribute.not_mem_row h.row h.gap hother.1 hother.2.1 hother.2.2
    fun a ha value hvalue => ?_
  rcases hd with rfl | rfl
  · exact (h.values a ha value hvalue).1
  · exact (h.values a ha value hvalue).2

/-- The tag of a column is read. -/
lemma tagAt?_tag (h : c.IsWritten) (rest : List Char) :
    ∃ isClosed,
      tagAt? "column".toList ('<' :: c.tag ++ rest) = some (⟨c.inside, isClosed⟩, rest) := by
  have hhead : ∀ d ∈ c.inside.head?, isWordChar d = false := by
    intro d hd
    have hkey : isKeyChar d = false := ((Attribute.resumes_row h.row h.gap).1 d hd).2
    exact (Bool.or_eq_false_iff.mp hkey).1
  have hlast : ∀ d ∈ c.inside.getLast?, d ≠ '/' := by
    rintro d hd rfl
    exact absurd (Attribute.getLast?_row h.row h.gap hd) (by decide)
  have hbracket : '>' ∉ c.inside := not_mem_inside h (.inr rfl)
  unfold tag
  rw [List.cons_append, List.append_assoc, List.append_assoc]
  cases c.ending with
  | closed => exact ⟨true, tagAt?_closed hhead hbracket _ rest⟩
  | opened => exact ⟨false, tagAt?_open hhead hbracket hlast _ rest⟩
  | paired => exact ⟨false, tagAt?_open hhead hbracket hlast _ rest⟩

section Unread

variable {α : Type} {read : List Char → Option α} (hread : AtBrackets read)
  (hclose : ∀ cs, read ("</column>".toList ++ cs) = none)

include hread hclose

lemma unread_back (c : ColumnElement) (rest : List Char) : Unread read c.ending.back rest := by
  have hpaired : Unread read "</column>".toList rest :=
    ⟨hclose rest, hread.unread (by decide) rest⟩
  cases c.ending with
  | closed => trivial
  | opened => trivial
  | paired => exact hpaired

/-- Columns are passed over by a reader that reads neither of their tags. -/
lemma unread_texts (hopen : ∀ cs, read ("<column".toList ++ cs) = none)
    {columns : List ColumnElement} (h : ∀ c ∈ columns, c.IsWritten) (rest : List Char) :
    Unread read (columns.flatMap text) rest := by
  induction columns with
  | nil => trivial
  | cons c columns ih =>
      obtain ⟨hc, hcolumns⟩ := List.forall_mem_cons.mp h
      have htag : '<' ∉ c.tag := by
        have hmark : '<' ∉ c.ending.mark := by cases c.ending <;> decide
        unfold tag
        simp [not_mem_inside hc (.inl rfl), hmark]
      rw [List.flatMap_cons, text, unread_append, unread_append, unread_append]
      refine ⟨⟨hread.unread hc.front _, ⟨?_, hread.unread htag _⟩, unread_back hread hclose c _⟩,
        ih hcolumns⟩
      unfold tag
      rw [List.append_assoc]
      exact hopen _

end Unread

/-- **Columns are read** from their elements, with the definitions that these have. -/
lemma definitions_columns {columns : List ColumnElement} (h : ∀ c ∈ columns, c.IsWritten)
    {tail : List Char} (htail : '<' ∉ tail) :
    ((tags "column" (columns.flatMap text ++ tail)).filterMap Column.ofTag?).map Column.definition =
      columns.map fun c => c.definition c.flagsRead := by
  have hread : AtBrackets (tagAt? "column".toList) := atBrackets_tagAt? _
  rw [List.map_filterMap]
  induction columns with
  | nil =>
      rw [List.flatMap_nil, List.nil_append, tags, findAll_eq_nil (hread.unread htail [])]
      rfl
  | cons c columns ih =>
      obtain ⟨hc, hcolumns⟩ := List.forall_mem_cons.mp h
      obtain ⟨isClosed, htag⟩ :=
        tagAt?_tag hc (c.ending.back ++ (columns.flatMap text ++ tail))
      have hcut : (c :: columns).flatMap text ++ tail =
          c.front ++ ('<' :: c.tag ++ (c.ending.back ++ (columns.flatMap text ++ tail))) := by
        simp [text]
      have hback : Unread (tagAt? "column".toList) c.ending.back (columns.flatMap text ++ tail) :=
        unread_back hread (fun _ => rfl) c _
      rw [tags, hcut, findAll_append (hread.unread hc.front _),
        findAll_of_some (advances_tagAt? _) htag, findAll_append hback,
        List.filterMap_cons_some (f := fun tag => (Column.ofTag? tag).map Column.definition)
          (definition_ofTag? hc isClosed), List.map_cons]
      exact congrArg _ (ih hcolumns)

end Reading

end ColumnElement

/-! ### Tables -/

/-- A `table` element, with the text in front of it: the text of its attributes, its columns, and
the text behind them. -/
structure TableElement where
  front : List Char
  inside : List Char
  columns : List ColumnElement
  tail : List Char

namespace TableElement

/-- The text inside the element. -/
def body (t : TableElement) : List Char :=
  t.columns.flatMap ColumnElement.text ++ t.tail

/-- The element as it is written. -/
def text (t : TableElement) : List Char :=
  t.front ++ '<' :: ("table".toList ++ (t.inside ++ '>' :: (t.body ++ "</table>".toList)))

/-- The name of the table. -/
def name? (t : TableElement) : Option (List Char) :=
  valueOf? "name" (Markup.attributes t.inside)

/-- The element is opened, and it has a name and columns. There are no brackets besides those of
its tags. -/
structure IsWritten (t : TableElement) : Prop where
  front : '<' ∉ t.front
  inside : '<' ∉ t.inside ∧ '>' ∉ t.inside
  start : ∀ c ∈ t.inside.head?, isWordChar c = false
  isOpen : ∀ c ∈ t.inside.getLast?, c ≠ '/'
  name : t.name?.isSome
  ne_nil : t.columns ≠ []
  columns : ∀ c ∈ t.columns, c.IsWritten
  tail : '<' ∉ t.tail

/-- The statement that creates the table, with the columns as they are read. -/
def statement (t : TableElement) : List Char :=
  "CREATE TABLE ".toList ++ quotedName (t.name?.getD []) ++ " (\n  ".toList ++
    join ",\n  ".toList (t.columns.map fun c => c.definition c.flagsRead) ++ "\n);\n".toList

section Reading

variable {t : TableElement} {tables : List TableElement} {tail : List Char}

/-- A table is read with all its columns. -/
lemma exists_ofElement? (h : t.IsWritten) :
    ∃ table, Table.ofElement? ⟨t.inside, false⟩ t.body = some table ∧
      table.statement ++ ";\n".toList = t.statement := by
  obtain ⟨name, hname⟩ := Option.isSome_iff_exists.mp h.name
  have hread : valueOf? "name" (Markup.attributes t.inside) = some name := hname
  have hdefinitions : ((tags "column" t.body).filterMap Column.ofTag?).map Column.definition =
      t.columns.map fun c => c.definition c.flagsRead :=
    ColumnElement.definitions_columns h.columns h.tail
  cases hcolumns : (tags "column" t.body).filterMap Column.ofTag? with
  | nil =>
      rw [hcolumns] at hdefinitions
      exact absurd (List.map_eq_nil_iff.mp hdefinitions.symm) h.ne_nil
  | cons first rest =>
      rw [hcolumns] at hdefinitions
      refine ⟨⟨name, first :: rest⟩, by simp only [Table.ofElement?, hread, hcolumns], ?_⟩
      have hend : "\n)".toList ++ ";\n".toList = "\n);\n".toList := by decide
      unfold Table.statement statement
      rw [hname, hdefinitions, List.append_assoc, hend]
      rfl

lemma elementAt?_text (h : t.IsWritten) (rest : List Char) :
    elementAt? "table".toList ('<' :: ("table".toList ++ (t.inside ++ '>' ::
      (t.body ++ ("</table>".toList ++ rest))))) = some ((⟨t.inside, false⟩, t.body), rest) := by
  refine elementAt?_append h.start h.inside.2 h.isOpen ?_
  rw [body, unread_append]
  have hread := atBrackets_after? ('/' :: "table".toList ++ ['>'])
  exact ⟨ColumnElement.unread_texts hread (fun _ => rfl) (fun _ => rfl) h.columns _,
    hread.unread h.tail _⟩

/-- **Tables are read** from their elements. -/
lemma statements_tables (h : ∀ t ∈ tables, t.IsWritten) (htail : '<' ∉ tail) :
    (Database.tables (tables.flatMap text ++ tail)).flatMap (fun t => t.statement ++ ";\n".toList) =
      tables.flatMap statement := by
  have hread : AtBrackets (elementAt? "table".toList) := atBrackets_elementAt? _
  have hparts : ∀ cs, Database.tables cs = (elements "table" cs).filterMap
      fun part => Table.ofElement? part.1 part.2 := fun _ => rfl
  rw [hparts, elements_eq]
  induction tables with
  | nil =>
      rw [List.flatMap_nil, List.nil_append, findAll_eq_nil (hread.unread htail [])]
      rfl
  | cons t tables ih =>
      obtain ⟨ht, htables⟩ := List.forall_mem_cons.mp h
      have hcut : (t :: tables).flatMap text ++ tail =
          t.front ++ '<' :: ("table".toList ++ (t.inside ++ '>' ::
            (t.body ++ ("</table>".toList ++ (tables.flatMap text ++ tail))))) := by
        simp [text]
      obtain ⟨table, htable, hstatement⟩ := exists_ofElement? ht
      rw [hcut, findAll_append (hread.unread ht.front _),
        findAll_of_some (advances_elementAt? _) (elementAt?_text ht _),
        List.filterMap_cons_some (f := fun part => Table.ofElement? part.1 part.2)
          (a := (⟨t.inside, false⟩, t.body)) htable,
        List.flatMap_cons, hstatement, List.flatMap_cons, ih htables]

/-- A table is passed over by a reader that reads none of its tags. -/
lemma unread_text {α : Type} {read : List Char → Option α} (hread : AtBrackets read)
    (hopen : ∀ cs, read ("<table".toList ++ cs) = none)
    (hclose : ∀ cs, read ("</table>".toList ++ cs) = none)
    (hcolumn : ∀ cs, read ("<column".toList ++ cs) = none)
    (hcolumn' : ∀ cs, read ("</column>".toList ++ cs) = none) (h : t.IsWritten)
    (rest : List Char) : Unread read t.text rest := by
  have hcut : t.text = t.front ++ (('<' :: ("table".toList ++ (t.inside ++ ['>']))) ++
      (t.columns.flatMap ColumnElement.text ++ (t.tail ++ "</table>".toList))) := by
    simp [text, body]
  have htag : '<' ∉ "table".toList ++ (t.inside ++ ['>']) := by simp [h.inside.1]
  rw [hcut, unread_append, unread_append, unread_append, unread_append]
  refine ⟨hread.unread h.front _, ⟨?_, hread.unread htag _⟩,
    ColumnElement.unread_texts hread hcolumn' hcolumn h.columns _,
    hread.unread h.tail _, hclose _, hread.unread (by decide) _⟩
  rw [List.append_assoc]
  exact hopen _

/-- There are no statements besides tables. -/
lemma plainBodies_eq_nil (h : ∀ t ∈ tables, t.IsWritten) (htail : '<' ∉ tail) :
    plainBodies "sql" (tables.flatMap text ++ tail) = [] := by
  have hread : AtBrackets (plainBodyAt? "sql".toList) := atBrackets_plainBodyAt? _
  rw [plainBodies_eq]
  refine findAll_eq_nil (unread_append.mpr ⟨?_, hread.unread htail []⟩)
  induction tables with
  | nil => trivial
  | cons t tables ih =>
      obtain ⟨ht, htables⟩ := List.forall_mem_cons.mp h
      rw [List.flatMap_cons, unread_append]
      exact ⟨unread_text hread (fun _ => rfl) (fun _ => rfl) (fun _ => rfl) (fun _ => rfl) ht _,
        ih htables⟩

/-- The statements of a text with tables. -/
lemma script_tables (h : ∀ t ∈ tables, t.IsWritten) (htail : '<' ∉ tail) (content : Option String) :
    script (some (String.ofList (tables.flatMap text ++ tail))) content =
      tables.flatMap statement ++ script none content := by
  have hdocument :
      (String.ofList (tables.flatMap text ++ tail)).toList = tables.flatMap text ++ tail :=
    String.toList_ofList
  have hraw : rawStatements (some (String.ofList (tables.flatMap text ++ tail))) content =
      rawStatements none content := by
    rw [rawStatements, Option.map_some, hdocument, plainBodies_eq_nil h htail]
    rfl
  rw [script, Option.map_some, hdocument, Option.getD_some, statements_tables h htail, hraw]
  rfl

end Reading

end TableElement

/-! ### Databases -/

/-- **Columns are defined by their attributes, and by what the values show.** Each table is created
with the definitions of its columns: the name in quotes, the type, the clauses of flags, and the
default as a literal of its text. These flags are the ones among the attributes and those that a
value shows, so the definition is the one that the attributes ask for unless a value shows a flag
that is not among them. -/
theorem columns_take_flags_from_values (tables : List TableElement) (h : ∀ t ∈ tables, t.IsWritten)
    {tail : List Char} (htail : '<' ∉ tail) (content : Option String) :
    script (some (String.ofList (tables.flatMap TableElement.text ++ tail))) content =
        tables.flatMap TableElement.statement ++ script none content ∧
      (∀ t ∈ tables, ∀ c ∈ t.columns,
        (∀ f, f ∈ c.flagsRead ↔ c.HasFlag f ∨ c.Shows f) ∧
        (c.definition c.flagsRead = c.definition c.flagsGiven ↔ ∀ f, c.Shows f → c.HasFlag f)) ∧
      ∀ text, literalText? (quotedText text) = some text := by
  refine ⟨TableElement.script_tables h htail content, fun t ht c hc => ?_, literalText?_quotedText⟩
  have hwritten : c.IsWritten := (h t ht).columns c hc
  exact ⟨fun f => ColumnElement.mem_flagsRead_iff hwritten,
    ColumnElement.definition_flagsRead_eq_iff hwritten⟩

/-- A value that ends with a flag does not show it, since a quote follows. -/
theorem columns_take_flags_from_values_of_roles :
    let columns : List ColumnElement :=
      [⟨[], [Field.name.given "id", Field.type.given "INTEGER", Flag.isKey.alone], [' '], .closed⟩,
        ⟨[], [Field.initial.given "it's not unique", Field.name.given "role"], [], .paired⟩]
    let table : TableElement := ⟨[], " name=\"users\"".toList, columns, []⟩
    table.IsWritten ∧ script (some (String.ofList table.text)) none =
      ("CREATE TABLE \"users\" (\n  \"id\" INTEGER PRIMARY KEY,\n" ++
        "  \"role\" TEXT DEFAULT 'it''s not unique'\n);\n").toList := by
  intro columns table
  have hid : ∀ a ∈ columns[0].attributes, a.IsWritten ∧ IsColumnAttribute a := by
    simpa [columns] using ⟨Field.name.isWritten_given "id" (by decide),
      Field.type.isWritten_given "INTEGER" (by decide), Flag.isKey.isWritten_alone⟩
  have hrole : ∀ a ∈ columns[1].attributes, a.IsWritten ∧ IsColumnAttribute a := by
    simpa [columns] using ⟨Field.initial.isWritten_given "it's not unique" (by decide),
      Field.name.isWritten_given "role" (by decide)⟩
  have hcolumns : ∀ c ∈ columns, c.IsWritten :=
    List.forall_mem_cons.mpr ⟨⟨by decide, hid, by decide, isGap_blank, by decide⟩,
      List.forall_mem_singleton.mpr ⟨by decide, hrole, by decide, isGap_nil, by decide⟩⟩
  have htable : table.IsWritten :=
    ⟨by decide, by decide, by rintro c ⟨⟩; decide, by rintro c ⟨⟩; decide, by decide +kernel,
      by decide, hcolumns, by decide⟩
  obtain ⟨hscript, -, -⟩ := columns_take_flags_from_values [table]
    (List.forall_mem_singleton.mpr htable) List.not_mem_nil none
  rw [List.flatMap_singleton, List.append_nil] at hscript
  exact ⟨htable, hscript.trans (by decide +kernel)⟩

/-- A default that shows a flag sets it. -/
theorem default_sets_unique :
    let column : ColumnElement :=
      ⟨[], [Field.name.given "a", Field.initial.given "x unique y"], [], .closed⟩
    column.IsWritten ∧ ¬ column.HasFlag .isUnique ∧
      column.text = "<column name=\"a\" default=\"x unique y\"/>".toList ∧
      column.definition column.flagsGiven = "\"a\" TEXT DEFAULT 'x unique y'".toList ∧
      script (some "<table name=\"t\"><column name=\"a\" default=\"x unique y\"/></table>") none =
        "CREATE TABLE \"t\" (\n  \"a\" TEXT UNIQUE DEFAULT 'x unique y'\n);\n".toList := by
  intro column
  have hattributes : ∀ a ∈ column.attributes, a.IsWritten ∧ IsColumnAttribute a := by
    simpa [column] using ⟨Field.name.isWritten_given "a" (by decide),
      Field.initial.isWritten_given "x unique y" (by decide)⟩
  exact ⟨⟨by decide, hattributes, by decide, isGap_nil, by decide⟩, by decide, by decide,
    by decide +kernel, by decide +kernel⟩

end Scaffold.Database

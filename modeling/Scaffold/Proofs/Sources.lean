import Mathlib
import Scaffold.Proofs.Capitals
import Scaffold.Proofs.Dictionary
import Scaffold.Proofs.TemplateVariables

/-!
The sources of variables.

A variable is looked up in a scope, in the dictionary that a scope is flattened to, or in a
dictionary whose keys are spelled in any way.

* `bareName_canonicalKey`: a canonical key spells the name that it is the key of;
* `Scope.Formed`: the scopes that come about by opening and closing layers and by binding
  variables. Their keys are canonical, hence `Scope.Formed.lookupIn_flatten`: flattening such a
  scope changes no look-up;
* `Spells`: the ways to spell an identifier. In a dictionary without two keys for one variable,
  a look-up finds the entry whose key spells the same name (`lookupIn_eq_some_iff`), and so does
  a scope of its pairs (`Scope.get?_ofPairs_eq_some_iff`);
* `variable_sources_agree`: hence it does not matter which of the sources a text is filled in
  from.
-/

namespace Scaffold

open Calendar Text

namespace Variable

/-! ### Canonical keys -/

section Keys

variable {name key : String}

/-- A bare name neither starts nor ends with a percent sign. -/
lemma percent_not_mem_bareName (name : String) :
    '%' ∉ (bareName name).toList.head? ∧ '%' ∉ (bareName name).toList.getLast? := by
  obtain ⟨-, hhead, hlast⟩ := trimBy_eq_iff.mp
    (rfl : trimBy (· == '%') (trim name.toList) = trimBy (· == '%') (trim name.toList))
  rw [bareName, String.toList_ofList]
  exact ⟨fun h => by simpa using hhead _ (percent_mem_head?_upper h),
    fun h => by simpa using hlast _ (percent_mem_getLast?_upper h)⟩

lemma toList_canonicalKey (name : String) :
    (canonicalKey name).toList = '%' :: ((bareName name).toList ++ ['%']) := by
  simp [canonicalKey]

/-- **A canonical key spells the name that it is the key of.** -/
@[simp]
lemma bareName_canonicalKey (name : String) : bareName (canonicalKey name) = bareName name := by
  have hblank : isBlank '%' = false := by decide
  have htrim : trim (canonicalKey name).toList = (canonicalKey name).toList := by
    rw [toList_canonicalKey]
    refine trim_eq_self ?_ ?_
    · rintro _ ⟨⟩
      exact hblank
    · rw [← List.cons_append, List.getLast?_concat]
      rintro _ ⟨⟩
      exact hblank
  have hmarks : trimBy (· == '%') (canonicalKey name).toList = (bareName name).toList := by
    obtain ⟨hhead, hlast⟩ := percent_not_mem_bareName name
    refine trimBy_eq_iff.mpr ⟨⟨['%'], ['%'], by simp, by simp, ?_⟩, fun c hc => ?_, fun c hc => ?_⟩
    · rw [toList_canonicalKey, List.singleton_append]
    · simpa using ne_of_mem_of_not_mem hc hhead
    · simpa using ne_of_mem_of_not_mem hc hlast
  have hcapital : upper (bareName name).toList = (bareName name).toList := by
    rw [bareName, String.toList_ofList, upper_upper]
  rw [bareName, htrim, hmarks, hcapital, String.ofList_toList]

lemma canonicalKey_canonicalKey (name : String) :
    canonicalKey (canonicalKey name) = canonicalKey name :=
  canonicalKey_inj.mpr (bareName_canonicalKey name)

lemma bareName_ne_canonicalKey : bareName name ≠ canonicalKey key := by
  intro h
  refine (percent_not_mem_bareName name).1 ?_
  rw [h, toList_canonicalKey]
  rfl

end Keys

/-! ### Scopes -/

/-- A layer of a scope: its keys are canonical, and each is listed once. -/
structure Bindings.IsLayer (layer : Bindings) : Prop where
  ascending : layer.Ascending
  canonical : ∀ key ∈ layer.keys, canonicalKey key = key

/-- The scopes that come about by opening and closing layers and by binding variables in the
innermost layer. -/
inductive Scope.Formed : Scope → Prop
  | empty : Formed .empty
  | push {s : Scope} : Formed s → Formed s.push
  | pop {s : Scope} : Formed s → Formed s.pop
  | bind {s : Scope} (name value : String) : Formed s → Formed (s.bind name value)

section Layers

variable {layers : List Bindings} {layer d : Bindings} {key : String} {s : Scope}

lemma Bindings.IsLayer.empty : Bindings.IsLayer ∅ :=
  ⟨Dictionary.ascending_empty, fun _ h => absurd h List.not_mem_nil⟩

lemma Bindings.IsLayer.nodup (h : layer.IsLayer) : layer.keys.Nodup :=
  h.ascending.imp fun {_ _} hlt => ne_of_lt hlt

/-- Binding a variable in a layer leaves a layer. -/
lemma Bindings.IsLayer.insert (h : layer.IsLayer) (name value : String) :
    IsLayer (Dictionary.insert layer (canonicalKey name) value) := by
  refine ⟨h.ascending.insert _ _, fun key hkey => ?_⟩
  obtain rfl | hkey := Dictionary.mem_keys_place.mp hkey
  · exact canonicalKey_canonicalKey name
  · exact h.canonical key hkey

/-- **All layers of a scope have canonical keys.** -/
lemma Scope.Formed.isLayer (h : s.Formed) : ∀ layer ∈ s.inner :: s.outer, layer.IsLayer := by
  induction h with
  | empty => simpa [Scope.empty] using Bindings.IsLayer.empty
  | push _ ih => exact List.forall_mem_cons.mpr ⟨.empty, ih⟩
  | @pop s _ ih =>
      obtain ⟨inner, outer⟩ := s
      cases outer with
      | nil => exact ih
      | cons layer layers => exact (List.forall_mem_cons.mp ih).2
  | bind name value _ ih =>
      obtain ⟨hinner, houter⟩ := List.forall_mem_cons.mp ih
      exact List.forall_mem_cons.mpr ⟨hinner.insert name value, houter⟩

lemma Scope.getKey_eq_none_iff :
    getKey key layers = none ↔ ∀ layer ∈ layers, key ∉ layer.keys := by
  induction layers with
  | nil => simp [getKey]
  | cons layer layers ih => simp [getKey, ih, Dictionary.get?_eq_none_iff]

/-- A flattened scope has the values of the innermost layers. -/
lemma Scope.get?_flatten (h : ∀ layer ∈ s.inner :: s.outer, layer.keys.Nodup) (key : String) :
    s.flatten.get? key = getKey key (s.inner :: s.outer) := by
  rw [flatten]
  generalize s.inner :: s.outer = layers at h
  induction layers with
  | nil => rfl
  | cons layer layers ih =>
      obtain ⟨hlayer, hlayers⟩ := List.forall_mem_cons.mp h
      rw [List.foldr_cons, Dictionary.get?_union hlayer, ih hlayers, getKey]

/-- Where all keys are canonical, only the canonical key of a name is looked at. -/
lemma lookupIn_of_canonical (h : ∀ key ∈ d.keys, canonicalKey key = key) (name : String) :
    lookupIn d name = d.get? (canonicalKey name) := by
  rw [lookupIn]
  cases hget : d.get? (canonicalKey name) with
  | some value => rfl
  | none =>
      have hkey := Dictionary.get?_eq_none_iff.mp hget
      have hbare : d.get? (bareName name) = none :=
        Dictionary.get?_eq_none_iff.mpr fun hmem => bareName_ne_canonicalKey (h _ hmem).symm
      have hfind : (d.entries.find? fun e => bareName e.1 == bareName name) = none := by
        refine List.find?_eq_none.mpr fun e he hsame => hkey ?_
        have hmem : e.1 ∈ d.keys := List.mem_map_of_mem he
        rwa [← canonicalKey_inj.mpr (eq_of_beq hsame), h _ hmem]
      simp [hbare, hfind]

/-- **Flattening a scope changes no look-up.** -/
lemma Scope.Formed.lookupIn_flatten (h : s.Formed) (name : String) :
    lookupIn s.flatten name = s.get? name := by
  have hlayers := h.isLayer
  have hget := Scope.get?_flatten fun layer hlayer => (hlayers layer hlayer).nodup
  rw [lookupIn_of_canonical, hget, Scope.get?]
  intro key hkey
  -- the keys of the flattened scope are those of its layers
  have hsome : Scope.getKey key (s.inner :: s.outer) ≠ none := fun hnone =>
    Dictionary.get?_eq_none_iff.mp ((hget key).trans hnone) hkey
  rw [ne_eq, Scope.getKey_eq_none_iff] at hsome
  push Not at hsome
  obtain ⟨layer, hlayer, hmem⟩ := hsome
  exact (hlayers layer hlayer).canonical key hmem

end Layers

/-! ### Spellings -/

/-- The ways to spell an identifier: in letters of any case, between percent signs, and then
between blanks. -/
def Spells (name : String) (ident : List Char) : Prop :=
  IsWord isIdentStart isIdentRest ident ∧
    ∃ gap marks marks' gap', IsBlankText gap ∧ IsBlankText gap' ∧ (∀ c ∈ marks, c = '%') ∧
      (∀ c ∈ marks', c = '%') ∧ name.toList = gap ++ ((marks ++ (ident ++ marks')) ++ gap')

/-- A spelling of some identifier. -/
def IsSpelling (name : String) : Prop :=
  ∃ ident, Spells name ident

section Spelling

variable {name value : String} {cs ident : List Char} {bindings : Bindings}

/-- An identifier in capitals consists of characters of an identifier. -/
lemma isIdentRest_of_mem_upper (h : ∀ c ∈ cs, isIdentRest c) {d : Char} (hd : d ∈ upper cs) :
    isIdentRest d := by
  obtain ⟨c, hc, hd⟩ := List.mem_flatMap.mp hd
  have hascii : c.toNat < 0x80 := lt_of_le_of_lt (identRest_range (h c hc)).2 (by decide)
  rw [upperChar_of_ascii hascii, List.mem_singleton] at hd
  by_cases hlower : c.isLower
  · have halpha : c.toUpper.isAlpha := by simp [Char.isAlpha, hlower]
    simp [hd, isIdentRest, Char.isAlphanum, halpha]
  · rw [hd, Char.toUpper_eq_of_not_isLower hlower]
    exact h c hc

lemma ne_percent_of_isIdentRest {c : Char} (h : isIdentRest c) : c ≠ '%' := by
  rintro rfl
  exact absurd (identRest_range h).1 (by decide)

/-- A spelling comes down to the capitals of what it spells. -/
lemma bareName_eq_of_spelled {gap marks marks' gap' : List Char} (hgap : IsBlankText gap)
    (hgap' : IsBlankText gap') (hmarks : ∀ c ∈ marks, c = '%') (hmarks' : ∀ c ∈ marks', c = '%')
    (hcs : ∀ c ∈ cs, isIdentRest c)
    (hname : name.toList = gap ++ ((marks ++ (cs ++ marks')) ++ gap')) :
    bareName name = String.ofList (upper cs) := by
  have hinner : ∀ c ∈ marks ++ (cs ++ marks'), isBlank c = false := by
    have hpercent : isBlank '%' = false := by decide
    intro c hc
    simp only [List.mem_append] at hc
    obtain hc | hc | hc := hc
    · rwa [hmarks c hc]
    · exact (identRest_bounds (hcs c hc)).1
    · rwa [hmarks' c hc]
  have htrim : trim name.toList = marks ++ (cs ++ marks') :=
    trimBy_eq_iff.mpr ⟨⟨gap, gap', hgap, hgap', hname⟩,
      fun c hc => hinner c (List.mem_of_mem_head? hc),
      fun c hc => hinner c (List.mem_of_mem_getLast? hc)⟩
  have hpercent : trimBy (· == '%') (marks ++ (cs ++ marks')) = cs :=
    trimBy_eq_iff.mpr ⟨⟨marks, marks', by simpa using hmarks, by simpa using hmarks', rfl⟩,
      fun c hc => by simpa using ne_percent_of_isIdentRest (hcs c (List.mem_of_mem_head? hc)),
      fun c hc => by simpa using ne_percent_of_isIdentRest (hcs c (List.mem_of_mem_getLast? hc))⟩
  rw [bareName, htrim, hpercent]

lemma Spells.bareName_eq (h : Spells name ident) : bareName name = String.ofList (upper ident) := by
  obtain ⟨⟨-, hident⟩, gap, marks, marks', gap', hgap, hgap', hmarks, hmarks', hname⟩ := h
  exact bareName_eq_of_spelled hgap hgap' hmarks hmarks' hident hname

/-- A bare name of an identifier spells the same name. -/
lemma IsSpelling.bareName_bareName (h : IsSpelling name) :
    bareName (bareName name) = bareName name := by
  obtain ⟨ident, h⟩ := h
  have hgap : IsBlankText [] := by simp [IsBlankText]
  have hmarks : ∀ c ∈ ([] : List Char), c = '%' := by simp
  have hcapital : bareName (String.ofList (upper ident)) = String.ofList (upper (upper ident)) :=
    bareName_eq_of_spelled hgap hgap hmarks hmarks
      (fun _ hc => isIdentRest_of_mem_upper h.1.2 hc) (by simp)
  rw [h.bareName_eq, hcapital, upper_upper]

/-- An identifier is a spelling of itself. -/
lemma isSpelling_ofList (h : IsWord isIdentStart isIdentRest ident) :
    IsSpelling (String.ofList ident) :=
  ⟨ident, h, [], [], [], [], by simp [IsBlankText]⟩

/-- Two entries of which the keys spell one name are one. -/
lemma eq_of_bareName_eq {pairs : List (String × String)}
    (h : (pairs.map fun e => canonicalKey e.1).Nodup) {e e' : String × String} (he : e ∈ pairs)
    (he' : e' ∈ pairs) (hsame : bareName e.1 = bareName e'.1) : e = e' :=
  List.inj_on_of_nodup_map h he he' (canonicalKey_inj.mpr hsame)

/-- **A dictionary is looked up by what its keys spell**, if no two of them spell one name. -/
lemma lookupIn_eq_some_iff (h : (bindings.keys.map canonicalKey).Nodup) (hname : IsSpelling name) :
    lookupIn bindings name = some value ↔
      ∃ key, (key, value) ∈ bindings.entries ∧ bareName key = bareName name := by
  rw [Dictionary.keys, List.map_map] at h
  have hfound : ∀ {value}, lookupIn bindings name = some value →
      ∃ key, (key, value) ∈ bindings.entries ∧ bareName key = bareName name := by
    intro value hvalue
    simp only [lookupIn, Option.or_eq_some_iff, Option.map_eq_some_iff] at hvalue
    obtain hkey | ⟨-, hbare | ⟨-, e, he, rfl⟩⟩ := hvalue
    · exact ⟨_, Dictionary.mem_entries_of_get? hkey, bareName_canonicalKey name⟩
    · exact ⟨_, Dictionary.mem_entries_of_get? hbare, hname.bareName_bareName⟩
    · exact ⟨e.1, List.mem_of_find?_eq_some he, by simpa using List.find?_some he⟩
  refine ⟨hfound, ?_⟩
  rintro ⟨key, hmem, hsame⟩
  have hsome : lookupIn bindings name ≠ none := by
    simp only [lookupIn, ne_eq, Option.or_eq_none_iff, Option.map_eq_none_iff, List.find?_eq_none,
      not_and]
    exact fun _ _ hnone => hnone _ hmem (beq_iff_eq.mpr hsame)
  obtain ⟨value', hvalue'⟩ := Option.ne_none_iff_exists'.mp hsome
  obtain ⟨key', hmem', hsame'⟩ := hfound hvalue'
  obtain ⟨rfl, rfl⟩ := Prod.mk.inj (eq_of_bareName_eq h hmem hmem' (hsame.trans hsame'.symm))
  exact hvalue'

/-- **A scope of pairs is looked up by what their names spell**, if no two of them spell one
name. -/
lemma Scope.get?_ofPairs_eq_some_iff {pairs : List (String × String)}
    (h : (pairs.map fun e => canonicalKey e.1).Nodup) :
    (ofPairs pairs).get? name = some value ↔
      ∃ key, (key, value) ∈ pairs ∧ bareName key = bareName name := by
  -- by induction from the pair on that is bound last
  induction pairs using List.reverseRecOn with
  | nil =>
      have hnone : (ofPairs []).get? name = none := rfl
      simp [hnone]
  | append_singleton pairs e ih =>
      have hbind : ofPairs (pairs ++ [e]) = (ofPairs pairs).bind e.1 e.2 := by
        rw [ofPairs, bindAll, List.foldl_append]
        rfl
      rw [hbind]
      by_cases hsame : bareName e.1 = bareName name
      · have hname : ((ofPairs pairs).bind e.1 e.2).get? name = some e.2 := by
          rw [Scope.get?, ← canonicalKey_inj.mpr hsame]
          exact Scope.get?_bind_self _ e.1 e.2
        rw [hname, Option.some.injEq]
        constructor
        · rintro rfl
          exact ⟨e.1, by simp, hsame⟩
        · rintro ⟨key, hmem, hkey⟩
          rw [← eq_of_bareName_eq h hmem (by simp) (hkey.trans hsame.symm)]
      · have hpairs : (pairs.map fun e => canonicalKey e.1).Nodup :=
          h.sublist ((List.sublist_append_left pairs [e]).map _)
        rw [Scope.get?_bind_of_ne _ _ (Ne.symm hsame), ih hpairs]
        refine exists_congr fun key => and_congr_left fun hkey => ?_
        have hne : (key, value) ≠ e := fun heq => hsame (heq ▸ hkey)
        simp [hne]

/-- A dictionary has the values of a scope of its entries, in whatever order these are bound. -/
lemma lookupIn_eq_get?_ofPairs (h : (bindings.keys.map canonicalKey).Nodup)
    {pairs : List (String × String)} (hpairs : pairs.Perm bindings.entries)
    (hname : IsSpelling name) : lookupIn bindings name = (Scope.ofPairs pairs).get? name := by
  have hkeys : (pairs.map fun e => canonicalKey e.1).Nodup := by
    rw [Dictionary.keys, List.map_map] at h
    exact (hpairs.map _).nodup_iff.mpr h
  ext value
  simp only [lookupIn_eq_some_iff h hname, Scope.get?_ofPairs_eq_some_iff hkeys, hpairs.mem_iff]

end Spelling

end Variable

/-! ### Texts -/

open Variable

/-- Two environments fill in each text alike. -/
def Variable.Environment.FillAlike (env env' : Environment) : Prop :=
  ∀ text, (∀ escape, substituteWith env escape text = substituteWith env' escape text) ∧
    renderTemplate env text = renderTemplate env' text

/-- Texts are filled in by the values of identifiers. -/
lemma fillAlike_of_lookup {env env' : Environment} (hday : env.today = env'.today)
    (h : ∀ name, IsSpelling name → env.lookup name = env'.lookup name) : env.FillAlike env' := by
  refine fun text => ⟨substituteWith_congr hday fun before t ht => ?_,
    renderTemplate_congr fun d hd name hname => ?_⟩
  · exact h _ (isSpelling_ofList ht.isWellFormed.name)
  · exact h _ (isSpelling_ofList ((cut_iff.mpr rfl).isWord_of_asked hd hname))

/-- **The sources of variables agree.** A scope and the dictionary that it is flattened to have
the same values. A dictionary in which no two keys spell one name has the values of a scope of
its entries, in whatever order they are listed and bound. So texts are filled in alike. -/
theorem variable_sources_agree :
    (∀ s : Scope, s.Formed →
      (∀ name, lookupIn s.flatten name = s.get? name) ∧
      ∀ today, Environment.FillAlike ⟨today, lookupIn s.flatten⟩ (s.environment today)) ∧
    ∀ bindings : Bindings, (bindings.keys.map canonicalKey).Nodup →
      ∀ pairs, pairs.Perm bindings.entries →
        (∀ name, IsSpelling name → lookupIn bindings name = (Scope.ofPairs pairs).get? name) ∧
        ∀ today, Environment.FillAlike ⟨today, lookupIn bindings⟩
          ((Scope.ofPairs pairs).environment today) := by
  constructor
  · intro s hs
    exact ⟨hs.lookupIn_flatten, fun today =>
      fillAlike_of_lookup rfl fun name _ => hs.lookupIn_flatten name⟩
  · intro bindings hkeys pairs hpairs
    have hlookup : ∀ name, IsSpelling name →
        lookupIn bindings name = (Scope.ofPairs pairs).get? name :=
      fun name hname => lookupIn_eq_get?_ofPairs hkeys hpairs hname
    exact ⟨hlookup, fun today => fillAlike_of_lookup rfl hlookup⟩

/-- A name that an inner layer hides, and a dictionary with odd keys. -/
theorem variable_sources_agree_of_odd_keys :
    let s := ((Scope.empty.bind "name" "outer").push.bind " %Name%" "inner").bind "two words" "x"
    let bindings : Bindings := ⟨[(" %%Größe ", "7"), ("%name", "y"), ("two words%", "x")]⟩
    s.Formed ∧ (bindings.keys.map canonicalKey).Nodup ∧ IsSpelling " %NaMe% " ∧
      lookupIn s.flatten " %NaMe% " = some "inner" ∧ s.get? " %NaMe% " = some "inner" ∧
      lookupIn bindings " %NaMe% " = some "y" ∧
      (Scope.ofPairs bindings.entries).get? " %NaMe% " = some "y" := by
  intro s bindings
  have hformed : s.Formed := (((Scope.Formed.empty.bind _ _).push).bind _ _).bind _ _
  have hkeys : (bindings.keys.map canonicalKey).Nodup := by decide +kernel
  have hblank : isBlank ' ' := by decide
  have hgap : IsBlankText [' '] := by simpa [IsBlankText] using hblank
  have hspelling : IsSpelling " %NaMe% " :=
    ⟨"NaMe".toList, by decide, [' '], ['%'], ['%'], [' '], hgap, hgap, by simp, by simp, rfl⟩
  have hinner : s.get? " %NaMe% " = some "inner" := by decide +kernel
  have hvalue : (Scope.ofPairs bindings.entries).get? " %NaMe% " = some "y" := by decide +kernel
  obtain ⟨hscope, hdictionary⟩ := variable_sources_agree
  refine ⟨hformed, hkeys, hspelling, ?_, hinner, ?_, hvalue⟩
  · rw [(hscope s hformed).1, hinner]
  · rw [(hdictionary bindings hkeys _ (.refl _)).1 _ hspelling, hvalue]

end Scaffold

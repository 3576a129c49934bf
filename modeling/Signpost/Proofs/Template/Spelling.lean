import Signpost.Proofs.Regex.Standalone
import Signpost.Proofs.Template.Acceptance
import Signpost.Proofs.Template.Grammar

namespace Signpost.Template

open Signpost.Regex

variable {config : Config} {constraints : Constraints} {template : String}
  {parameter : Parameter} {parameters : List Parameter} {chunks : List Chunk}
  {body? : Option (List Char)} {cs : List Char} {pattern : Pattern}

-- The name, with the mark behind it if the parameter is optional.
def spelledBody (config : Config) (parameter : Parameter) : List Char :=
  parameter.name.toList ++ if parameter.required then [] else [config.optionalSymbol]

def spelledSlot (config : Config) (parameter : Parameter) : List Char :=
  config.paramOpen :: (spelledBody config parameter ++ [config.paramClose])

-- A placeholder for each parameter, with nothing before, between or behind them.
def spelled (config : Config) (parameters : List Parameter) : String :=
  String.ofList (parameters.flatMap (spelledSlot config))

-- The name has neither of the signs in it that could end it.
def Spellable (config : Config) (parameter : Parameter) : Prop :=
  config.paramClose ∉ parameter.name.toList ∧ config.optionalSymbol ∉ parameter.name.toList

def asRequired (parameter : Parameter) : Parameter :=
  { parameter with required := true }

-- Whether the placeholder of a parameter ends where it is meant to end.
def Closes (config : Config) (parameter : Parameter) : Prop :=
  config.paramClose ≠ config.optionalSymbol ∨ parameter.required = true

instance (config : Config) (parameter : Parameter) : Decidable (Closes config parameter) :=
  inferInstanceAs (Decidable (_ ∨ _))

-- What a placeholder is read as. Where the mark closes it, the closing sign is left over.
def readSlot (config : Config) (parameter : Parameter) : List Chunk :=
  if Closes config parameter then [.placeholder parameter]
  else [.placeholder (asRequired parameter), .literal config.paramClose]

theorem names_spelledBody (h : Spellable config parameter) :
    Names config (spelledBody config parameter) parameter := by
  obtain ⟨name, required⟩ := parameter
  cases required with
  | true =>
      have hlast : name.toList.getLast? ≠ some config.optionalSymbol :=
        fun hlast => h.2 (List.mem_of_getLast? hlast)
      have hnames := Names.required hlast
      rw [String.ofList_toList] at hnames
      rwa [spelledBody, if_pos rfl, List.append_nil]
  | false =>
      have hnames : Names config (name.toList ++ [config.optionalSymbol]) _ := .optional name.toList
      rwa [String.ofList_toList] at hnames

theorem not_mem_spelledBody (h : Spellable config parameter) (hcloses : Closes config parameter) :
    config.paramClose ∉ spelledBody config parameter := by
  rw [spelledBody, List.mem_append, not_or]
  refine ⟨h.1, ?_⟩
  rcases hcloses with hne | hrequired
  · split
    · exact List.not_mem_nil
    · exact fun hmem => hne (List.mem_singleton.mp hmem)
  · rw [if_pos hrequired]
    exact List.not_mem_nil

theorem cut_spelledSlot (h : Spellable config parameter) (hrest : Cut config chunks body? cs) :
    Cut config (readSlot config parameter ++ chunks) body?
      (spelledSlot config parameter ++ cs) := by
  rw [spelledSlot, List.cons_append, List.append_assoc, List.singleton_append, readSlot]
  by_cases hcloses : Closes config parameter
  · rw [if_pos hcloses]
    exact .placeholder (not_mem_spelledBody h hcloses) (names_spelledBody h) hrest
  · rw [if_neg hcloses]
    obtain ⟨hsame, hoptional⟩ := not_or.mp hcloses
    have hbody : spelledBody config parameter =
        spelledBody config (asRequired parameter) ++ [config.paramClose] := by
      simp only [ne_eq, not_not] at hsame
      simp [spelledBody, asRequired, hoptional, hsame]
    have hspellable : Spellable config (asRequired parameter) := h
    rw [hbody, List.append_assoc, List.singleton_append]
    exact .placeholder (not_mem_spelledBody hspellable (.inr rfl)) (names_spelledBody hspellable)
      (.literal config.delimiters_ne.symm hrest)

theorem cut_spelled (h : ∀ parameter ∈ parameters, Spellable config parameter) :
    Cut config (parameters.flatMap (readSlot config)) none
      (parameters.flatMap (spelledSlot config)) := by
  induction parameters with
  | nil => exact .done
  | cons parameter parameters ih =>
      rw [List.forall_mem_cons] at h
      exact cut_spelledSlot h.1 (ih h.2)

theorem placeholders_append (chunks others : List Chunk) :
    placeholders (chunks ++ others) = placeholders chunks ++ placeholders others :=
  List.filterMap_append

-- Each parameter is read once, in its place.
theorem placeholders_readSlots (config : Config) (parameters : List Parameter) :
    placeholders (parameters.flatMap (readSlot config)) = parameters.map fun parameter =>
      if Closes config parameter then parameter else asRequired parameter := by
  induction parameters with
  | nil => rfl
  | cons parameter parameters ih =>
      rw [List.flatMap_cons, placeholders_append, ih, List.map_cons, readSlot]
      split <;> rfl

theorem closes_of_literal {c : Char} (h : .literal c ∈ parameters.flatMap (readSlot config)) :
    ∃ parameter ∈ parameters, ¬Closes config parameter := by
  obtain ⟨parameter, hmem, hliteral⟩ := List.mem_flatMap.mp h
  refine ⟨parameter, hmem, fun hcloses => ?_⟩
  rw [readSlot, if_pos hcloses, List.mem_singleton] at hliteral
  cases hliteral

theorem parameters_of_cut (hcut : Cut config chunks body? template.toList)
    (h : (Pattern.ofTemplate config constraints template).result = .ok pattern) :
    pattern.parameters = placeholders chunks := by
  obtain ⟨text, hread, -⟩ := read_of_ofTemplate h
  obtain ⟨parts, hparts, -, hparameters, -⟩ := read_eq_ok hread
  obtain ⟨-, rfl⟩ := hcut.of_parts? hparts
  rw [hparameters, slots_arranged]

-- Parameters whose placeholders are spelled with the default pattern.
structure Spells (config : Config) (parameters : List Parameter) : Prop where
  defaultPattern : config.defaultPattern = "[\\w-]+"
  identifiers : ∀ parameter ∈ parameters, Text.isIdentifier parameter.name.toList
  distinct : (parameters.map (·.name)).Nodup
  spellable : ∀ parameter ∈ parameters, Spellable config parameter

theorem Spells.exists_pattern (h : Spells config parameters)
    (hverbatim : config.escapeLiterals = true ∨ ∀ parameter ∈ parameters, Closes config parameter) :
    ∃ pattern, (Pattern.ofTemplate config [] (spelled config parameters)).result = .ok pattern ∧
      pattern.parameters = parameters.map fun parameter =>
        if Closes config parameter then parameter else asRequired parameter := by
  have hcut : Cut config (parameters.flatMap (readSlot config)) none
      (spelled config parameters).toList := by
    rw [spelled, String.toList_ofList]
    exact cut_spelled h.spellable
  have hslots : slots (arranged (parameters.flatMap (readSlot config))) =
      parameters.map fun parameter =>
        if Closes config parameter then parameter else asRequired parameter := by
    rw [slots_arranged, placeholders_readSlots]
  have hname (parameter : Parameter) :
      (if Closes config parameter then parameter else asRequired parameter).name =
        parameter.name := by
    split <;> rfl
  obtain ⟨pattern, hpattern⟩ : ∃ pattern,
      (Pattern.ofTemplate config [] (spelled config parameters)).result = .ok pattern := by
    refine exists_of_verbatim hcut.parts? (fun c hliteral => ?_) ?_ ?_ ?_
    · refine .inl (hverbatim.resolve_right fun hcloses => ?_)
      obtain ⟨parameter, hmem, hopen⟩ := closes_of_literal (mem_of_mem_arranged hliteral)
      exact hopen (hcloses parameter hmem)
    · rw [hslots, List.forall_mem_map]
      intro parameter hmem
      rw [hname]
      exact h.identifiers parameter hmem
    · rw [hslots, List.map_map]
      exact (List.map_congr_left fun parameter _ => hname parameter) ▸ h.distinct
    · intro parameter _
      rw [constraintFor, h.defaultPattern]
      exact standalone_default.fits
  exact ⟨pattern, hpattern, (parameters_of_cut hcut hpattern).trans (placeholders_readSlots ..)⟩

-- Where the mark closes a placeholder, no body ends in it.
theorem Cut.required_of_same (hsame : config.paramClose = config.optionalSymbol)
    (h : Cut config chunks body? cs) :
    ∀ parameter ∈ placeholders chunks, parameter.required = true := by
  induction h with
  | done => exact List.forall_mem_nil _
  | unclosed => exact List.forall_mem_nil _
  | literal _ _ ih => exact ih
  | @placeholder body parameter _ _ _ hbody hnames _ ih =>
      refine List.forall_mem_cons.mpr ⟨?_, ih⟩
      cases hnames with
      | required => rfl
      | optional name =>
          rw [hsame] at hbody
          simp at hbody

-- Distinct names of which none has the closing sign or the mark in it. If these two signs differ,
-- then the template that is spelled from the parameters compiles and has these parameters, in
-- their order and with their marks. If they are one sign, this holds for parameters that are
-- required; others are read as required ones, and so are those of any other template.
theorem signs_spell_parameters (config : Config) (parameters : List Parameter)
    (h : Spells config parameters) :
    let result := (Pattern.ofTemplate config [] (spelled config parameters)).result
    (config.paramClose ≠ config.optionalSymbol →
      ∃ pattern, result = .ok pattern ∧ pattern.parameters = parameters) ∧
    (config.paramClose = config.optionalSymbol →
      ((∀ parameter ∈ parameters, parameter.required = true) →
        ∃ pattern, result = .ok pattern ∧ pattern.parameters = parameters) ∧
      (config.escapeLiterals = true → ∃ pattern, result = .ok pattern ∧
        pattern.parameters = parameters.map asRequired) ∧
      ∀ constraints template pattern,
        (Pattern.ofTemplate config constraints template).result = .ok pattern →
        ∀ parameter ∈ pattern.parameters, parameter.required = true) := by
  intro result
  have hall (hcloses : ∀ parameter ∈ parameters, Closes config parameter) :
      ∃ pattern, result = .ok pattern ∧ pattern.parameters = parameters := by
    obtain ⟨pattern, hpattern, hparameters⟩ := h.exists_pattern (.inr hcloses)
    refine ⟨pattern, hpattern, ?_⟩
    rw [hparameters, List.map_congr_left fun parameter hmem => if_pos (hcloses parameter hmem)]
    exact List.map_id parameters
  refine ⟨fun hne => hall fun _ _ => .inl hne, fun hsame => ⟨fun hrequired => ?_, ?_, ?_⟩⟩
  · exact hall fun parameter hmem => .inr (hrequired parameter hmem)
  · intro hescape
    obtain ⟨pattern, hpattern, hparameters⟩ := h.exists_pattern (.inl hescape)
    refine ⟨pattern, hpattern, hparameters.trans (List.map_congr_left fun parameter _ => ?_)⟩
    by_cases hcloses : Closes config parameter
    · obtain ⟨name, required⟩ := parameter
      obtain rfl : required = true := hcloses.resolve_left (not_not_intro hsame)
      exact ite_self _
    · exact if_neg hcloses
  · intro constraints template pattern hpattern
    obtain ⟨⟨chunks, body?, hcut⟩, -⟩ := exists_cut config template.toList
    rw [parameters_of_cut hcut hpattern]
    exact hcut.required_of_same hsame

-- The mark may be the opening sign, and both may be a slash.
theorem signs_spell_parameters_slash :
    let parameters : List Parameter := [⟨"id", true⟩, ⟨"slug", false⟩]
    ∃ config,
      Config.ofOptions { paramOpen := "/", paramClose := ":", optionalSymbol := "/" } =
        .ok config ∧
      Spells config parameters ∧ spelled config parameters = "/id:/slug/:" ∧
      ∃ pattern, (Pattern.ofTemplate config [] "/id:/slug/:").result = .ok pattern ∧
        pattern.parameters = parameters := by
  intro parameters
  let config : Config :=
    { (default : Config) with
      paramOpen := '/', paramClose := ':', optionalSymbol := '/', delimiters_ne := by decide }
  have hconfig : Config.ofOptions
      { paramOpen := "/", paramClose := ":", optionalSymbol := "/" } = .ok config :=
    Except.eq_ok_of_toOption (by decide +kernel)
  have hspells : Spells config parameters :=
    ⟨rfl, by decide +kernel, by decide, by unfold Spellable; decide +kernel⟩
  have htext : spelled config parameters = "/id:/slug/:" := by decide +kernel
  have hne : config.paramClose ≠ config.optionalSymbol := by decide
  have hpattern := (signs_spell_parameters config parameters hspells).1 hne
  rw [htext] at hpattern
  exact ⟨config, hconfig, hspells, htext, hpattern⟩

-- A configuration that is accepted, with signs that no identifier has, whose optional placeholder
-- is read as a required one.
theorem mark_closes_placeholder :
    ∃ config, Config.ofOptions { paramClose := "?" } = .ok config ∧
      config.defaultPattern = "[\\w-]+" ∧
      (∀ name, Text.isIdentifier name → config.paramOpen ∉ name ∧ config.paramClose ∉ name ∧
        config.optionalSymbol ∉ name) ∧
      spelled config [⟨"a", false⟩] = "\x7ba??" ∧
      ∃ pattern, (Pattern.ofTemplate config [] "\x7ba??").result = .ok pattern ∧
        pattern.parameters = [⟨"a", true⟩] := by
  let config : Config := { (default : Config) with paramClose := '?', delimiters_ne := by decide }
  have hconfig : Config.ofOptions { paramClose := "?" } = .ok config :=
    Except.eq_ok_of_toOption (by decide +kernel)
  have hseen : (Pattern.ofTemplate config [] "\x7ba??").result.toOption.bind
      (fun pattern => some pattern.parameters) = some [⟨"a", true⟩] := by decide +kernel
  obtain ⟨pattern, hpattern, hseen⟩ := Except.exists_ok_of_bind hseen
  refine ⟨config, hconfig, rfl, fun name hname => ⟨?_, ?_, ?_⟩, by decide +kernel, pattern,
    hpattern, Option.some.inj hseen⟩
  · exact not_mem_identifier hname (by decide +kernel) (by decide +kernel)
  · exact not_mem_identifier hname (by decide +kernel) (by decide +kernel)
  · exact not_mem_identifier hname (by decide +kernel) (by decide +kernel)

end Signpost.Template

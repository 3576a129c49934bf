import Signpost.Proofs.Route.Definition
import Signpost.Proofs.Template.Acceptance
import Signpost.Proofs.Template.Search
import Signpost.Proofs.Template.Segment
import Signpost.Proofs.Value

namespace Signpost

namespace Template

variable {config : Config} {constraints : Constraints} {rules : String → Rule} {parts : List Part}
  {fills fills' : List (Option Fill)} {text rest path : List Char} {template : String}
  {pattern : Pattern}

theorem attach_of_not_bare (h : Part.startsBare parts = false) (c : Char) :
    attach c parts = .literal c :: parts := by
  unfold attach
  split
  · cases h
  · rfl

-- Text in front of a template is read as it stands, slashes included.
theorem parts?_before (hopen : config.paramOpen ∉ text)
    (hrest : parts? config none rest = some parts) (hbare : Part.startsBare parts = false) :
    parts? config none (text ++ rest) = some (text.map .literal ++ parts) := by
  induction text with
  | nil => exact hrest
  | cons c text ih =>
      rw [List.mem_cons, not_or] at hopen
      have hfront : Part.startsBare (text.map .literal ++ parts) = false := by
        cases text with
        | nil => exact hbare
        | cons d text => rfl
      rw [List.cons_append, parts?, if_neg (Ne.symm hopen.1), ih hopen.2, Option.map_some,
        attach_of_not_bare hfront]
      rfl

theorem precedes_literals (text : List Char) (h : Precedes rules parts fills fills') :
    Precedes rules (text.map .literal ++ parts) fills fills' := by
  induction text with
  | nil => exact h
  | cons c text ih => exact .literal c ih

theorem splits_literals {close : Bool} (text : List Char)
    (h : Splits rules parts fills close path) :
    Splits rules (text.map .literal ++ parts) fills close (text ++ path) := by
  induction text with
  | nil => exact h
  | cons c text ih => exact .literal c ih

-- Text in front of a template has no say in which split is first.
theorem First.literals (h : First rules parts fills path) (text : List Char) :
    First rules (text.map .literal ++ parts) fills (text ++ path) := by
  obtain ⟨⟨close, hsplit⟩, hfirst⟩ := h
  refine ⟨⟨close, splits_literals text hsplit⟩, fun other close' hother => ?_⟩
  obtain ⟨rest, hrest, hother⟩ := rest_of_literals hother
  obtain rfl : path = rest := List.append_cancel_left hrest
  exact (hfirst other close' hother).imp_right (precedes_literals text)

-- What the first split fills in is bound.
theorem match?_of_first (hescape : config.escapeLiterals = true)
    (hcase : config.caseSensitive = true)
    (h : (Pattern.ofTemplate config constraints template).result = .ok pattern)
    (hparts : parts? config none template.toList = some parts)
    (hgoverned : Governed config constraints rules (slots parts)) {path : String}
    (hfirst : First rules parts fills path.toList) :
    pattern.match? path = .ok (some (bound parts fills)) := by
  obtain ⟨parts', items, hcompiled⟩ := compiled_of_ofTemplate hescape h
  obtain rfl : parts' = parts := Option.some.inj (hcompiled.cut.symm.trans hparts)
  obtain ⟨close, hsplit⟩ := hfirst.1
  have hmem := mem_trials_of_splits hsplit
  obtain ⟨trial, more, htrials⟩ := List.exists_cons_of_ne_nil (List.ne_nil_of_mem hmem)
  have hhead : (trials rules parts' path.toList).head? = some trial := by
    rw [htrials, List.head?_cons]
  rw [hcompiled.match?_eq_trials hcase hgoverned, hhead,
    hfirst.unique (first_of_head?_trials hhead), Option.map_some]

end Template

namespace Route

open Template

variable {config : Config} {values : List String} {value other : String} {stray : Option Char}

-- What is bound where a listed value stands.
def selected (values : List String) (value : String) : String :=
  let shorter := String.ofList value.toList.dropLast
  if values.idxOf shorter < values.idxOf value then shorter else value

theorem selected_cases (values : List String) (value : String) :
    (selected values value = value ∧
      values.idxOf value ≤ values.idxOf (String.ofList value.toList.dropLast)) ∨
    (selected values value = String.ofList value.toList.dropLast ∧
      values.idxOf (String.ofList value.toList.dropLast) < values.idxOf value) := by
  by_cases h : values.idxOf (String.ofList value.toList.dropLast) < values.idxOf value
  · exact .inr ⟨if_pos h, h⟩
  · exact .inl ⟨if_neg h, Nat.le_of_not_lt h⟩

-- It is listed, and at most one character of the value is not in it.
theorem selected_spec (hmem : value ∈ values) :
    selected values value ∈ values ∧
      ∃ stray : Option Char, value.toList = (selected values value).toList ++ stray.toList := by
  obtain ⟨hsame, -⟩ | ⟨hshorter, hbefore⟩ := selected_cases values value
  · rw [hsame]
    exact ⟨hmem, none, by simp⟩
  · have hlisted : values.idxOf (String.ofList value.toList.dropLast) < values.length :=
      Nat.lt_trans hbefore (List.idxOf_lt_length_iff.mpr hmem)
    have hne : value.toList ≠ [] := by
      intro hnil
      have hsame : String.ofList value.toList.dropLast = value := by
        rw [hnil, List.dropLast_nil, ← hnil, String.ofList_toList]
      rw [hsame] at hbefore
      exact Nat.lt_irrefl _ hbefore
    rw [hshorter, String.toList_ofList]
    refine ⟨List.idxOf_lt_length_iff.mp hlisted, some (value.toList.getLast hne), ?_⟩
    exact (List.dropLast_append_getLast hne).symm

-- Any other listed value that would fit there was listed after it.
theorem selected_first (hother : other ∈ values)
    (hstands : value.toList = other.toList ++ stray.toList) :
    selected values value = other ∨
      values.idxOf (selected values value) < values.idxOf other := by
  have hfits : other = value ∨ other = String.ofList value.toList.dropLast := by
    cases stray with
    | none => exact .inl (String.toList_inj.mp (by simpa using hstands.symm))
    | some c =>
        refine .inr ?_
        rw [hstands, Option.toList_some, List.dropLast_concat, String.ofList_toList]
  obtain ⟨hsame, hle⟩ | ⟨hshorter, hlt⟩ := selected_cases values value
  · rw [hsame]
    rcases hfits with rfl | rfl
    · exact .inl rfl
    · rcases Nat.lt_or_eq_of_le hle with hlt | heq
      · exact .inr hlt
      · exact .inl ((List.idxOf_inj hother).mp heq.symm).symm
  · rw [hshorter]
    rcases hfits with rfl | rfl
    · exact .inr hlt
    · exact .inl rfl

theorem idxOf_toList (values : List String) (value : String) :
    (values.map String.toList).idxOf value.toList = values.idxOf value := by
  induction values with
  | nil => rfl
  | cons first values ih =>
      have hsame : (first.toList == value.toList) = (first == value) := by
        rw [Bool.eq_iff_iff, beq_iff_eq, beq_iff_eq]
        exact String.toList_inj
      rw [List.map_cons, List.idxOf_cons, List.idxOf_cons, ih, hsame]

-- A split of a slash and a value in one segment takes the slash, the value and nothing else, or it
-- does not take the slash first.
theorem fill_of_splits {rules : String → Rule} {parameter : Parameter} {fills : List (Option Fill)}
    {close : Bool} (hrequired : parameter.required = true) (hslash : '/' ∉ value.toList)
    (h : Splits rules [.slot true parameter] fills close ('/' :: value.toList)) :
    ∃ fill : Fill, fills = [some fill] ∧ (rules parameter.name).accepts fill.value = true ∧
      (fill.slash = false ∨
        fill.slash = true ∧ value.toList = fill.value ++ fill.stray.toList) := by
  generalize hpath : '/' :: value.toList = path at h
  cases h with
  | omitted _ _ hoptional =>
      rw [hrequired] at hoptional
      cases hoptional
  | filled _ _ fill hvalue _ hrest =>
      cases hrest
      refine ⟨fill, rfl, hvalue, ?_⟩
      cases hfill : fill.slash with
      | false => exact .inl rfl
      | true =>
          have hrest : value.toList = fill.value ++ fill.stray.toList ++ slashText close := by
            simpa [Fill.text, slashText, hfill] using hpath
          cases close with
          | false => exact .inr ⟨rfl, by simpa [slashText] using hrest⟩
          | true =>
              rw [hrest] at hslash
              simp [slashText] at hslash

-- Of the splits of a slash and a listed value, the first fills in what is selected.
theorem first_selected {rules : String → Rule} {name : String} (hrule : rules name = .among values)
    (hmem : value ∈ values) (hslash : '/' ∉ value.toList) :
    ∃ stray, First rules [.slot true ⟨name, true⟩]
      [some ⟨true, (selected values value).toList, stray⟩] ('/' :: value.toList) := by
  obtain ⟨hlisted, stray, hstands⟩ := selected_spec hmem
  let fill : Fill := ⟨true, (selected values value).toList, stray⟩
  have haccepts : (rules name).accepts fill.value = true := by
    rw [hrule, Rule.accepts, List.contains_iff_mem]
    exact List.mem_map_of_mem hlisted
  have hstray : fill.stray ≠ some '/' := by
    rintro (h : stray = some '/')
    rw [hstands, h] at hslash
    simp at hslash
  refine ⟨stray, ⟨false, ?_⟩, fun fills close hsplit => ?_⟩
  · have htext : '/' :: value.toList = fill.text ++ slashText false := by
      simp [fill, Fill.text, slashText, hstands]
    rw [htext]
    exact .filled true ⟨name, true⟩ fill haccepts hstray (.done false)
  · obtain ⟨⟨slash, taken, left⟩, rfl, hvalue, hfill⟩ := fill_of_splits rfl hslash hsplit
    rcases hfill with hmissing | ⟨htaken, hrest⟩
    · exact .inr (.fill true ⟨name, true⟩ (.inl ⟨rfl, hmissing⟩))
    obtain rfl : slash = true := htaken
    rw [hrule, Rule.accepts, List.contains_iff_mem] at hvalue
    obtain ⟨other, hother, rfl⟩ := List.mem_map.mp hvalue
    rcases selected_first hother hrest with hsame | hbefore
    · have htail : stray.toList = left.toList := by
        rw [hstands, hsame] at hrest
        exact List.append_cancel_left hrest
      have hleft : left = stray := by simpa using congrArg List.head? htail.symm
      rw [hleft, hsame]
      exact .inl rfl
    · refine .inr (.fill true ⟨name, true⟩ (.inr ⟨rfl, .inl ?_⟩))
      rw [hrule, Rule.Prefers, idxOf_toList, idxOf_toList]
      exact hbefore

-- The template of such a route.
theorem parts?_listed {front name : String} (hopen : '\x7b' ∉ front.toList)
    (hname : Text.isIdentifier name.toList) :
    parts? default none (front ++ "/\x7b" ++ name ++ "\x7d").toList =
      some (front.toList.map .literal ++ [.slot true ⟨name, true⟩]) := by
  have hclose : (default : Config).paramClose ∉ name.toList :=
    not_mem_identifier hname (by decide +kernel) (by decide +kernel)
  have hparameter : parameterOf default name.toList = ⟨name, true⟩ := by
    simpa using @parameterOf_body ⟨name, true⟩ hname
  have hbody : parts? default (some []) (name.toList ++ ['\x7d']) =
      some [.slot false ⟨name, true⟩] := by
    have h := @parts?_body default _ hclose [] []
    rw [List.nil_append, hparameter] at h
    exact h
  have hlast : parts? default none ('/' :: '\x7b' :: (name.toList ++ ['\x7d'])) =
      some [.slot true ⟨name, true⟩] := by
    have hslot : parts? default none ('\x7b' :: (name.toList ++ ['\x7d'])) =
        some [.slot false ⟨name, true⟩] := hbody
    rw [parts?, if_neg (by decide), hslot]
    rfl
  have htext : (front ++ "/\x7b" ++ name ++ "\x7d").toList =
      front.toList ++ '/' :: '\x7b' :: (name.toList ++ ['\x7d']) := by
    have hfirst : "/\x7b".toList = ['/', '\x7b'] := by decide
    have hend : "\x7d".toList = ['\x7d'] := by decide
    simp [String.toList_append, hfirst, hend]
  rw [htext]
  exact parts?_before hopen hlast rfl

-- What a route consists of before anything is set.
def plainDefinition (config : Config) (template : String) (callback : Callback) :
    RouteDefinition where
  template := template
  callback := callback
  settings := default
  name := .null
  defaultNamespace := .null
  override := none
  config := config

theorem make_result {template : String} {callback : Value} {found : Callback}
    (h : Callback.ofValue config callback = .ok found) :
    (make config template callback).result =
      (ofDefinition (plainDefinition config template found)).result := by
  rw [make, Logged.result_bind]
  show Callback.ofValue config callback >>= _ = _
  rw [h, Except.bind_ok]
  rfl

-- A route without settings takes the listed values as the constraint of the placeholder.
theorem constrainIn_result {route : Route} {given : Value} (name : String)
    (hroute : route.settings = {}) (hgiven : readChoices given = .ok values) (hne : values ≠ []) :
    ∃ settings : Settings, settings.constraints = [(.str name, choicePattern values)] ∧
      (route.constrainIn (.str name) given).result = (route.withSettings settings).result := by
  have hsome : values.isEmpty = false := by simpa using hne
  have hread : Settings.ofFields
      { route.settings.fields with
        constraints := .mapping (Entries.update route.settings.constraintValues
          [(.str name, .str (choicePattern values))]) } =
      .ok (Settings.ofParts .null [] [(.str name, choicePattern values)] [] []) := by
    rw [hroute]
    rfl
  refine ⟨Settings.ofParts .null [] [(.str name, choicePattern values)] [] [], rfl, ?_⟩
  rw [constrainIn, Logged.result_bind]
  show readChoices given >>= _ = _
  rw [hgiven, Except.bind_ok, hsome, if_neg (by decide), constrain, Logged.result_bind]
  show Except.ok [(Value.str name, Value.str (choicePattern values))] >>= _ = _
  rw [Except.bind_ok, withFields, Logged.result_bind]
  show Settings.ofFields _ >>= _ = _
  rw [hread, Except.bind_ok]

variable {front name : String}

-- Such a template compiles, whatever of the two the placeholder is to be.
theorem exists_listed (constraints : Constraints) (hopen : '\x7b' ∉ front.toList)
    (hname : Text.isIdentifier name.toList)
    (hfits : Regex.Fits (constraintFor default constraints name)) :
    ∃ pattern, (Pattern.ofTemplate default constraints
      (front ++ "/\x7b" ++ name ++ "\x7d")).result = .ok pattern := by
  have hslots : slots (front.toList.map .literal ++ [.slot true ⟨name, true⟩]) =
      [⟨name, true⟩] := slots_literals _ _
  refine exists_ofTemplate rfl (parts?_listed hopen hname) ?_ ?_ ?_
  · rw [hslots]
    simpa using hname
  · rw [hslots]
    simp
  · rw [hslots]
    simpa using hfits

-- A route can be made whose last placeholder is one of the listed values, and each of them is
-- matched where it stands.
theorem match?_selected {callback given : Value} {found : Callback}
    (hopen : '\x7b' ∉ front.toList) (hname : Text.isIdentifier name.toList)
    (hcallback : Callback.ofValue default callback = .ok found)
    (hgiven : readChoices given = .ok values) (hne : values ≠ []) (hempty : "" ∉ values)
    (hslash : ∀ value ∈ values, '/' ∉ value.toList) :
    ∃ route made : Route,
      (make default (front ++ "/\x7b" ++ name ++ "\x7d") callback).result = .ok route ∧
      (route.constrainIn (.str name) given).result = .ok made ∧
      ∀ value ∈ values, made.match? (front ++ "/" ++ value) =
        .ok (some [(name, selected values value)]) := by
  obtain ⟨pattern₀, hpattern₀⟩ := exists_listed [] hopen hname Regex.standalone_default.fits
  obtain ⟨route, hroute, hdefinition, -⟩ := exists_ofDefinition
    (plainDefinition default _ found) hpattern₀
  have hsettings : route.settings = {} := congrArg RouteDefinition.settings hdefinition
  obtain ⟨settings, hconstraints, hconstrained⟩ :=
    constrainIn_result name hsettings hgiven hne
  have hconstraint : Entries.get? [(Value.str name, choicePattern values)] (.str name) =
      some (choicePattern values) := by
    simp [Entries.get?]
  have hfits : Regex.Fits (constraintFor default [(.str name, choicePattern values)] name) := by
    rw [constraintFor, hconstraint]
    exact (readable_choicePattern hne).fits
  obtain ⟨pattern, hpattern⟩ := exists_listed _ hopen hname hfits
  have hcompile : (RouteDefinition.compile { route.toRouteDefinition with settings }).result =
      .ok pattern := by
    rw [hdefinition, ← hpattern, ← hconstraints]
    rfl
  obtain ⟨made, hmade, -, hmatches⟩ := exists_ofDefinition _ hcompile
  refine ⟨route, made, (make_result hcallback).trans hroute, hconstrained.trans hmade, ?_⟩
  intro value hmem
  let rules : String → Rule := fun _ => .among values
  have hgoverned : Governed default [(.str name, choicePattern values)] rules
      (slots (front.toList.map .literal ++ [.slot true ⟨name, true⟩])) := by
    rw [slots_literals]
    refine governed_of_stated rfl fun parameter hparameter => ?_
    obtain rfl : parameter = ⟨name, true⟩ := List.mem_singleton.mp hparameter
    exact ⟨hconstraint, hne, hempty⟩
  have hrule : rules name = .among values := rfl
  obtain ⟨stray, hfirst⟩ := first_selected hrule hmem (hslash value hmem)
  have hpath : (front ++ "/" ++ value).toList = front.toList ++ '/' :: value.toList := by
    have hsign : "/".toList = ['/'] := by decide
    simp [String.toList_append, hsign]
  have hfirst := hfirst.literals front.toList
  rw [← hpath] at hfirst
  rw [Route.match?, hmatches,
    match?_of_first rfl rfl hpattern (parts?_listed hopen hname) hgoverned hfirst, bound_literals]
  simp [bound, String.ofList_toList]

-- What is listed before its start is bound as a whole, and what is listed after it is not.
theorem match?_selected_size :
    ∃ route made : Route,
      (make default ("/shirts" ++ "/\x7b" ++ "size" ++ "\x7d") (.str "Shirts@show")).result =
        .ok route ∧
      (route.constrainIn (.str "size") (.list [.str "xs", .str "x", .str "xl"])).result =
        .ok made ∧
      made.match? ("/shirts" ++ "/" ++ "xs") = .ok (some [("size", "xs")]) ∧
      made.match? ("/shirts" ++ "/" ++ "xl") = .ok (some [("size", "x")]) := by
  obtain ⟨found, hcallback⟩ : ∃ found, Callback.ofValue default (.str "Shirts@show") = .ok found :=
    Except.exists_ok_of_isOk (by decide +kernel)
  have hgiven : readChoices (.list [.str "xs", .str "x", .str "xl"]) = .ok ["xs", "x", "xl"] := rfl
  obtain ⟨route, made, hroute, hmade, hmatch⟩ := @match?_selected _ "/shirts" "size" _ _ _
    (by decide) (by decide +kernel) hcallback hgiven (by decide) (by decide) (by decide)
  refine ⟨route, made, hroute, hmade, ?_, ?_⟩
  · exact hmatch "xs" (by decide)
  · exact hmatch "xl" (by decide)

-- So a listed value is not always bound where it stands.
theorem listed_value_cut :
    ∃ route made : Route,
      (make default "/\x7bx\x7d" (.str "Feed@show")).result = .ok route ∧
      (route.constrainIn (.str "x") (.list [.str "a", .str "ab"])).result = .ok made ∧
      made.match? "/ab" = .ok (some [("x", "a")]) ∧
      made.match? "/ab" ≠ .ok (some [("x", "ab")]) := by
  have hseen : (make default "/\x7bx\x7d" (.str "Feed@show")).result.toOption.bind (fun route =>
      (route.constrainIn (.str "x") (.list [.str "a", .str "ab"])).result.toOption.bind fun made =>
        (made.match? "/ab").toOption) = some (some [("x", "a")]) := by decide +kernel
  obtain ⟨route, hroute, hseen⟩ := Except.exists_ok_of_bind hseen
  obtain ⟨made, hmade, hmatch⟩ := Except.exists_ok_of_bind hseen
  have hmatch := Except.eq_ok_of_toOption hmatch
  refine ⟨route, made, hroute, hmade, hmatch, ?_⟩
  rw [hmatch]
  simp

end Route

end Signpost

import Signpost.Proofs.Dispatch.Positional

namespace Signpost

open Dispatch (bound)

namespace Pattern

variable {pattern : Pattern} {path : String} {matched : Bindings}

theorem name_of_bind {regex : Regex} {found : Regex.Spot} {parameter : Parameter}
    {binding : String × String} (h : bind? regex found parameter = .ok (some binding)) :
    binding.1 = parameter.name := by
  unfold bind? at h
  split at h
  · cases h
  · split at h
    · rw [← Option.some.inj (Except.ok.inj h)]
    · split at h <;> cases h

theorem keys_sublist_of_binds {regex : Regex} {found : Regex.Spot} {parameters : List Parameter}
    {bound : List (Option (String × String))}
    (h : parameters.mapM (bind? regex found) = .ok bound) :
    (Entries.keys (bound.filterMap id)).Sublist (parameters.map (·.name)) := by
  induction parameters generalizing bound with
  | nil =>
      obtain rfl : [] = bound := Except.ok.inj h
      exact .slnil
  | cons parameter parameters ih =>
      rw [List.mapM_cons] at h
      obtain ⟨first, hfirst, h⟩ := Except.bind_eq_ok.mp h
      obtain ⟨others, hothers, h⟩ := Except.bind_eq_ok.mp h
      obtain rfl : first :: others = bound := Except.ok.inj h
      cases first with
      | none => exact (ih hothers).cons _
      | some binding =>
          have hname := name_of_bind hfirst
          simpa [Entries.keys, hname] using ih hothers

-- A match binds names of the pattern, in the order of the pattern.
theorem keys_sublist_of_match (hnodup : pattern.parameterNames.Nodup)
    (h : pattern.match? path = .ok (some matched)) :
    (Entries.keys matched).Sublist pattern.parameterNames := by
  unfold match? at h
  split at h
  · cases h
  next found _ =>
    obtain ⟨bound, hbound, h⟩ := Except.bind_eq_ok.mp h
    have hkeys := keys_sublist_of_binds hbound
    have hdistinct : Entries.Distinct (bound.filterMap id) :=
      Entries.distinct_iff_keys.mpr
        ((hkeys.nodup hnodup).imp fun hne => beq_eq_false_iff_ne.mpr hne)
    rw [← Option.some.inj (Except.ok.inj h), Entries.ofList_of_distinct hdistinct]
    exact hkeys

end Pattern

namespace Route

variable {route : Route} {path : String} {matched : Bindings}

-- The names under which a route passes arguments: those of its pattern, then those of the
-- configured parameters that the pattern lacks.
def argumentNames (route : Route) : List Value :=
  route.parameterKeys ++
    (Entries.keys route.settings.parameters).filter fun key => !route.parameterKeys.contains key

-- What stands under a name: what the path gave for it, else what is configured, else nothing.
def supplied (route : Route) (matched : Bindings) (name : Value) : Value :=
  ((Entries.get? (bound matched) name).or
    (Entries.get? route.settings.parameters name)).getD .null

-- A pattern has each of its names once, whether it comes of the template or stands in for it.
theorem nodup_parameterNames (route : Route) : route.pattern.parameterNames.Nodup := by
  have hcompiled := route.compiled
  unfold RouteDefinition.compile at hcompiled
  split at hcompiled
  next text _ =>
    obtain ⟨regex, hregex, hpattern⟩ := Except.bind_eq_ok.mp hcompiled
    rw [← Except.ok.inj hpattern, Pattern.parameterNames, List.map_map]
    exact Regex.nodup_names_of_compile (Except.eq_ok_of_mapError hregex)
  next =>
    obtain ⟨text, hread, -⟩ := Template.read_of_ofTemplate hcompiled
    obtain ⟨parts, -, -, -, hsound⟩ := Template.read_eq_ok hread
    exact hsound.names

theorem beq_of_not_contains {key name : Value} (hkey : route.parameterKeys.contains key = false)
    (hname : name ∈ route.parameterKeys) : (name == key) = false := by
  rw [List.contains_eq_any_beq, List.any_eq_false] at hkey
  obtain ⟨text, -, rfl⟩ := List.mem_map.mp hname
  have hfixed : (Value.str text).fixed = true := rfl
  rw [Value.beq_comm_of_fixed hfixed]
  exact Bool.eq_false_iff.mpr (hkey _ hname)

theorem distinct_argumentNames (route : Route) :
    route.argumentNames.Pairwise fun name later => (name == later) = false := by
  refine List.pairwise_append.mpr ⟨?_, ?_, ?_⟩
  · refine List.pairwise_map.mpr (route.nodup_parameterNames.imp fun hne => ?_)
    rw [Value.str_beq]
    exact beq_eq_false_iff_ne.mpr hne
  · exact (Entries.distinct_iff_keys.mp route.settings.parameters_distinct).filter _
  · intro name hname key hkey
    have hother := (List.mem_filter.mp hkey).2
    rw [Bool.not_eq_true'] at hother
    exact beq_of_not_contains hother hname

-- A path says nothing about the configured parameters that the pattern lacks.
theorem supplied_of_mem_extras (h : route.match? path = .ok (some matched))
    {entry : Value × Value} (hmem : entry ∈ route.extras) :
    route.supplied matched entry.1 = entry.2 := by
  obtain ⟨hentry, hkey⟩ := List.mem_filter.mp hmem
  rw [Bool.not_eq_true'] at hkey
  have hkeys := Pattern.keys_sublist_of_match route.nodup_parameterNames h
  have hunbound : Entries.get? (bound matched) entry.1 = none := by
    apply Entries.get?_eq_none
    intro other hother
    obtain ⟨binding, hbinding, rfl⟩ := List.mem_map.mp hother
    have hname := hkeys.subset (List.mem_map_of_mem hbinding)
    exact beq_of_not_contains hkey (List.mem_map_of_mem hname)
  rw [supplied, hunbound, Entries.get?_of_mem route.settings.parameters_distinct hentry]
  rfl

-- The names come from the route, and each comes with what is supplied for it.
theorem arguments_of_match (h : route.match? path = .ok (some matched)) :
    route.arguments (bound matched) =
      route.argumentNames.map fun name => (name, route.supplied matched name) := by
  have htemplate : route.parameterKeys.map (route.argument (bound matched)) =
      route.parameterKeys.map fun name => (name, route.supplied matched name) := by
    refine List.map_congr_left fun name _ => ?_
    rw [argument, supplied]
    cases Entries.get? (bound matched) name <;> rfl
  have hextras : route.extras =
      route.extras.map fun entry => (entry.1, route.supplied matched entry.1) := by
    symm
    refine (List.map_congr_left fun entry hmem => ?_).trans (List.map_id _)
    rw [supplied_of_mem_extras h hmem]
    rfl
  rw [arguments, htemplate, argumentNames, List.map_append]
  congr 1
  refine hextras.trans ?_
  rw [Entries.keys, List.filter_map, List.map_map]
  rfl

theorem keys_arguments (h : route.match? path = .ok (some matched)) :
    Entries.keys (route.arguments (bound matched)) = route.argumentNames := by
  rw [arguments_of_match h, Entries.keys, List.map_map]
  exact List.map_id _

theorem get?_arguments (h : route.match? path = .ok (some matched)) {name : Value}
    (hname : name ∈ route.argumentNames) :
    Entries.get? (route.arguments (bound matched)) name = some (route.supplied matched name) := by
  have hdistinct : Entries.Distinct (route.arguments (bound matched)) := by
    rw [Entries.distinct_iff_keys, keys_arguments h]
    exact route.distinct_argumentNames
  have hmem : (name, route.supplied matched name) ∈ route.arguments (bound matched) := by
    rw [arguments_of_match h]
    exact List.mem_map_of_mem hname
  exact Entries.get?_of_mem hdistinct hmem

end Route

-- Arguments keep their places. Whatever path is matched, the names of the arguments are those of
-- the route, in one order and without repetition, and under each stands what is supplied for it.
-- So each place in the call of a function belongs to one name, whatever the path leaves out.
theorem Dispatch.arguments_in_place (route : Route) {path path' : String}
    {matched matched' : Bindings} (h : route.match? path = .ok (some matched))
    (h' : route.match? path' = .ok (some matched')) :
    Entries.keys (route.arguments (bound matched)) = route.argumentNames ∧
    Entries.keys (route.arguments (bound matched')) = route.argumentNames ∧
    (route.argumentNames.Pairwise fun name later => (name == later) = false) ∧
    (∀ name ∈ route.argumentNames,
      Entries.get? (route.arguments (bound matched)) name = some (route.supplied matched name) ∧
      Entries.get? (route.arguments (bound matched')) name =
        some (route.supplied matched' name)) ∧
    ∀ f, route.callback = .function f →
      ∀ {σ : Type} (host : Host σ) (registry : Registry σ) (state : σ),
        (serve host ⟨route, path, registry⟩ state).events =
          [.call (.function f (route.argumentNames.map (route.supplied matched)))] ∧
        (serve host ⟨route, path', registry⟩ state).events =
          [.call (.function f (route.argumentNames.map (route.supplied matched')))] := by
  have hvalues : ∀ {path : String} {matched : Bindings},
      route.match? path = .ok (some matched) →
      (route.arguments (bound matched)).map (·.2) =
        route.argumentNames.map (route.supplied matched) := by
    intro path matched h
    rw [Route.arguments_of_match h, List.map_map]
    rfl
  refine ⟨Route.keys_arguments h, Route.keys_arguments h', route.distinct_argumentNames,
    fun name hname => ⟨Route.get?_arguments h hname, Route.get?_arguments h' hname⟩, ?_⟩
  intro f hcallback σ host registry state
  have hcall := (course_serve host ⟨route, path, registry⟩ state).of_function hcallback h
  have hcall' := (course_serve host ⟨route, path', registry⟩ state).of_function hcallback h'
  rw [hcall, hcall']
  exact ⟨by rw [← hvalues h], by rw [← hvalues h']⟩

-- A pattern of its own whose two names are both optional, and two configured parameters, one of
-- them for a name of the pattern: the root gives nothing, and the other path gives both.
theorem Dispatch.arguments_in_place_optional :
    let echo : FunctionRef := ⟨"echo", some Sample.functionsModule, "echo", "function"⟩
    let registry : Registry Sample.World := Registry.ofFactories []
    ∃ route : Route, route.match? "/" = .ok (some []) ∧
      route.match? "/a-7" = .ok (some [("kind", "a"), ("id", "7")]) ∧
      route.callback = .function echo ∧
      route.argumentNames.map Value.text = ["'kind'", "'id'", "'page'"] ∧
      Entries.keys (route.arguments (bound [])) = route.argumentNames ∧
      Entries.keys (route.arguments (bound [("kind", "a"), ("id", "7")])) =
        route.argumentNames ∧
      ∃ values values', values.map Value.text = ["'all'", "None", "1"] ∧
        values'.map Value.text = ["'a'", "'7'", "1"] ∧
        (serve Sample.host ⟨route, "/", registry⟩ []).events = [.call (.function echo values)] ∧
        (serve Sample.host ⟨route, "/a-7", registry⟩ []).events =
          [.call (.function echo values')] := by
  intro echo registry
  let full : Bindings := [("kind", "a"), ("id", "7")]
  let written := fun values : List Value => values.map Value.text
  have hseen : (Route.make default "/x" (.function echo)).result.toOption.bind (fun made =>
      (made.withOverride
          (.str "/(?P<kind>[a-z]+)?(?:-(?P<id>[0-9]+))?")).result.toOption.bind fun fixed =>
        (fixed.withParameters
            [(.str "kind", .str "all"), (.str "page", .int 1)]).result.toOption.bind fun route =>
          some (decide ((route.match? "/").toOption = some (some [])),
            decide ((route.match? "/a-7").toOption = some (some full)),
            decide (route.callback = .function echo),
            [written route.argumentNames,
              written (route.argumentNames.map (route.supplied [])),
              written (route.argumentNames.map (route.supplied full))])) =
      some (true, true, true,
        [["'kind'", "'id'", "'page'"], ["'all'", "None", "1"], ["'a'", "'7'", "1"]]) := by
    decide +kernel
  obtain ⟨made, -, hseen⟩ := Except.exists_ok_of_bind hseen
  obtain ⟨fixed, -, hseen⟩ := Except.exists_ok_of_bind hseen
  obtain ⟨route, -, hseen⟩ := Except.exists_ok_of_bind hseen
  simp only [Option.some.injEq, Prod.mk.injEq, decide_eq_true_eq, List.cons.injEq,
    and_true] at hseen
  obtain ⟨hroot, hfull, hcallback, hnames, hvalues, hvalues'⟩ := hseen
  have hroot := Except.eq_ok_of_toOption hroot
  have hfull := Except.eq_ok_of_toOption hfull
  obtain ⟨hkeys, hkeys', -, -, hcalls⟩ := Dispatch.arguments_in_place route hroot hfull
  obtain ⟨hcall, hcall'⟩ := hcalls echo hcallback Sample.host registry []
  exact ⟨route, hroot, hfull, hcallback, hnames, hkeys, hkeys', _, _, hvalues, hvalues', hcall,
    hcall'⟩

end Signpost

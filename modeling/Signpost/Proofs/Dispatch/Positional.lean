import Signpost.Proofs.Dispatch.Serving
import Signpost.Proofs.Route.Equality

namespace Signpost

namespace Route

open Value (Alike)

variable {a b : Route}

-- The configured parameters that the template does not name.
def extras (route : Route) : Arguments :=
  route.settings.parameters.filter fun entry => !route.parameterKeys.contains entry.1

-- What is passed for the parameters of the template.
def templateValues (route : Route) (matched : Arguments) : List Value :=
  route.parameterKeys.map fun name => (route.argument matched name).2

theorem values_arguments (route : Route) (matched : Arguments) :
    (route.arguments matched).map (·.2) =
      route.templateValues matched ++ route.extras.map (·.2) := by
  rw [arguments, List.map_append, List.map_map]
  rfl

-- A template without placeholders leaves the configured parameters as they are.
theorem arguments_of_no_keys {route : Route} (h : route.parameterKeys = []) (matched : Arguments) :
    route.arguments matched = route.settings.parameters := by
  rw [arguments, h]
  exact List.filter_eq_self.mpr fun _ _ => rfl

theorem parameterKeys_of_compilesAs (h : a.toRouteDefinition.CompilesAs b.toRouteDefinition) :
    a.parameterKeys = b.parameterKeys := by
  obtain ⟨-, hparameters⟩ := h.same_pattern a.compiled b.compiled
  rw [parameterKeys, parameterKeys, Pattern.parameterNames, Pattern.parameterNames, hparameters]

-- The parameters of the template are passed alike.
theorem sameAll_templateValues (hkeys : a.settings.KeysFixed)
    (h : a.toRouteDefinition.Agree b.toRouteDefinition) (matched : Arguments) :
    Value.sameAll (a.templateValues matched) (b.templateValues matched) = true := by
  rw [Value.sameAll_iff, templateValues, templateValues,
    ← parameterKeys_of_compilesAs (h.compilesAs hkeys), List.forall₂_map_left_iff,
    List.forall₂_map_right_iff, List.forall₂_same]
  intro key hkey
  obtain ⟨name, -, rfl⟩ := List.mem_map.mp hkey
  have hfixed : (Value.str name).fixed = true := rfl
  have hrel := Value.get?_rel h.settings.parameters hkeys.keyed_parameters
    (h.settings.keysFixed hkeys).keyed_parameters hfixed
  rw [argument, argument]
  dsimp only
  cases Entries.get? matched (Value.str name) with
  | some value => exact Value.same_refl value
  | none =>
      generalize Entries.get? a.settings.parameters (.str name) = first at hrel ⊢
      generalize Entries.get? b.settings.parameters (.str name) = second at hrel ⊢
      cases hrel with
      | none => exact Value.same_refl .null
      | some hequal => exact hequal

-- Of two equal keys the template names both or none.
theorem contains_parameterKeys {route : Route} {key other : Value} (h : (key == other) = true) :
    route.parameterKeys.contains key = route.parameterKeys.contains other := by
  rw [parameterKeys, List.contains_eq_any_beq, List.contains_eq_any_beq, List.any_map,
    List.any_map]
  congr 1
  funext name
  exact Value.beq_str_congr h name

-- The other parameters are the same ones, in an order of their own.
theorem exists_perm_extras (hkeys : a.settings.KeysFixed)
    (h : a.toRouteDefinition.Agree b.toRouteDefinition) :
    ∃ ordered, ordered.Perm b.extras ∧ List.Forall₂ Alike a.extras ordered := by
  obtain ⟨ordered, hperm, halike⟩ := Value.exists_perm_of_mapping_beq h.settings.parameters
    a.settings.parameters_distinct hkeys.parameters
  have hnames := parameterKeys_of_compilesAs (h.compilesAs hkeys)
  refine ⟨_, hperm.filter _, List.rel_filter ?_ halike⟩
  intro entry other hentry
  dsimp only
  rw [hnames, contains_parameterKeys hentry.1]

-- They are passed alike where they come in the same order.
theorem sameAll_extras (hkeys : a.settings.KeysFixed)
    (h : a.toRouteDefinition.Agree b.toRouteDefinition)
    (horder : List.Forall₂ (fun key other : Value => (key == other) = true)
      (Entries.keys a.extras) (Entries.keys b.extras)) :
    Value.sameAll (a.extras.map (·.2)) (b.extras.map (·.2)) = true := by
  rw [Entries.keys, Entries.keys, List.forall₂_map_left_iff, List.forall₂_map_right_iff] at horder
  rw [Value.sameAll_iff, List.forall₂_map_left_iff, List.forall₂_map_right_iff,
    List.forall₂_iff_zip]
  refine ⟨horder.length_eq, fun {entry other} hmem => ?_⟩
  obtain ⟨hentry, hother⟩ := List.of_mem_zip hmem
  have hentry := List.mem_of_mem_filter hentry
  exact Value.value_beq_of_key_beq h.settings.parameters b.settings.parameters_distinct hentry
    (hkeys.parameters entry hentry) (List.mem_of_mem_filter hother)
    (List.forall₂_zip horder hmem)

-- Parameters that are added come behind those that were there.
theorem parameters_of_withParameters {route next : Route} {parameters : Arguments}
    (h : (route.withParameters parameters).result = .ok next) :
    next.settings.parameters = Entries.update route.settings.parameters parameters := by
  rw [withParameters, result_withFields] at h
  obtain ⟨settings, hsettings, h⟩ := Except.bind_eq_ok.mp h
  rw [settings_of_withSettings h]
  exact (Settings.states_of_ofFields hsettings).parameters _ rfl
    (Entries.distinct_update route.settings.parameters_distinct parameters)

end Route

namespace Dispatch

variable {σ : Type} {host : Host σ} {request : Request σ} {state after : σ} {error : Error}
  {matched : Bindings} {f : FunctionRef} {result : Except Error (Option Dispatched)}
  {events : List Event}

theorem Course.of_error (h : Course host request state result events after)
    (hmatch : request.route.match? request.path = .error error) :
    result = .error error ∧ events = [] := by
  cases h with
  | unmatchable hmatch' => exact ⟨by rw [Except.error.inj (hmatch.symm.trans hmatch')], rfl⟩
  | unmatched hmatch' => cases hmatch.symm.trans hmatch'
  | unresolved hmatch' => cases hmatch.symm.trans hmatch'
  | called hmatch' => cases hmatch.symm.trans hmatch'

theorem Course.of_none (h : Course host request state result events after)
    (hmatch : request.route.match? request.path = .ok none) : result = .ok none ∧ events = [] := by
  cases h with
  | unmatchable hmatch' => cases hmatch.symm.trans hmatch'
  | unmatched hmatch' => exact ⟨rfl, rfl⟩
  | unresolved hmatch' => cases hmatch.symm.trans hmatch'
  | called hmatch' => cases hmatch.symm.trans hmatch'

theorem Passes.of_function {arguments : Arguments} {handler : Handler} {invocation : Invocation}
    (h : Passes request state arguments handler invocation)
    (hcallback : request.route.callback = .function f) :
    invocation = .function f (arguments.map (·.2)) := by
  cases h with
  | function hcallback' =>
      obtain rfl := Callback.function.inj (hcallback.symm.trans hcallback')
      rfl
  | method hcallback' => cases hcallback.symm.trans hcallback'

-- A function is there without being looked up, so nothing stands between a match and its call.
theorem Course.of_function (h : Course host request state result events after)
    (hcallback : request.route.callback = .function f)
    (hmatch : request.route.match? request.path = .ok (some matched)) :
    events = [.call (.function f ((request.route.arguments (bound matched)).map (·.2)))] := by
  have hlookups : lookups request.route = [] := by
    rw [lookups, qualifiedName, hcallback]
    rfl
  have hresolve : resolveTarget host request.registry request.route =
      pure ⟨.function f, request.route.callback.identifier⟩ := by
    rw [resolveTarget, hcallback]
  cases h with
  | unmatchable hmatch' => cases hmatch.symm.trans hmatch'
  | unmatched hmatch' => cases hmatch.symm.trans hmatch'
  | unresolved hmatch' htarget =>
      rw [hresolve] at htarget
      cases htarget
  | called hmatch' htarget hpasses hcall =>
      obtain rfl := Option.some.inj (Except.ok.inj (hmatch.symm.trans hmatch'))
      rw [hlookups, hpasses.of_function hcallback]
      rfl

end Dispatch

-- Equal routes to one function lead to the same on each path. Either both match nothing, or both
-- fail with one error, and nothing is called; or both call the function once. What they pass for
-- the parameters of the template is equal one by one. What they pass behind it is the same, but
-- each route keeps the order in which its parameters came; if that is one order, all is equal.
theorem Dispatch.equal_routes_call_alike {σ : Type} (host : Host σ) {a b : Route}
    {f : FunctionRef} (hsame : (a == b) = true) (hkeys : a.settings.KeysFixed)
    (hcallback : a.callback = .function f) :
    b.callback = .function f ∧
    (∃ ordered, ordered.Perm b.extras ∧ List.Forall₂ Value.Alike a.extras ordered) ∧
    ∀ (path : String) (registry registry' : Registry σ) (state state' : σ),
      let first := serve host ⟨a, path, registry⟩ state
      let second := serve host ⟨b, path, registry'⟩ state'
      (first.outcome.result = .ok none ∧ second.outcome.result = .ok none ∧
        first.events = [] ∧ second.events = []) ∨
      (∃ error, first.outcome.result = .error error ∧ second.outcome.result = .error error ∧
        first.events = [] ∧ second.events = []) ∨
      ∃ values values', values.length = a.parameterKeys.length ∧
        Value.sameAll values values' = true ∧
        first.events = [.call (.function f (values ++ a.extras.map (·.2)))] ∧
        second.events = [.call (.function f (values' ++ b.extras.map (·.2)))] ∧
        (List.Forall₂ (fun key other : Value => (key == other) = true)
            (Entries.keys a.extras) (Entries.keys b.extras) →
          Value.sameAll (values ++ a.extras.map (·.2)) (values' ++ b.extras.map (·.2)) = true) := by
  have hagree := Route.agree_iff.mp hsame
  have hcallback' : b.callback = .function f := hagree.callback ▸ hcallback
  refine ⟨hcallback', Route.exists_perm_extras hkeys hagree, ?_⟩
  intro path registry registry' state state'
  have hmatch := Route.match?_eq_of_compilesAs (hagree.compilesAs hkeys) path
  have hfirst := course_serve host ⟨a, path, registry⟩ state
  have hsecond := course_serve host ⟨b, path, registry'⟩ state'
  cases hanswer : a.match? path with
  | error error =>
      obtain ⟨hresult, hevents⟩ := hfirst.of_error hanswer
      obtain ⟨hresult', hevents'⟩ := hsecond.of_error (hmatch.symm.trans hanswer)
      exact .inr (.inl ⟨error, hresult, hresult', hevents, hevents'⟩)
  | ok matched? =>
      cases matched? with
      | none =>
          obtain ⟨hresult, hevents⟩ := hfirst.of_none hanswer
          obtain ⟨hresult', hevents'⟩ := hsecond.of_none (hmatch.symm.trans hanswer)
          exact .inl ⟨hresult, hresult', hevents, hevents'⟩
      | some matched =>
          have hevents := hfirst.of_function hcallback hanswer
          have hevents' := hsecond.of_function hcallback' (hmatch.symm.trans hanswer)
          have hvalues := Route.sameAll_templateValues hkeys hagree (bound matched)
          rw [Route.values_arguments] at hevents hevents'
          refine .inr (.inr ⟨_, _, List.length_map _, hvalues, hevents, hevents', fun horder => ?_⟩)
          have hextras := Route.sameAll_extras hkeys hagree horder
          rw [Value.sameAll_iff] at hvalues hextras ⊢
          exact List.rel_append hvalues hextras

-- The same two parameters, set in different orders, behind the one that the path gives.
theorem Dispatch.equal_routes_call_alike_item :
    let echo : FunctionRef := ⟨"echo", some Sample.functionsModule, "echo", "function"⟩
    let registry : Registry Sample.World := Registry.ofFactories []
    ∃ route p q : Route,
      (Route.make default "/item/{id}" (.function echo)).result = .ok route ∧
      (route.withParameters [(.str "a", .int 1), (.str "b", .int 2)]).result = .ok p ∧
      (route.withParameters [(.str "b", .int 2), (.str "a", .bool true)]).result = .ok q ∧
      (p == q) = true ∧ p.settings.KeysFixed ∧ p.callback = .function echo ∧
      q.callback = .function echo ∧
      (∃ ordered, ordered.Perm q.extras ∧ List.Forall₂ Value.Alike p.extras ordered) ∧
      ∃ values values', values.length = p.parameterKeys.length ∧
        Value.sameAll values values' = true ∧
        (serve Sample.host ⟨p, "/item/7", registry⟩ []).events =
          [.call (.function echo (values ++ p.extras.map (·.2)))] ∧
        (serve Sample.host ⟨q, "/item/7", registry⟩ []).events =
          [.call (.function echo (values' ++ q.extras.map (·.2)))] := by
  intro echo registry
  have hseen : (Route.make default "/item/{id}" (.function echo)).result.toOption.bind
      (fun route =>
        (route.withParameters [(.str "a", .int 1), (.str "b", .int 2)]).result.toOption.bind
          fun p =>
        (route.withParameters [(.str "b", .int 2), (.str "a", .bool true)]).result.toOption.bind
          fun q =>
        some (p == q, decide (p.callback = .function echo),
          p.settings.constraints.all (fun entry => entry.1.fixed),
          p.settings.parameters.all (fun entry => entry.1.fixed),
          (serve Sample.host ⟨p, "/item/7", registry⟩ []).events.isEmpty)) =
      some (true, true, true, true, false) := by decide +kernel
  obtain ⟨route, hroute, hseen⟩ := Except.exists_ok_of_bind hseen
  obtain ⟨p, hp, hseen⟩ := Except.exists_ok_of_bind hseen
  obtain ⟨q, hq, hseen⟩ := Except.exists_ok_of_bind hseen
  simp only [Option.some.injEq, Prod.mk.injEq, decide_eq_true_eq] at hseen
  obtain ⟨hsame, hcallback, hconstraints, hparameters, hcalled⟩ := hseen
  have hkeys : p.settings.KeysFixed :=
    ⟨List.all_eq_true.mp hconstraints, List.all_eq_true.mp hparameters⟩
  obtain ⟨hcallback', hextras, hcalls⟩ :=
    Dispatch.equal_routes_call_alike Sample.host hsame hkeys hcallback
  refine ⟨route, p, q, hroute, hp, hq, hsame, hkeys, hcallback, hcallback', hextras, ?_⟩
  obtain ⟨-, -, hnone, -⟩ | ⟨-, -, -, hnone, -⟩ | ⟨values, values', hlength, hvalues, hfirst,
    hsecond, -⟩ := hcalls "/item/7" registry registry [] []
  · rw [hnone] at hcalled
    cases hcalled
  · rw [hnone] at hcalled
    cases hcalled
  · exact ⟨values, values', hlength, hvalues, hfirst, hsecond⟩

-- Two parameters that the template does not name, set in one order and in the other: the routes
-- are equal, and the function gets its arguments in different orders.
theorem Dispatch.equal_routes_call_in_order_set :
    let echo : FunctionRef := ⟨"echo", some Sample.functionsModule, "echo", "function"⟩
    let one : Value × Value := (.str "a", .int 1)
    let two : Value × Value := (.str "b", .int 2)
    ∃ route p q : Route,
      (Route.make default "/x" (.function echo)).result = .ok route ∧
      (route.withParameters [one, two]).result = .ok p ∧
      (route.withParameters [two, one]).result = .ok q ∧
      (p == q) = true ∧ p.callback = .function echo ∧
      (∀ registry state, (serve Sample.host ⟨p, "/x", registry⟩ state).events =
        [.call (.function echo [.int 1, .int 2])]) ∧
      (∀ registry state, (serve Sample.host ⟨q, "/x", registry⟩ state).events =
        [.call (.function echo [.int 2, .int 1])]) ∧
      Value.sameAll [.int 1, .int 2] [.int 2, .int 1] = false := by
  intro echo one two
  let meets := fun made : Route => decide (made.callback = .function echo) &&
    decide ((made.match? "/x").toOption = some (some [])) && made.parameterKeys.isEmpty
  have hseen : (Route.make default "/x" (.function echo)).result.toOption.bind (fun route =>
      (route.withParameters [one, two]).result.toOption.bind fun p =>
        (route.withParameters [two, one]).result.toOption.bind fun q =>
          some (route.settings.parameters.isEmpty, p == q, meets p, meets q)) =
      some (true, true, true, true) := by decide +kernel
  obtain ⟨route, hroute, hseen⟩ := Except.exists_ok_of_bind hseen
  obtain ⟨p, hp, hseen⟩ := Except.exists_ok_of_bind hseen
  obtain ⟨q, hq, hseen⟩ := Except.exists_ok_of_bind hseen
  simp only [Option.some.injEq, Prod.mk.injEq] at hseen
  obtain ⟨hempty, hsame, hp', hq'⟩ := hseen
  -- Without placeholders, what is passed is what was set.
  have hevents : ∀ made entries, (route.withParameters entries).result = .ok made →
      Entries.Distinct entries → meets made = true → ∀ registry state,
      (serve Sample.host ⟨made, "/x", registry⟩ state).events =
        [.call (.function echo (entries.map (·.2)))] := by
    intro made entries hmade hdistinct hmeets registry state
    simp only [meets, Bool.and_eq_true, decide_eq_true_eq, List.isEmpty_iff] at hmeets
    obtain ⟨⟨hcallback, hmatch⟩, hkeys⟩ := hmeets
    have hparameters := Route.parameters_of_withParameters hmade
    rw [List.isEmpty_iff.mp hempty] at hparameters
    have hcalled := (course_serve Sample.host ⟨made, "/x", registry⟩ state).of_function hcallback
      (Except.eq_ok_of_toOption hmatch)
    rw [hcalled, Route.arguments_of_no_keys hkeys, hparameters]
    exact congrArg (fun values : Arguments => [Event.call (.function echo (values.map (·.2)))])
      (Entries.ofList_of_distinct hdistinct)
  have hcallback : p.callback = .function echo := by
    simp only [meets, Bool.and_eq_true, decide_eq_true_eq] at hp'
    exact hp'.1.1
  refine ⟨route, p, q, hroute, hp, hq, hsame, hcallback, ?_, ?_, by decide +kernel⟩
  · exact hevents p [one, two] hp (by simp [Entries.Distinct, one, two]) hp'
  · exact hevents q [two, one] hq (by simp [Entries.Distinct, one, two]) hq'

end Signpost

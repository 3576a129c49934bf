import Signpost.Proofs.Outcome
import Signpost.Route

namespace Signpost.Route

variable {route next : Route} {definition : RouteDefinition}

theorem toRouteDefinition_of_ofCompiled {outcome : Logged Pattern}
    {hcompile : definition.compile = outcome}
    (h : (ofCompiled definition outcome hcompile).result = .ok route) :
    route.toRouteDefinition = definition := by
  unfold ofCompiled at h
  dsimp only at h
  split at h
  · obtain rfl := Except.ok.inj h
    rfl
  · cases h

-- A definition that compiles is a route.
theorem exists_ofDefinition (definition : RouteDefinition) {pattern : Pattern}
    (h : definition.compile.result = .ok pattern) :
    ∃ route : Route, (ofDefinition definition).result = .ok route ∧
      route.toRouteDefinition = definition ∧ route.pattern = pattern := by
  unfold ofDefinition ofCompiled
  dsimp only
  split
  next found hfound =>
    obtain rfl : pattern = found := Except.ok.inj (h.symm.trans hfound)
    exact ⟨_, rfl, rfl, rfl⟩
  next error herror =>
    rw [h] at herror
    cases herror

-- A route holds what its definition compiles to, so the definition tells all of it.
theorem eq_of_toRouteDefinition {a b : Route}
    (h : a.toRouteDefinition = b.toRouteDefinition) : a = b := by
  obtain ⟨definition, pattern, hcompiled⟩ := a
  obtain ⟨definition', pattern', hcompiled'⟩ := b
  obtain rfl : definition = definition' := h
  obtain rfl : pattern = pattern' := Except.ok.inj (hcompiled.symm.trans hcompiled')
  rfl

-- What is made of a definition is the route that holds it.
theorem ofDefinition_eq_ok :
    (ofDefinition definition).result = .ok route ↔ route.toRouteDefinition = definition := by
  constructor
  · exact toRouteDefinition_of_ofCompiled
  · rintro rfl
    obtain ⟨made, hmade, hdefinition, -⟩ := exists_ofDefinition _ route.compiled
    rw [hmade, eq_of_toRouteDefinition hdefinition]

theorem settings_of_withSettings {settings : Settings}
    (h : (route.withSettings settings).result = .ok next) : next.settings = settings :=
  congrArg RouteDefinition.settings (ofDefinition_eq_ok.mp h)

-- A route that is made has the settings it was given.
theorem read_of_make {config : Config} {template : String}
    {callback name defaultNamespace override : Value} {inherited : Inherited}
    (h : (make config template callback inherited name defaultNamespace override).result =
      .ok route) : inherited.read = .ok route.settings := by
  rw [make, Logged.result_bind] at h
  obtain ⟨found, -, h⟩ := Except.bind_eq_ok.mp h
  rw [Logged.result_bind] at h
  obtain ⟨settings, hread, h⟩ := Except.bind_eq_ok.mp h
  rw [Logged.result_bind] at h
  obtain ⟨pattern, -, h⟩ := Except.bind_eq_ok.mp h
  have hdefinition := ofDefinition_eq_ok.mp h
  have hsettings : route.settings = settings := congrArg RouteDefinition.settings hdefinition
  rw [hsettings]
  exact hread

end Signpost.Route

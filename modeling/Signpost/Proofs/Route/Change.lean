import Signpost.Proofs.Settings.Nesting
import Signpost.Proofs.Template.Effective

namespace Signpost

-- The changes that a route makes to its settings. The setters for numbers, letters and the like
-- are `constrain` with a pattern of their own.
inductive Settings.Change
  | inherit (parent : Inherited)
  | constrain (parameter pattern : Value)
  | constrainIn (parameter values : Value)
  | withMethods (methods : List Value)
  | withMiddleware (middleware : List Value)
  | withParameters (parameters : List (Value × Value))
  | withNamespace (classNamespace : Value)

-- The changes that a route can go through.
inductive Route.Change
  | settings (change : Settings.Change)
  | withDefaultNamespace (defaultNamespace : Value)
  | withOverride (override : Value)
  | named (name : Value)
  | withCallback (className method : Value)
  | withClass (className : Value)
  | withMethod (method : Value)

def Route.change (route : Route) : Route.Change → Logged Route
  | .settings (.inherit parent) => route.inherit parent
  | .settings (.constrain parameter pattern) => route.constrain parameter pattern
  | .settings (.constrainIn parameter values) => route.constrainIn parameter values
  | .settings (.withMethods methods) => route.withMethods methods
  | .settings (.withMiddleware middleware) => route.withMiddleware middleware
  | .settings (.withParameters parameters) => route.withParameters parameters
  | .settings (.withNamespace classNamespace) => route.withNamespace classNamespace
  | .withDefaultNamespace defaultNamespace => route.withDefaultNamespace defaultNamespace
  | .withOverride override => route.withOverride override
  | .named name => route.named name
  | .withCallback className method => route.withCallback className method
  | .withClass className => route.withClass className
  | .withMethod method => route.withMethod method

-- One change after the other, as long as they succeed.
def Route.changeAll (route : Route) (changes : List Route.Change) : Logged Route :=
  changes.foldlM Route.change route

namespace Settings

-- What a change makes of the settings alone.
def revise (settings : Settings) : Settings.Change → Except Error Settings
  | .inherit parent => parent.read.map settings.inherit
  | .constrain parameter pattern => do
      let added ← Route.addedConstraints parameter pattern
      ofFields { settings.fields with
        constraints := .mapping (Entries.update settings.constraintValues added) }
  | .constrainIn parameter values => do
      let choices ← Route.readChoices values
      if choices.isEmpty then throw (.configuration (.noChoices parameter))
      else
        let added ← Route.addedConstraints parameter (.str (Route.choicePattern choices))
        ofFields { settings.fields with
          constraints := .mapping (Entries.update settings.constraintValues added) }
  | .withMethods methods =>
      ofFields { settings.fields with methods := .tuple (settings.methodValues ++ methods) }
  | .withMiddleware middleware =>
      ofFields { settings.fields with middleware := .tuple (settings.middleware ++ middleware) }
  | .withParameters parameters =>
      ofFields { settings.fields with
        parameters := .mapping (Entries.update settings.parameters parameters) }
  | .withNamespace classNamespace => ofFields { settings.fields with classNamespace }

-- Whether a change leaves the constraints of placeholders of some names alone: what it adds or
-- hands down is meant for others.
def Change.Spares (names : List String) : Settings.Change → Prop
  | .inherit parent => ∀ settings, parent.read = .ok settings →
      ∀ name ∈ names, Entries.get? settings.constraints (.str name) = none
  | .constrain parameter pattern => ∀ added, Route.addedConstraints parameter pattern = .ok added →
      ∀ name ∈ names, Value.str name ∉ Entries.keys added
  | .constrainIn parameter _ => ∀ pattern added,
      Route.addedConstraints parameter (.str pattern) = .ok added →
      ∀ name ∈ names, Value.str name ∉ Entries.keys added
  | _ => True

end Settings

namespace RouteDefinition

-- What a change makes of a definition.
def revise (definition : RouteDefinition) : Route.Change → Except Error RouteDefinition
  | .settings change => do
      let settings ← definition.settings.revise change
      pure { definition with settings }
  | .withDefaultNamespace defaultNamespace => pure { definition with defaultNamespace }
  | .withOverride override => do
      let override ← Route.readOverride override
      pure { definition with override }
  | .named name => pure { definition with name }
  | .withCallback className method => aim className method
  | .withClass className => aim className (.str (definition.callback.method?.getD ""))
  | .withMethod method => aim (.str (definition.callback.className?.getD "")) method
where
  aim (className method : Value) : Except Error RouteDefinition :=
    match className, method with
    | .str c, .str m => do
        let callback ← Callback.ofNames c m
        pure { definition with callback }
    | _, _ =>
        if className.truthy && method.truthy then throw .mistyped
        else throw (.configuration (.callbackParts className method))

end RouteDefinition

def Route.Change.Spares (names : List String) : Route.Change → Prop
  | .settings change => change.Spares names
  | .withOverride _ => False
  | _ => True

namespace Settings

variable {s t : Settings} {fields : SettingsFields} {names : List String} {name : String}
  {change : Settings.Change}

-- What is read of constraints under a name is what was stated under it.
theorem get?_of_ofFields {entries : List (Value × Value)} (h : ofFields fields = .ok t)
    (hstated : fields.constraints = .mapping entries) (hdistinct : Entries.Distinct entries)
    (key : Value) : (Entries.get? t.constraints key).map Value.str = Entries.get? entries key := by
  have hvalues : t.constraintValues = entries :=
    (states_of_ofFields h).constraints entries hstated hdistinct
  rw [← hvalues]
  exact (Entries.get?_map Value.str t.constraints key).symm

-- Reading settings again with some constraints added leaves those under other names as they are.
theorem get?_of_added {added : List (Value × Value)} (h : ofFields fields = .ok t)
    (hstated : fields.constraints = .mapping (Entries.update s.constraintValues added))
    (hnew : Value.str name ∉ Entries.keys added) :
    Entries.get? t.constraints (.str name) = Entries.get? s.constraints (.str name) := by
  have hother : ∀ entry ∈ added, (entry.1 == Value.str name) = false := by
    intro entry hmem
    by_cases hname : entry.1 = .str name
    · exact (hnew (hname ▸ List.mem_map_of_mem hmem)).elim
    · exact Bool.eq_false_iff.mpr fun hsame => hname (Value.beq_str_iff.mp hsame)
  have hread : (Entries.get? t.constraints (.str name)).map Value.str =
      (Entries.get? s.constraints (.str name)).map Value.str := by
    rw [get?_of_ofFields h hstated (Entries.distinct_update (distinct_constraintValues s) added),
      Entries.get?_update_of_new (Value.exchangeable_of_fixed rfl) hother]
    exact Entries.get?_map Value.str s.constraints (.str name)
  exact Option.map_injective (fun _ _ => Value.str.inj) hread

theorem exists_read_of_revise {source : Inherited} (h : s.revise (.inherit source) = .ok t) :
    ∃ parent, source.read = .ok parent ∧ t = s.inherit parent := by
  cases hread : source.read with
  | error error => simp [revise, hread, Except.map] at h
  | ok parent =>
      rw [revise, hread] at h
      exact ⟨parent, rfl, (Except.ok.inj h).symm⟩

theorem get?_revise (hspares : change.Spares names) (hname : name ∈ names)
    (h : s.revise change = .ok t) :
    Entries.get? t.constraints (.str name) = Entries.get? s.constraints (.str name) := by
  have hnothing : Value.str name ∉ Entries.keys ([] : List (Value × Value)) := by
    simp [Entries.keys]
  cases change with
  | inherit parent =>
      obtain ⟨inherited, hread, rfl⟩ := exists_read_of_revise h
      rw [inherit_constraints, Entries.get?_update (Value.exchangeable_of_fixed rfl)
        s.constraints_distinct, hspares inherited hread name hname]
      simp
  | constrain parameter pattern =>
      obtain ⟨added, hadded, h⟩ := Except.bind_eq_ok.mp h
      exact get?_of_added h rfl (hspares added hadded name hname)
  | constrainIn parameter values =>
      obtain ⟨choices, -, h⟩ := Except.bind_eq_ok.mp h
      split at h
      · cases h
      · obtain ⟨added, hadded, h⟩ := Except.bind_eq_ok.mp h
        exact get?_of_added h rfl (hspares _ added hadded name hname)
  | withMethods methods => exact get?_of_added h rfl hnothing
  | withMiddleware middleware => exact get?_of_added h rfl hnothing
  | withParameters parameters => exact get?_of_added h rfl hnothing
  | withNamespace classNamespace => exact get?_of_added h rfl hnothing

end Settings

namespace Route

variable {route next : Route} {change : Route.Change}

theorem result_withFields (route : Route) (fields : SettingsFields) :
    (route.withFields fields).result =
      Settings.ofFields fields >>= fun settings => (route.withSettings settings).result := by
  rw [withFields, Logged.result_bind]
  rfl

theorem result_constrain (route : Route) (parameter pattern : Value) :
    (route.constrain parameter pattern).result =
      route.settings.revise (.constrain parameter pattern) >>= fun settings =>
        (route.withSettings settings).result := by
  rw [Route.constrain, Logged.result_bind, Settings.revise, bind_assoc]
  refine congrArg (addedConstraints parameter pattern >>= ·) (funext fun added => ?_)
  exact result_withFields route _

-- A change to the settings is made on the settings alone, and then compiled.
theorem result_change_settings (route : Route) (change : Settings.Change) :
    (route.change (.settings change)).result =
      route.settings.revise change >>= fun settings => (route.withSettings settings).result := by
  cases change with
  | inherit parent =>
      show (route.inherit parent).result = _
      rw [Route.inherit, Logged.result_bind, Settings.merge_result]
      rfl
  | constrain parameter pattern => exact result_constrain route parameter pattern
  | constrainIn parameter values =>
      show (route.constrainIn parameter values).result = _
      rw [Route.constrainIn, Logged.result_bind, Settings.revise, bind_assoc]
      refine congrArg (readChoices values >>= ·) (funext fun choices => ?_)
      cases choices.isEmpty with
      | true => rfl
      | false => exact result_constrain route parameter (.str (choicePattern choices))
  | _ => exact result_withFields route _

theorem result_withCallback (route : Route) (className method : Value) :
    (route.withCallback className method).result =
      route.toRouteDefinition.revise (.withCallback className method) >>= fun definition =>
        (ofDefinition definition).result := by
  rw [RouteDefinition.revise]
  unfold Route.withCallback
  split
  next c m =>
    rw [Logged.result_bind, RouteDefinition.revise.aim, bind_assoc]
    rfl
  next hnames =>
    have haim : RouteDefinition.revise.aim route.toRouteDefinition className method =
        if className.truthy && method.truthy then throw .mistyped
        else throw (.configuration (.callbackParts className method)) := by
      unfold RouteDefinition.revise.aim
      split
      next c m => exact (hnames c m rfl rfl).elim
      next => rfl
    rw [haim]
    cases className.truthy && method.truthy <;> rfl

-- A change is made on the definition, and what comes of it is compiled.
theorem result_change (route : Route) (change : Route.Change) :
    (route.change change).result =
      route.toRouteDefinition.revise change >>= fun definition =>
        (ofDefinition definition).result := by
  cases change with
  | settings change =>
      rw [result_change_settings, RouteDefinition.revise, bind_assoc]
      rfl
  | withOverride override =>
      show (route.withOverride override).result = _
      rw [Route.withOverride, Logged.result_bind, RouteDefinition.revise, bind_assoc]
      rfl
  | withCallback className method => exact result_withCallback route className method
  | withClass className => exact result_withCallback route className _
  | withMethod method => exact result_withCallback route _ method
  | _ => rfl

theorem change_eq_ok : (route.change change).result = .ok next ↔
    route.toRouteDefinition.revise change = .ok next.toRouteDefinition := by
  rw [result_change, Except.bind_eq_ok]
  constructor
  · rintro ⟨definition, hrevise, hmade⟩
    rw [hrevise, ofDefinition_eq_ok.mp hmade]
  · intro hrevise
    exact ⟨_, hrevise, ofDefinition_eq_ok.mpr rfl⟩

end Route

namespace RouteDefinition

variable {a b c definition next : RouteDefinition} {change : Route.Change}

-- The names under which constraints matter: those of the placeholders, unless an override stands
-- in for the template.
def placeholders (definition : RouteDefinition) : List String :=
  match definition.override with
  | none => Template.names definition.config definition.template
  | some _ => []

-- The same in all that a pattern is compiled of.
structure CompilesAs (a b : RouteDefinition) : Prop where
  template : a.template = b.template
  config : a.config = b.config
  override : a.override = b.override
  constraints : ∀ name ∈ a.placeholders,
    Entries.get? a.settings.constraints (.str name) =
      Entries.get? b.settings.constraints (.str name)

theorem CompilesAs.refl (definition : RouteDefinition) : definition.CompilesAs definition :=
  ⟨rfl, rfl, rfl, fun _ _ => rfl⟩

theorem CompilesAs.placeholders_eq (h : a.CompilesAs b) : a.placeholders = b.placeholders := by
  rw [placeholders, placeholders, h.template, h.config, h.override]

theorem CompilesAs.trans (h : a.CompilesAs b) (h' : b.CompilesAs c) : a.CompilesAs c where
  template := h.template.trans h'.template
  config := h.config.trans h'.config
  override := h.override.trans h'.override
  constraints := by
    intro name hname
    rw [h.constraints name hname]
    exact h'.constraints name (h.placeholders_eq ▸ hname)

theorem CompilesAs.same_pattern {pattern pattern' : Pattern} (h : a.CompilesAs b)
    (ha : a.compile.result = .ok pattern) (hb : b.compile.result = .ok pattern') :
    pattern.regex = pattern'.regex ∧ pattern.parameters = pattern'.parameters := by
  unfold compile at ha hb
  rw [← h.override, ← h.template, ← h.config] at hb
  cases hoverride : a.override with
  | none =>
      have hforce := h.constraints
      rw [placeholders, hoverride] at hforce
      rw [hoverride] at ha hb
      exact Template.same_of_ofTemplate ha hb hforce
  | some text =>
      rw [hoverride] at ha hb
      obtain rfl : pattern = pattern' := Except.ok.inj (ha.symm.trans hb)
      exact ⟨rfl, rfl⟩

theorem aim_withOverride (definition : RouteDefinition) (className method : Value)
    (override : Option String) :
    revise.aim { definition with override } className method =
      (revise.aim definition className method).map fun next => { next with override } := by
  unfold revise.aim
  split
  next c m => cases Callback.ofNames c m <;> rfl
  next => cases className.truthy && method.truthy <;> rfl

-- A change that does not touch the override does not look at it either.
theorem revise_withOverride (hkeeps : ∀ value, change ≠ .withOverride value)
    (definition : RouteDefinition) (override : Option String) :
    ({ definition with override } : RouteDefinition).revise change =
      (definition.revise change).map fun next => { next with override } := by
  cases change with
  | settings change =>
      rw [revise, revise]
      cases definition.settings.revise change <;> rfl
  | withOverride value => exact (hkeeps value rfl).elim
  | withDefaultNamespace value => rfl
  | named name => rfl
  | withCallback className method => exact aim_withOverride definition className method override
  | withClass className => exact aim_withOverride definition className _ override
  | withMethod method => exact aim_withOverride definition _ method override

theorem aim_eq_ok {className method : Value}
    (h : revise.aim definition className method = .ok next) :
    ∃ callback, next = { definition with callback } := by
  unfold revise.aim at h
  split at h
  next c m =>
    obtain ⟨callback, -, h⟩ := Except.bind_eq_ok.mp h
    exact ⟨callback, (Except.ok.inj h).symm⟩
  next => split at h <;> cases h

-- What a change does to a definition: it changes the settings, or the override, or none of what a
-- pattern is compiled of.
theorem revise_eq_ok (h : definition.revise change = .ok next) :
    (∃ inner settings, change = .settings inner ∧
      definition.settings.revise inner = .ok settings ∧ next = { definition with settings }) ∨
    (∃ value override, change = .withOverride value ∧ next = { definition with override }) ∨
    (∃ callback name defaultNamespace,
      next = { definition with callback, name, defaultNamespace }) := by
  have haim : ∀ {className method : Value},
      revise.aim definition className method = .ok next →
      ∃ callback name defaultNamespace,
        next = { definition with callback, name, defaultNamespace } := by
    intro className method h
    obtain ⟨callback, hnext⟩ := aim_eq_ok h
    exact ⟨callback, definition.name, definition.defaultNamespace, hnext⟩
  cases change with
  | settings inner =>
      obtain ⟨settings, hrevise, h⟩ := Except.bind_eq_ok.mp h
      exact .inl ⟨inner, settings, rfl, hrevise, (Except.ok.inj h).symm⟩
  | withOverride value =>
      obtain ⟨override, -, h⟩ := Except.bind_eq_ok.mp h
      exact .inr (.inl ⟨value, override, rfl, (Except.ok.inj h).symm⟩)
  | withDefaultNamespace value => exact .inr (.inr ⟨_, _, value, (Except.ok.inj h).symm⟩)
  | named name => exact .inr (.inr ⟨_, name, _, (Except.ok.inj h).symm⟩)
  | withCallback className method => exact .inr (.inr (haim h))
  | withClass className => exact .inr (.inr (haim h))
  | withMethod method => exact .inr (.inr (haim h))

-- The template and the configuration stay, and the override unless it is what changes.
theorem kept_of_revise (hkeeps : ∀ value, change ≠ .withOverride value)
    (h : definition.revise change = .ok next) :
    next.template = definition.template ∧ next.config = definition.config ∧
      next.override = definition.override := by
  obtain ⟨inner, settings, -, -, rfl⟩ | ⟨value, override, rfl, -⟩ | ⟨callback, name, value, rfl⟩ :=
    revise_eq_ok h
  · exact ⟨rfl, rfl, rfl⟩
  · exact (hkeeps value rfl).elim
  · exact ⟨rfl, rfl, rfl⟩

-- A change that spares the placeholders leaves all that a pattern is compiled of.
theorem compilesAs_of_revise
    (hspares : change.Spares definition.placeholders)
    (h : definition.revise change = .ok next) : definition.CompilesAs next := by
  obtain ⟨inner, settings, rfl, hrevise, rfl⟩ | ⟨value, override, rfl, -⟩ |
    ⟨callback, name, value, rfl⟩ := revise_eq_ok h
  · exact ⟨rfl, rfl, rfl, fun name hname =>
      (Settings.get?_revise hspares hname hrevise).symm⟩
  · exact hspares.elim
  · exact ⟨rfl, rfl, rfl, fun _ _ => rfl⟩

end RouteDefinition

namespace Route

variable {route next hidden : Route} {change : Route.Change} {changes : List Route.Change}

theorem match?_eq_of_compilesAs {a b : Route}
    (h : a.toRouteDefinition.CompilesAs b.toRouteDefinition) (path : String) :
    a.match? path = b.match? path := by
  obtain ⟨hregex, hparameters⟩ := h.same_pattern a.compiled b.compiled
  rw [match?, match?, Pattern.match?, Pattern.match?, hregex, hparameters]

-- Changes that spare the placeholders, one after the other.
theorem compilesAs_of_changeAll
    (hspares : ∀ change ∈ changes, change.Spares route.placeholders)
    (h : (route.changeAll changes).result = .ok next) :
    route.toRouteDefinition.CompilesAs next.toRouteDefinition := by
  induction changes generalizing route with
  | nil =>
      obtain rfl : route = next := Except.ok.inj h
      exact .refl _
  | cons change changes ih =>
      rw [List.forall_mem_cons] at hspares
      rw [changeAll, List.foldlM_cons, Logged.result_bind] at h
      obtain ⟨middle, hmiddle, h⟩ := Except.bind_eq_ok.mp h
      have hstep : route.toRouteDefinition.CompilesAs middle.toRouteDefinition :=
        RouteDefinition.compilesAs_of_revise hspares.1 (change_eq_ok.mp hmiddle)
      have hrest := hspares.2
      rw [hstep.placeholders_eq] at hrest
      exact hstep.trans (ih hrest h)

-- A route without an override, and the same route hidden behind one.
structure Hides (hidden route : Route) : Prop where
  bare : route.override = none
  definition : hidden.toRouteDefinition =
    { route.toRouteDefinition with override := hidden.override }

-- Taking the override away brings the route back.
theorem Hides.restore (h : Hides hidden route) :
    (hidden.withOverride .null).result = .ok route := by
  apply ofDefinition_eq_ok.mpr
  rw [h.definition, ← h.bare]

-- Whatever can be done to the route can be done behind the override, which is compiled for the
-- same template under the same configuration all the time.
theorem Hides.follow (h : Hides hidden route) (hkeeps : ∀ value, change ≠ .withOverride value)
    (hchange : (route.change change).result = .ok next) :
    ∃ changed, (hidden.change change).result = .ok changed ∧ Hides changed next := by
  have hrevise := change_eq_ok.mp hchange
  obtain ⟨htemplate, hconfig, hoverride⟩ := RouteDefinition.kept_of_revise hkeeps hrevise
  have hbare : next.override = none := hoverride.trans h.bare
  have hrevised : hidden.toRouteDefinition.revise change =
      .ok { next.toRouteDefinition with override := hidden.override } := by
    rw [h.definition, RouteDefinition.revise_withOverride hkeeps, hrevise]
    rfl
  have hcompile : ∃ pattern, (RouteDefinition.compile
      { next.toRouteDefinition with override := hidden.override }).result = .ok pattern := by
    cases hhidden : hidden.override with
    | none =>
        refine ⟨next.pattern, ?_⟩
        rw [← hbare]
        exact next.compiled
    | some text =>
        refine ⟨hidden.pattern, ?_⟩
        have hcompiled := hidden.compiled
        rw [h.definition, hhidden] at hcompiled
        simp only [RouteDefinition.compile, htemplate, hconfig] at hcompiled ⊢
        exact hcompiled
  obtain ⟨pattern, hpattern⟩ := hcompile
  obtain ⟨changed, -, hdefinition, -⟩ := exists_ofDefinition _ hpattern
  refine ⟨changed, change_eq_ok.mpr (hdefinition ▸ hrevised), hbare, ?_⟩
  rw [hdefinition]

theorem Hides.followAll (h : Hides hidden route)
    (hkeeps : ∀ value, .withOverride value ∉ changes)
    (hchanges : (route.changeAll changes).result = .ok next) :
    ∃ changed, (hidden.changeAll changes).result = .ok changed ∧ Hides changed next := by
  induction changes generalizing hidden route with
  | nil =>
      obtain rfl : route = next := Except.ok.inj hchanges
      exact ⟨hidden, rfl, h⟩
  | cons change changes ih =>
      rw [changeAll, List.foldlM_cons, Logged.result_bind] at hchanges
      obtain ⟨middle, hmiddle, hchanges⟩ := Except.bind_eq_ok.mp hchanges
      have hfirst : ∀ value, change ≠ .withOverride value := fun value he =>
        hkeeps value (he ▸ List.mem_cons_self)
      have hrest : ∀ value, .withOverride value ∉ changes := fun value hmem =>
        hkeeps value (List.mem_cons_of_mem _ hmem)
      obtain ⟨followed, hfollowed, hhides⟩ := h.follow hfirst hmiddle
      obtain ⟨changed, hchanged, hlast⟩ := ih hhides hrest hchanges
      refine ⟨changed, ?_, hlast⟩
      rw [changeAll, List.foldlM_cons, Logged.result_bind, hfollowed]
      exact hchanged

theorem hides_of_withOverride {override : Value} (hbare : route.override = none)
    (h : (route.withOverride override).result = .ok hidden) : Hides hidden route := by
  rw [withOverride, Logged.result_bind] at h
  obtain ⟨read, -, h⟩ := Except.bind_eq_ok.mp h
  have hdefinition := ofDefinition_eq_ok.mp h
  refine ⟨hbare, ?_⟩
  rw [hdefinition]

end Route

-- A route matches as its template, its configuration, its override and the constraints in force
-- for its placeholders say, whatever made it. So changes that add constraints for other names
-- only make no difference to matching, and an override that is set and later taken away leaves
-- the route that there is without it.
theorem Route.match?_follows_definition :
    (∀ a b : Route, a.toRouteDefinition.CompilesAs b.toRouteDefinition →
      ∀ path, a.match? path = b.match? path) ∧
    (∀ (route next : Route) (changes : List Route.Change),
      (route.changeAll changes).result = .ok next →
      (∀ change ∈ changes, change.Spares route.placeholders) →
      ∀ path, next.match? path = route.match? path) ∧
    (∀ (route hidden next : Route) (override : Value) (changes : List Route.Change),
      route.override = none → (route.withOverride override).result = .ok hidden →
      (∀ value, .withOverride value ∉ changes) →
      (route.changeAll changes).result = .ok next →
      ∃ changed, (hidden.changeAll changes).result = .ok changed ∧
        (changed.withOverride .null).result = .ok next) := by
  refine ⟨fun _ _ => match?_eq_of_compilesAs, ?_, ?_⟩
  · intro route next changes hchanges hspares path
    exact (match?_eq_of_compilesAs (compilesAs_of_changeAll hspares hchanges) path).symm
  · intro route hidden next override changes hbare hhidden hkeeps hchanges
    obtain ⟨changed, hchanged, hhides⟩ :=
      (hides_of_withOverride hbare hhidden).followAll hkeeps hchanges
    exact ⟨changed, hchanged, hhides.restore⟩

-- A constraint for a name that is no placeholder, and an override that comes and goes.
theorem Route.match?_follows_definition_item :
    let changes : List Route.Change :=
      [.settings (.constrain (.str "slug") (.str "[a-z]+")), .settings (.withMethods [.str "get"])]
    ∃ route next hidden : Route,
      (Route.make default "/item/\x7bid\x7d" (.str "Items@show")).result = .ok route ∧
      (route.changeAll changes).result = .ok next ∧
      (route.withOverride (.str "/old/(?P<page>[0-9]+)")).result = .ok hidden ∧
      (∀ path, route.match? path = next.match? path) ∧
      (∀ path, next.match? path = route.match? path) ∧
      ∃ changed, (hidden.changeAll changes).result = .ok changed ∧
        (changed.withOverride .null).result = .ok next := by
  intro changes
  have hseen : (Route.make default "/item/\x7bid\x7d" (.str "Items@show")).result.toOption.bind
      (fun route => (route.changeAll changes).result.toOption.bind fun _ =>
        (route.withOverride (.str "/old/(?P<page>[0-9]+)")).result.toOption.bind fun _ =>
          some (route.override, route.placeholders)) = some (none, ["id"]) := by decide +kernel
  obtain ⟨route, hroute, hseen⟩ := Except.exists_ok_of_bind hseen
  obtain ⟨next, hnext, hseen⟩ := Except.exists_ok_of_bind hseen
  obtain ⟨hidden, hhidden, hseen⟩ := Except.exists_ok_of_bind hseen
  obtain ⟨hbare, hnames⟩ := Prod.mk.inj (Option.some.inj hseen)
  have hspares : ∀ change ∈ changes, change.Spares route.placeholders := by
    rw [hnames]
    intro change hmem
    rcases List.mem_cons.mp hmem with rfl | hmem
    · intro added hadded name hname
      obtain rfl : [(.str "slug", .str "[a-z]+")] = added := Except.ok.inj hadded
      obtain rfl := List.mem_singleton.mp hname
      simp [Entries.keys]
    · obtain rfl := List.mem_singleton.mp hmem
      trivial
  have hkeeps : ∀ value, Route.Change.withOverride value ∉ changes := by simp [changes]
  exact ⟨route, next, hidden, hroute, hnext, hhidden,
    Route.match?_follows_definition.1 route next (Route.compilesAs_of_changeAll hspares hnext),
    Route.match?_follows_definition.2.1 route next changes hnext hspares,
    Route.match?_follows_definition.2.2 route hidden next _ changes hbare hhidden hkeeps hnext⟩

end Signpost

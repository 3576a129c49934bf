import Mathlib.Data.List.Forall2
import Signpost.Proofs.Settings.Descent

namespace Signpost

open Entries (firsts)

namespace RequestMethod

variable {first second : List RequestMethod}

theorem add_eq_addKey (methods : List RequestMethod) (method : RequestMethod) :
    add methods method = Entries.addKey methods method := by
  simp [add, Entries.addKey]

theorem union_nil_eq (methods : List RequestMethod) : union [] methods = firsts methods := by
  have hadd : add = Entries.addKey := funext fun methods => funext fun method =>
    add_eq_addKey methods method
  rw [Entries.firsts_eq, union, hadd]

theorem union_add (first second : List RequestMethod) (method : RequestMethod) :
    union first (add second method) = add (union first second) method := by
  by_cases hmem : method ∈ second
  · have hseen : method ∈ union first second := mem_union.mpr (.inr hmem)
    rw [add, if_pos hmem, add, if_pos hseen]
  · rw [add, if_neg hmem, union, List.foldl_append]
    rfl

theorem union_assoc (first second third : List RequestMethod) :
    union first (union second third) = union (union first second) third := by
  induction third generalizing second with
  | nil => rfl
  | cons method third ih =>
      calc union first (union second (method :: third))
          = union first (union (add second method) third) := rfl
        _ = union (add (union first second) method) third := by rw [ih, union_add]
        _ = union (union first second) (method :: third) := rfl

theorem union_firsts (h : first.Nodup) (second : List RequestMethod) :
    union first (firsts second) = firsts (first ++ second) := by
  have hfirst : union [] first = first := union_of_nodup h
  calc union first (firsts second)
      = union first (union [] second) := by rw [union_nil_eq]
    _ = union (union [] first) second := by rw [union_assoc, hfirst]; rfl
    _ = union [] (first ++ second) := List.foldl_append.symm
    _ = firsts (first ++ second) := union_nil_eq _

theorem name_beq (a b : RequestMethod) : (a.name == b.name) = (a == b) := by
  cases a <;> cases b <;> decide

-- A text stands for the method whose name it spells in letters of any case.
theorem ofText?_eq_some {text : String} {method : RequestMethod} :
    ofText? text = some method ↔ method.name = Text.upper text := by
  constructor
  · intro h
    simpa using List.find?_some h
  · intro h
    rw [ofText?, ← h]
    cases method <;> decide

end RequestMethod

-- A value that lists items, as a list or as a tuple.
def Value.Lists (value : Value) (items : List Value) : Prop :=
  value = .list items ∨ value = .tuple items

theorem Value.Lists.items_eq {value : Value} {items : List Value} (h : value.Lists items) :
    value.items = .ok items := by
  rcases h with rfl | rfl <;> rfl

theorem SettingsFields.ofText?_of_readMethod {text : String} {method : RequestMethod}
    (h : readMethod (.str text) = .ok method) : RequestMethod.ofText? text = some method := by
  cases hfound : RequestMethod.ofText? text with
  | none => simp [readMethod, hfound] at h
  | some found => simpa [readMethod, hfound] using h

namespace Settings

variable {fields : SettingsFields} {own s : Settings} {levels : List Settings}

-- What fields say of each setting: a namespace, verbs in letters of any case, constraints and
-- parameters by their keys, and a chain of middleware.
structure States (fields : SettingsFields) (own : Settings) : Prop where
  classNamespace : own.classNamespace = fields.classNamespace
  methods : ∀ texts : List String, fields.methods.Lists (texts.map .str) →
    own.methods.map RequestMethod.name = firsts (texts.map Text.upper)
  constraints : ∀ entries, fields.constraints = .mapping entries → Entries.Distinct entries →
    own.constraintValues = entries
  parameters : ∀ entries, fields.parameters = .mapping entries → Entries.Distinct entries →
    own.parameters = entries
  middleware : ∀ items, fields.middleware.Lists items → own.middleware = items

-- What settings come to within levels of nesting, from the outermost to their own.
structure Nested (levels : List Settings) (s : Settings) : Prop where
  -- The innermost namespace that is set.
  classNamespace : s.classNamespace =
    ((levels.reverse.map (·.classNamespace)).find? (· != .null)).getD .null
  -- All methods, the innermost first.
  methods : s.methods = firsts (levels.reverse.flatMap (·.methods))
  -- Under each key that can be one, what the innermost level has there that has the key at all.
  constraint : ∀ key : Value, key.fixed = true → Entries.get? s.constraints key =
    levels.reverse.findSome? fun own => Entries.get? own.constraints key
  parameter : ∀ key : Value, key.fixed = true → Entries.get? s.parameters key =
    levels.reverse.findSome? fun own => Entries.get? own.parameters key
  -- The keys, the outermost first.
  constraintKeys : Entries.keys s.constraints =
    firsts (levels.flatMap fun own => Entries.keys own.constraints)
  parameterKeys : Entries.keys s.parameters =
    firsts (levels.flatMap fun own => Entries.keys own.parameters)
  -- All chains one after the other, the outermost first, where levels share no middleware.
  middleware :
    (levels.Pairwise fun outer inner =>
      ∀ x ∈ outer.middleware, ∀ y ∈ inner.middleware, (x == y) = false) →
    s.middleware = levels.flatMap (·.middleware)

theorem map_name_eq {texts : List String} {methods : List RequestMethod}
    (h : (texts.map Value.str).mapM SettingsFields.readMethod = .ok methods) :
    methods.map RequestMethod.name = texts.map Text.upper := by
  induction texts generalizing methods with
  | nil =>
      obtain rfl : [] = methods := Except.ok.inj h
      rfl
  | cons text texts ih =>
      rw [List.map_cons, List.mapM_cons] at h
      obtain ⟨method, hmethod, h⟩ := Except.bind_eq_ok.mp h
      obtain ⟨others, hothers, h⟩ := Except.bind_eq_ok.mp h
      obtain rfl : method :: others = methods := Except.ok.inj h
      have hname : method.name = Text.upper text :=
        RequestMethod.ofText?_eq_some.mp (SettingsFields.ofText?_of_readMethod hmethod)
      rw [List.map_cons, List.map_cons, hname, ih hothers]

-- Methods that are listed are read as the verbs they spell, each where it comes first.
theorem verbs_of_readMethods {value : Value} {texts : List String} {methods : List RequestMethod}
    (hlists : value.Lists (texts.map .str)) (h : SettingsFields.readMethods value = .ok methods) :
    methods.map RequestMethod.name = firsts (texts.map Text.upper) := by
  have hlist : SettingsFields.methodList value = .ok (texts.map .str) := by
    rcases hlists with rfl | rfl <;> rfl
  rw [SettingsFields.readMethods, hlist, Except.bind_ok] at h
  obtain ⟨read, hread, h⟩ := Except.bind_eq_ok.mp h
  obtain rfl : RequestMethod.union [] read = methods := Except.ok.inj h
  rw [RequestMethod.union_nil_eq, Entries.map_firsts RequestMethod.name_beq, map_name_eq hread]

theorem constraintValues_of_mapM {entries : List (Value × Value)} {constraints : Constraints}
    (h : entries.mapM SettingsFields.readConstraint = .ok constraints)
    (hset : own.constraints = Entries.ofList constraints) (hdistinct : Entries.Distinct entries) :
    own.constraintValues = entries := by
  have hkeys : Entries.Distinct constraints := by
    rw [Entries.distinct_iff_keys, SettingsFields.keys_of_mapM_readConstraint h]
    exact Entries.distinct_iff_keys.mp hdistinct
  rw [constraintValues, hset, Entries.ofList_of_distinct hkeys]
  exact SettingsFields.values_of_mapM_readConstraint h

theorem states_of_ofFields (h : ofFields fields = .ok own) : States fields own := by
  have hread : Reads fields own := ofFields_eq_ok.mp h
  refine ⟨hread.classNamespace, ?_, ?_, ?_, ?_⟩
  · intro texts hlists
    exact verbs_of_readMethods hlists hread.methods
  · intro entries hentries hdistinct
    obtain ⟨stated, constraints, hstated, hconstraints, hset⟩ := hread.constraints
    rw [hentries] at hstated
    obtain rfl : entries = stated := Except.ok.inj hstated
    exact constraintValues_of_mapM hconstraints hset hdistinct
  · intro entries hentries hdistinct
    obtain ⟨stated, hstated, hset⟩ := hread.parameters
    rw [hentries] at hstated
    obtain rfl : entries = stated := Except.ok.inj hstated
    rw [hset, Entries.ofList_of_distinct hdistinct]
  · intro items hlists
    have hitems : SettingsFields.readMiddleware fields.middleware = .ok items := by
      rcases hlists with hlist | hlist <;> rw [hlist] <;> rfl
    exact Except.ok.inj (hread.middleware.symm.trans hitems)

-- The options of a route are gone through before they are read, which makes no difference to
-- what they list.
theorem states_of_spread {options : SettingsFields} (hspread : Route.spread options = .ok fields)
    (h : ofFields fields = .ok own) : States options own := by
  have hstates : States fields own := states_of_ofFields h
  obtain ⟨methods, hmethods, hspread⟩ := Except.bind_eq_ok.mp hspread
  obtain ⟨middleware, hmiddleware, hspread⟩ := Except.bind_eq_ok.mp hspread
  obtain rfl := Except.ok.inj hspread
  have hmapping : ∀ entries : List (Value × Value),
      (if (Value.mapping entries).truthy then Value.mapping entries else .mapping []) =
        .mapping entries := by
    intro entries
    cases entries <;> rfl
  refine ⟨hstates.classNamespace, ?_, ?_, ?_, ?_⟩
  · intro texts hlists
    have hitems : methods = texts.map .str :=
      Except.ok.inj (hmethods.symm.trans hlists.items_eq)
    exact hstates.methods texts (.inr (by rw [hitems]))
  · intro entries hentries hdistinct
    refine hstates.constraints entries ?_ hdistinct
    simp only [hentries, hmapping]
  · intro entries hentries hdistinct
    refine hstates.parameters entries ?_ hdistinct
    simp only [hentries, hmapping]
  · intro items hlists
    have hitems : middleware = items :=
      Except.ok.inj (hmiddleware.symm.trans hlists.items_eq)
    exact hstates.middleware items (.inr (by rw [hitems]))

-- A chain that shares nothing with the inherited one does not begin with it.
theorem chain_of_apart {inherited own : List Value}
    (h : ∀ x ∈ inherited, ∀ y ∈ own, (x == y) = false) :
    chain inherited own = inherited ++ own := by
  cases inherited with
  | nil => simp [chain]
  | cons x inherited =>
      have hfirst : (x :: inherited).isPrefixOf own = false := by
        cases own with
        | nil => rfl
        | cons y own => simp [List.isPrefixOf, h x (by simp) y (by simp)]
      rw [chain, hfirst]
      rfl

theorem nested_nil : Nested [] {} where
  classNamespace := rfl
  methods := rfl
  constraint := fun _ _ => rfl
  parameter := fun _ _ => rfl
  constraintKeys := rfl
  parameterKeys := rfl
  middleware := fun _ => rfl

-- One more level within the others.
theorem Nested.inherit (h : Nested levels s) (own : Settings) :
    Nested (levels ++ [own]) (own.inherit s) where
  classNamespace := by
    rw [List.reverse_concat, List.map_cons, List.find?_cons]
    by_cases hown : own.classNamespace = .null
    · rw [inherit_classNamespace_of_null hown, h.classNamespace]
      have hunset : (own.classNamespace != .null) = false := Value.bne_null_eq_false.mpr hown
      rw [hunset]
    · rw [inherit_classNamespace_of_ne hown]
      have hset : (own.classNamespace != .null) = true := Value.bne_null_iff.mpr hown
      rw [hset]
      rfl
  methods := by
    rw [List.reverse_concat, List.flatMap_cons, inherit_methods, h.methods,
      RequestMethod.union_firsts own.methods_nodup]
  constraint := by
    intro key hkey
    rw [List.reverse_concat, List.findSome?_cons, inherit_constraints,
      Entries.get?_update (Value.exchangeable_of_fixed hkey) own.constraints_distinct,
      h.constraint key hkey]
    cases Entries.get? own.constraints key <;> rfl
  parameter := by
    intro key hkey
    rw [List.reverse_concat, List.findSome?_cons, inherit_parameters,
      Entries.get?_update (Value.exchangeable_of_fixed hkey) own.parameters_distinct,
      h.parameter key hkey]
    cases Entries.get? own.parameters key <;> rfl
  constraintKeys := by
    rw [inherit_constraints, Entries.keys_update, h.constraintKeys, Entries.firsts_eq,
      Entries.firsts_eq, List.flatMap_append, List.foldl_append]
    simp
  parameterKeys := by
    rw [inherit_parameters, Entries.keys_update, h.parameterKeys, Entries.firsts_eq,
      Entries.firsts_eq, List.flatMap_append, List.foldl_append]
    simp
  middleware := by
    intro hapart
    obtain ⟨houter, -, hacross⟩ := List.pairwise_append.mp hapart
    have hchain : s.middleware = levels.flatMap (·.middleware) := h.middleware houter
    have hshare : ∀ x ∈ s.middleware, ∀ y ∈ own.middleware, (x == y) = false := by
      intro x hx y hy
      rw [hchain] at hx
      obtain ⟨level, hlevel, hx⟩ := List.mem_flatMap.mp hx
      exact hacross level hlevel own (by simp) x hx y hy
    calc (own.inherit s).middleware
        = chain s.middleware own.middleware := rfl
      _ = s.middleware ++ own.middleware := chain_of_apart hshare
      _ = (levels ++ [own]).flatMap (·.middleware) := by simp [hchain]

theorem Nested.mem_methods (h : Nested levels s) {method : RequestMethod} :
    method ∈ s.methods ↔ ∃ own ∈ levels, method ∈ own.methods := by
  rw [h.methods, ← RequestMethod.union_nil_eq, RequestMethod.mem_union]
  simp

-- Without any methods all are allowed; else those that are listed.
theorem allows_iff {text : String} : s.allows text = true ↔
    s.methods = [] ∨ ∃ method ∈ s.methods, method.name = Text.upper text := by
  rw [allows, Bool.or_eq_true, List.isEmpty_iff, Option.any_eq_true]
  refine or_congr_right ⟨?_, ?_⟩
  · rintro ⟨method, htext, hmem⟩
    exact ⟨method, List.contains_iff_mem.mp hmem, RequestMethod.ofText?_eq_some.mp htext⟩
  · rintro ⟨method, hmem, hname⟩
    exact ⟨method, RequestMethod.ofText?_eq_some.mpr hname, List.contains_iff_mem.mpr hmem⟩

-- Of levels that are nested, what any of them lists is allowed.
theorem Nested.allows_iff (h : Nested levels s) (text : String) :
    s.allows text = true ↔ (∀ own ∈ levels, own.methods = []) ∨
      ∃ own ∈ levels, ∃ method ∈ own.methods, method.name = Text.upper text := by
  rw [Settings.allows_iff]
  refine or_congr ?_ ⟨?_, ?_⟩
  · rw [List.eq_nil_iff_forall_not_mem]
    simp only [h.mem_methods, not_exists, not_and]
    constructor
    · intro hnone own hown
      exact List.eq_nil_iff_forall_not_mem.mpr fun method => hnone method own hown
    · intro hnone method own hown hmem
      simp [hnone own hown] at hmem
  · rintro ⟨method, hmem, hname⟩
    obtain ⟨own, hown, hmem⟩ := h.mem_methods.mp hmem
    exact ⟨own, hown, method, hmem, hname⟩
  · rintro ⟨own, hown, method, hmem, hname⟩
    exact ⟨method, h.mem_methods.mpr ⟨own, hown, hmem⟩, hname⟩

end Settings

namespace Group

-- What a level of groups states for itself, as settings of its own.
def Level (values : List (Value × Value)) (own : Settings) : Prop :=
  ∃ fields, SettingsFields.ofMapping (.mapping values) = .ok fields ∧
    Settings.ofFields fields = .ok own ∧ Settings.States fields own

-- Groups within each other, each made from the one around it, and the innermost of them.
def nest (config : Config) (outermost : List (Value × Value))
    (inner : List (List (Value × Value))) : Logged Group := do
  let group ← make config outermost
  inner.foldlM subgroup group

variable {config : Config} {group innermost : Group} {levels : List Settings}

theorem exists_level {values : List (Value × Value)} {parent : Inherited}
    (h : (make config values parent).result = .ok group) :
    ∃ own inherited, Level values own ∧ parent.read = .ok inherited ∧
      group.settings = own.inherit inherited := by
  obtain ⟨own, inherited, hown, hread, hsettings⟩ := exists_own h
  obtain ⟨fields, hfields, hown⟩ := Except.bind_eq_ok.mp hown
  exact ⟨own, inherited, ⟨fields, hfields, hown, Settings.states_of_ofFields hown⟩, hread,
    hsettings⟩

-- Groups that are made one within the other keep the levels they are made of.
theorem nested_of_subgroups {inner : List (List (Value × Value))}
    (hgroup : Settings.Nested levels group.settings)
    (h : (inner.foldlM subgroup group).result = .ok innermost) :
    ∃ owns, List.Forall₂ Level inner owns ∧
      Settings.Nested (levels ++ owns) innermost.settings := by
  induction inner generalizing group levels with
  | nil =>
      obtain rfl : group = innermost := Except.ok.inj h
      exact ⟨[], .nil, by simpa using hgroup⟩
  | cons values inner ih =>
      rw [List.foldlM_cons, Logged.result_bind] at h
      obtain ⟨child, hchild, h⟩ := Except.bind_eq_ok.mp h
      obtain ⟨own, inherited, hlevel, hread, hsettings⟩ := exists_level hchild
      obtain rfl : group.settings = inherited := Except.ok.inj hread
      have hnested : Settings.Nested (levels ++ [own]) child.settings :=
        hsettings ▸ hgroup.inherit own
      obtain ⟨owns, hlevels, hinner⟩ := ih hnested h
      exact ⟨own :: owns, .cons hlevel hlevels, by simpa using hinner⟩

theorem exists_levels {outermost : List (Value × Value)} {inner : List (List (Value × Value))}
    (h : (nest config outermost inner).result = .ok innermost) :
    ∃ owns, List.Forall₂ Level (outermost :: inner) owns ∧
      Settings.Nested owns innermost.settings := by
  rw [nest, Logged.result_bind] at h
  obtain ⟨group, hgroup, h⟩ := Except.bind_eq_ok.mp h
  obtain ⟨own, inherited, hlevel, hread, hsettings⟩ := exists_level hgroup
  obtain rfl : {} = inherited := Except.ok.inj hread
  have hnested : Settings.Nested [own] group.settings :=
    hsettings ▸ Settings.nested_nil.inherit own
  obtain ⟨owns, hlevels, hinner⟩ := nested_of_subgroups hnested h
  exact ⟨own :: owns, .cons hlevel hlevels, hinner⟩

end Group

-- The settings of a route within nested groups, of any depth, follow from what each level states
-- for itself by the rules of `Settings.Nested`. The methods it allows are those of all levels,
-- or any if no level lists one.
theorem Group.route_settings_nested (config : Config) (outermost : List (Value × Value))
    (inner : List (List (Value × Value))) (template : String) (callback name : Value)
    (options : SettingsFields) (group : Group) (route : Route)
    (hgroup : (Group.nest config outermost inner).result = .ok group)
    (hroute : (group.route template callback options name).result = .ok route) :
    ∃ (fields : SettingsFields) (own : Settings) (outer : List Settings),
      List.Forall₂ Group.Level (outermost :: inner) outer ∧
      Route.spread options = .ok fields ∧ Settings.ofFields fields = .ok own ∧
      Settings.States options own ∧
      Settings.Nested (outer ++ [own]) route.settings ∧
      ∀ method : String, route.allows method = true ↔
        (∀ level ∈ outer ++ [own], level.methods = []) ∨
          ∃ level ∈ outer ++ [own], ∃ listed ∈ level.methods,
            listed.name = Text.upper method := by
  obtain ⟨outer, hlevels, houter⟩ := Group.exists_levels hgroup
  obtain ⟨fields, own, hspread, hread, hsettings⟩ := Group.exists_options hroute
  have hnested : Settings.Nested (outer ++ [own]) route.settings :=
    hsettings ▸ houter.inherit own
  exact ⟨fields, own, outer, hlevels, hspread, hread, Settings.states_of_spread hspread hread,
    hnested, hnested.allows_iff⟩

-- A route two levels down, with methods and middleware on both sides of the groups.
theorem Group.route_settings_nested_users :
    let outermost : List (Value × Value) :=
      [(.str "namespace", .str "app"), (.str "methods", .list [.str "get"]),
        (.str "middleware", .tuple [.str "auth"])]
    let inner : List (Value × Value) :=
      [(.str "where", .mapping [(.str "id", .str "[0-9]+")]),
        (.str "middleware", .tuple [.str "log"])]
    let options : SettingsFields :=
      { methods := .list [.str "Post", .str "Get"], middleware := .list [.str "cache"] }
    ∃ (group : Group) (route : Route),
      (Group.nest default outermost [inner]).result = .ok group ∧
      (group.route "/users/\x7bid\x7d" (.str "Users@show") options).result = .ok route ∧
      route.settings.methods = [.post, .get] ∧ route.settings.middleware.length = 3 ∧
      ∃ (own : Settings) (outer : List Settings), outer.length = 2 ∧
        Settings.Nested (outer ++ [own]) route.settings := by
  intro outermost inner options
  have hseen : (Group.nest default outermost [inner]).result.toOption.bind
      (fun group =>
        (group.route "/users/\x7bid\x7d" (.str "Users@show") options).result.toOption.bind
          fun route => some (route.settings.methods, route.settings.middleware.length)) =
      some ([.post, .get], 3) := by decide +kernel
  obtain ⟨group, hgroup, hseen⟩ := Except.exists_ok_of_bind hseen
  obtain ⟨route, hroute, hsettings⟩ := Except.exists_ok_of_bind hseen
  obtain ⟨hmethods, hmiddleware⟩ := Prod.mk.inj (Option.some.inj hsettings)
  obtain ⟨fields, own, outer, hlevels, -, -, -, hnested, -⟩ :=
    Group.route_settings_nested default outermost [inner] "/users/\x7bid\x7d" (.str "Users@show")
      .null options group route hgroup hroute
  exact ⟨group, route, hgroup, hroute, hmethods, hmiddleware, own, outer,
    hlevels.length_eq.symm, hnested⟩

end Signpost

import Signpost.Proofs.Route.Equality

namespace Signpost

namespace Settings

variable {s t own parent grown : Settings} {constraints parameters : List (Value × Value)}
  {middleware : List Value}

theorem constraints_eq_of_values (h : s.constraintValues = t.constraintValues) :
    s.constraints = t.constraints := by
  refine List.map_injective_iff.mpr ?_ h
  rintro ⟨name, pattern⟩ ⟨name', pattern'⟩ hentry
  obtain ⟨rfl, hpattern⟩ := Prod.mk.inj hentry
  rw [Value.str.inj hpattern]

-- Settings to which constraints, parameters and middleware were added.
structure Adds (s t : Settings) (constraints parameters : List (Value × Value))
    (middleware : List Value) : Prop where
  classNamespace : t.classNamespace = s.classNamespace
  methods : t.methods = s.methods
  constraints : t.constraintValues = Entries.update s.constraintValues constraints
  parameters : t.parameters = Entries.update s.parameters parameters
  middleware : t.middleware = s.middleware ++ middleware

theorem adds_of_ofFields
    (h : ofFields { s.fields with
        constraints := .mapping (Entries.update s.constraintValues constraints)
        parameters := .mapping (Entries.update s.parameters parameters)
        middleware := .tuple (s.middleware ++ middleware) } = .ok t) :
    s.Adds t constraints parameters middleware := by
  have hstates := states_of_ofFields h
  have hread := (ofFields_eq_ok.mp h).methods
  exact
    { classNamespace := hstates.classNamespace
      methods := Except.ok.inj (hread.symm.trans (readMethods_methodValues s))
      constraints := hstates.constraints _ rfl
        (Entries.distinct_update (distinct_constraintValues s) constraints)
      parameters := hstates.parameters _ rfl
        (Entries.distinct_update s.parameters_distinct parameters)
      middleware := hstates.middleware _ (.inr rfl) }

-- Whether middleware completes an inherited chain that the own one does not begin with.
def completes (inherited own added : List Value) : Bool :=
  inherited.isPrefixOf (own ++ added) && !inherited.isPrefixOf own

theorem completes_nil (inherited own : List Value) : completes inherited own [] = false := by
  rw [completes, List.append_nil, Bool.and_not_self]

theorem ne_nil_of_completes {inherited own added : List Value}
    (h : completes inherited own added = true) : inherited ≠ [] := by
  rintro rfl
  simp [completes, List.isPrefixOf] at h

theorem chain_append_of_completes {inherited own added : List Value}
    (h : completes inherited own added = true) :
    chain inherited (own ++ added) = own ++ added ∧
      chain inherited own ++ added = inherited ++ (own ++ added) := by
  rw [completes, Bool.and_eq_true, Bool.not_eq_true'] at h
  rw [chain, if_pos h.1, chain, if_neg (Bool.eq_false_iff.mp h.2), List.append_assoc]
  exact ⟨rfl, rfl⟩

theorem chain_append_of_not_completes {inherited own added : List Value}
    (h : completes inherited own added = false) :
    chain inherited (own ++ added) = chain inherited own ++ added := by
  rw [chain, chain]
  cases hown : inherited.isPrefixOf own with
  | true => rw [Value.isPrefixOf_trans hown (Value.isPrefixOf_append own added)]; rfl
  | false =>
      rw [completes, hown, Bool.not_false, Bool.and_true] at h
      rw [h]
      exact (List.append_assoc ..).symm

-- What is added before inheriting and after it comes to the same, unless the middleware does not.
theorem Adds.inherit_eq (hgrown : own.Adds grown constraints parameters middleware)
    (hafter : (own.inherit parent).Adds t constraints parameters middleware)
    (hconstraints : ∀ entry ∈ constraints, entry.1.fixed = true)
    (hparameters : ∀ entry ∈ parameters, entry.1.fixed = true)
    (hmiddleware : completes parent.middleware own.middleware middleware = false) :
    grown.inherit parent = t := by
  have hkeys : ∀ {entries : List (Value × Value)}, (∀ entry ∈ entries, entry.1.fixed = true) →
      ∀ entry ∈ entries, Entries.Exchangeable entry.1 :=
    fun h entry hmem => Value.exchangeable_of_fixed (h entry hmem)
  refine Settings.ext ?_ ?_ (constraints_eq_of_values ?_) ?_ ?_
  · rw [hafter.classNamespace]
    show (if grown.classNamespace != .null then _ else _) = _
    rw [hgrown.classNamespace]
    rfl
  · rw [inherit_methods, hgrown.methods, hafter.methods, inherit_methods]
  · rw [inherit_constraintValues, hgrown.constraints, hafter.constraints, inherit_constraintValues]
    exact Entries.update_update (distinct_constraintValues own) (hkeys hconstraints)
  · rw [inherit_parameters, hgrown.parameters, hafter.parameters, inherit_parameters]
    exact Entries.update_update own.parameters_distinct (hkeys hparameters)
  · rw [hafter.middleware]
    show chain parent.middleware grown.middleware = _
    rw [hgrown.middleware]
    exact chain_append_of_not_completes hmiddleware

theorem Adds.middleware_of_completes (hgrown : own.Adds grown constraints parameters middleware)
    (hafter : (own.inherit parent).Adds t constraints parameters middleware)
    (hcompletes : completes parent.middleware own.middleware middleware = true) :
    (grown.inherit parent).middleware = own.middleware ++ middleware ∧
      t.middleware = parent.middleware ++ (own.middleware ++ middleware) := by
  obtain ⟨hfirst, hlast⟩ := chain_append_of_completes hcompletes
  constructor
  · show chain parent.middleware grown.middleware = _
    rw [hgrown.middleware, hfirst]
  · rw [hafter.middleware]
    exact hlast

-- The middleware that a change puts behind that of the route.
def Change.addedMiddleware : Settings.Change → List Value
  | .withMiddleware middleware => middleware
  | _ => []

-- Constraints, parameters or middleware are added, under keys that a mapping can have.
def Change.IsAddition : Settings.Change → Prop
  | .constrain parameter _ => ∀ entries, parameter = .mapping entries →
      ∀ entry ∈ entries, entry.1.fixed = true
  | .withParameters parameters => ∀ entry ∈ parameters, entry.1.fixed = true
  | .withMiddleware _ => True
  | _ => False

theorem fixed_of_addedConstraints {parameter pattern : Value} {added : List (Value × Value)}
    (hkeys : ∀ entries, parameter = .mapping entries → ∀ entry ∈ entries, entry.1.fixed = true)
    (h : Route.addedConstraints parameter pattern = .ok added) :
    ∀ entry ∈ added, entry.1.fixed = true := by
  obtain hmapping | ⟨hfixed, rfl⟩ := cases_of_addedConstraints h
  · exact hkeys added hmapping
  · exact List.forall_mem_singleton.mpr hfixed

-- An addition adds the same to all settings.
theorem exists_adds {change : Settings.Change} (haddition : change.IsAddition)
    (h : own.revise change = .ok grown) :
    ∃ constraints parameters : List (Value × Value),
      (∀ entry ∈ constraints, entry.1.fixed = true) ∧
      (∀ entry ∈ parameters, entry.1.fixed = true) ∧
      ∀ s t : Settings, s.revise change = .ok t →
        s.Adds t constraints parameters change.addedMiddleware := by
  have hnone : ∀ entry ∈ ([] : List (Value × Value)), entry.1.fixed = true := by simp
  cases change with
  | constrain parameter pattern =>
      obtain ⟨added, hadded, -⟩ := Except.bind_eq_ok.mp h
      refine ⟨added, [], fixed_of_addedConstraints haddition hadded, hnone, fun s t ht => ?_⟩
      rw [revise, hadded, Except.bind_ok] at ht
      have hadds : s.Adds t added [] [] := adds_of_ofFields (by rw [List.append_nil]; exact ht)
      exact hadds
  | withParameters parameters =>
      refine ⟨[], parameters, hnone, haddition, fun s t ht => ?_⟩
      have hadds : s.Adds t [] parameters [] := adds_of_ofFields (by rw [List.append_nil]; exact ht)
      exact hadds
  | withMiddleware middleware =>
      exact ⟨[], [], hnone, hnone, fun s t ht => adds_of_ofFields ht⟩
  | inherit parent => exact haddition.elim
  | constrainIn parameter values => exact haddition.elim
  | withMethods methods => exact haddition.elim
  | withNamespace classNamespace => exact haddition.elim

end Settings

namespace Route

variable {route before after : Route} {parent : Inherited} {addition : Settings.Change}

instance : ReflBEq Route :=
  ⟨agree_iff.mpr ⟨rfl, rfl, .refl _, Value.same_refl _, Value.same_refl _, rfl, rfl⟩⟩

-- Two changes to the settings, one after the other.
theorem revise_of_changeAll {first second : Settings.Change} {next : Route}
    (h : (route.changeAll [.settings first, .settings second]).result = .ok next) :
    ∃ settings, route.settings.revise first = .ok settings ∧
      settings.revise second = .ok next.settings ∧
      next.toRouteDefinition = { route.toRouteDefinition with settings := next.settings } := by
  rw [changeAll, List.foldlM_cons, Logged.result_bind] at h
  obtain ⟨middle, hmiddle, h⟩ := Except.bind_eq_ok.mp h
  rw [List.foldlM_cons, Logged.result_bind] at h
  obtain ⟨last, hlast, h⟩ := Except.bind_eq_ok.mp h
  obtain rfl : last = next := Except.ok.inj h
  obtain ⟨settings, hfirst, hmiddle⟩ := Except.bind_eq_ok.mp (change_eq_ok.mp hmiddle)
  obtain ⟨settings', hsecond, hlast⟩ := Except.bind_eq_ok.mp (change_eq_ok.mp hlast)
  have hmiddle := Except.ok.inj hmiddle
  have hlast := Except.ok.inj hlast
  rw [← hmiddle] at hsecond hlast
  rw [← hlast]
  exact ⟨settings, hfirst, hsecond, rfl⟩

theorem length_middleware_eq (h : (before == after) = true) :
    before.settings.middleware.length = after.settings.middleware.length :=
  (Value.sameAll_iff.mp (agree_iff.mp h).settings.middleware).length_eq

end Route

-- An addition before inheriting and the same after it, where both succeed. The routes are the
-- same, and so equal, unless middleware was added that completes the inherited chain. Then the
-- route that has it first keeps its chain, and the other one has the inherited chain in front.
theorem Route.addition_around_inheritance {route before after : Route} {parent : Inherited}
    {addition : Settings.Change} (haddition : addition.IsAddition)
    (hbefore : (route.changeAll [.settings addition, .settings (.inherit parent)]).result =
      .ok before)
    (hafter : (route.changeAll [.settings (.inherit parent), .settings addition]).result =
      .ok after) :
    ∃ inherited, parent.read = .ok inherited ∧
      let own := route.settings.middleware
      let added := addition.addedMiddleware
      let completed := Settings.completes inherited.middleware own added
      (added = [] → before = after) ∧
      (before == after) = !completed ∧
      (completed = false → before = after) ∧
      (completed = true → before.settings.middleware = own ++ added ∧
        after.settings.middleware = inherited.middleware ++ (own ++ added)) := by
  obtain ⟨grown, hgrown, hinherit, hbefore⟩ := revise_of_changeAll hbefore
  obtain ⟨settings, hinherit', hadded, hafter⟩ := revise_of_changeAll hafter
  obtain ⟨inherited, hread, hinherit⟩ := Settings.exists_read_of_revise hinherit
  obtain ⟨inherited', hread', rfl⟩ := Settings.exists_read_of_revise hinherit'
  obtain rfl : inherited = inherited' := Except.ok.inj (hread.symm.trans hread')
  obtain ⟨constraints, parameters, hconstraints, hparameters, hadds⟩ :=
    Settings.exists_adds haddition hgrown
  have hgrown := hadds _ _ hgrown
  have hadded := hadds _ _ hadded
  refine ⟨inherited, hread, ?_⟩
  intro own added completed
  have hsame : completed = false → before = after := by
    intro hcompletes
    have hsettings := hgrown.inherit_eq hadded hconstraints hparameters hcompletes
    apply eq_of_toRouteDefinition
    rw [hbefore, hafter, hinherit, hsettings]
  have hchains : completed = true → before.settings.middleware = own ++ added ∧
      after.settings.middleware = inherited.middleware ++ (own ++ added) := by
    intro hcompletes
    rw [hinherit]
    exact hgrown.middleware_of_completes hadded hcompletes
  refine ⟨fun hnothing => hsame ?_, ?_, hsame, hchains⟩
  · show Settings.completes inherited.middleware own added = false
    rw [hnothing, Settings.completes_nil]
  · cases hcompletes : completed with
    | false => rw [hsame hcompletes, BEq.rfl]; rfl
    | true =>
        obtain ⟨hfirst, hlast⟩ := hchains hcompletes
        have hne := List.length_pos_iff.mpr (Settings.ne_nil_of_completes hcompletes)
        refine Bool.eq_false_iff.mpr fun hequal => ?_
        have hlength := length_middleware_eq hequal
        rw [hfirst, hlast] at hlength
        simp only [List.length_append] at hlength
        omega

-- A constraint that is added over the one of the group, and one that the group does not have.
theorem Route.addition_around_inheritance_item :
    let constraints : Value := .mapping [(.str "slug", .str "[a-z]+"), (.str "id", .str "[0-9]+")]
    let addition : Settings.Change := .constrain constraints .null
    let group : Value := .mapping [(.str "where", .mapping [(.str "id", .str "[0-9a-f]+")]),
      (.str "middleware", .tuple [.str "auth"])]
    ∃ route before after : Route,
      (Route.make default "/item/{id}" (.str "Items@show")).result = .ok route ∧
      (route.changeAll [.settings addition, .settings (.inherit (.stated group))]).result =
        .ok before ∧
      (route.changeAll [.settings (.inherit (.stated group)), .settings addition]).result =
        .ok after ∧
      before = after := by
  intro constraints addition group
  have hseen : (Route.make default "/item/{id}" (.str "Items@show")).result.toOption.bind
      (fun route =>
      (route.changeAll
          [.settings addition, .settings (.inherit (.stated group))]).result.toOption.bind
        fun _ => (route.changeAll
          [.settings (.inherit (.stated group)), .settings addition]).result.toOption.bind
        fun _ => some true) = some true := by decide +kernel
  obtain ⟨route, hroute, hseen⟩ := Except.exists_ok_of_bind hseen
  obtain ⟨before, hbefore, hseen⟩ := Except.exists_ok_of_bind hseen
  obtain ⟨after, hafter, -⟩ := Except.exists_ok_of_bind hseen
  have haddition : addition.IsAddition := by
    intro entries hentries entry hmem
    obtain rfl := Value.mapping.inj hentries
    simp only [List.mem_cons, List.not_mem_nil, or_false] at hmem
    rcases hmem with rfl | rfl <;> rfl
  obtain ⟨inherited, -, hsame, -⟩ := Route.addition_around_inheritance haddition hbefore hafter
  exact ⟨route, before, after, hroute, hbefore, hafter, hsame rfl⟩

-- Middleware that is the chain of the group: what has it first is taken to have inherited it.
theorem Route.middleware_added_first :
    let addition : Settings.Change := .withMiddleware [.str "auth"]
    let group : Value := .mapping [(.str "middleware", .tuple [.str "auth"])]
    ∃ route before after : Route,
      (Route.make default "/x" (.str "Page@show")).result = .ok route ∧
      (route.changeAll [.settings addition, .settings (.inherit (.stated group))]).result =
        .ok before ∧
      (route.changeAll [.settings (.inherit (.stated group)), .settings addition]).result =
        .ok after ∧
      before.settings.middleware.map Value.text = ["'auth'"] ∧
      after.settings.middleware.map Value.text = ["'auth'", "'auth'"] ∧
      (before == after) = false := by
  intro addition group
  have hseen : (Route.make default "/x" (.str "Page@show")).result.toOption.bind (fun route =>
      (route.changeAll
          [.settings addition, .settings (.inherit (.stated group))]).result.toOption.bind
        fun before => (route.changeAll
          [.settings (.inherit (.stated group)), .settings addition]).result.toOption.bind
        fun after => some (before.settings.middleware.map Value.text,
          after.settings.middleware.map Value.text, before == after)) =
      some (["'auth'"], ["'auth'", "'auth'"], false) := by decide +kernel
  obtain ⟨route, hroute, hseen⟩ := Except.exists_ok_of_bind hseen
  obtain ⟨before, hbefore, hseen⟩ := Except.exists_ok_of_bind hseen
  obtain ⟨after, hafter, hseen⟩ := Except.exists_ok_of_bind hseen
  simp only [Option.some.injEq, Prod.mk.injEq] at hseen
  exact ⟨route, before, after, hroute, hbefore, hafter, hseen⟩

end Signpost

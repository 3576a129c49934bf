import Signpost.Proofs.Route.Change
import Signpost.Proofs.Settings.Equality

namespace Signpost

open Value (Keyed)

-- A change by values as a host can have them. Where only texts are read of a value, it makes no
-- difference what else it may be.
def Settings.Change.Proper : Settings.Change → Prop
  | .inherit parent => parent.Proper
  | .constrain parameter pattern => parameter.proper = true ∧ pattern.proper = true
  | .constrainIn parameter _ => parameter.proper = true
  | .withMethods _ => True
  | .withMiddleware middleware => Value.properAll middleware = true
  | .withParameters parameters => (Value.mapping parameters).proper = true
  | .withNamespace classNamespace => classNamespace.proper = true

def Route.Change.Proper : Route.Change → Prop
  | .settings change => change.Proper
  | _ => True

namespace Settings

variable {s t : Settings} {change : Settings.Change}

-- What is added is a mapping as it is, or one pattern under a name.
theorem cases_of_addedConstraints {parameter pattern : Value} {added : List (Value × Value)}
    (h : Route.addedConstraints parameter pattern = .ok added) :
    parameter = .mapping added ∨ parameter.fixed = true ∧ added = [(parameter, pattern)] := by
  unfold Route.addedConstraints at h
  split at h
  · exact .inl (congrArg Value.mapping (Except.ok.inj h))
  · cases h
  · split at h
    next hfixed => exact .inr ⟨hfixed, (Except.ok.inj h).symm⟩
    next => cases h

theorem proper_of_addedConstraints {parameter pattern : Value} {added : List (Value × Value)}
    (hparameter : parameter.proper = true) (hpattern : pattern.proper = true)
    (h : Route.addedConstraints parameter pattern = .ok added) :
    (Value.mapping added).proper = true := by
  obtain hmapping | ⟨hfixed, rfl⟩ := cases_of_addedConstraints h
  · rwa [hmapping] at hparameter
  · exact Value.proper_mapping_iff.mpr
      ⟨⟨List.pairwise_singleton _ _, by simpa using hfixed⟩, by simpa using hpattern⟩

-- The constraints that are added count before those that were there, on either side.
theorem Agree.constrained (h : s.Agree t) (hkeys : s.KeysFixed) {added : List (Value × Value)}
    (hadded : Keyed added) :
    SettingsFields.Agree
      { s.fields with constraints := .mapping (Entries.update s.constraintValues added) }
      { t.fields with constraints := .mapping (Entries.update t.constraintValues added) } := by
  have hfields := h.fields hkeys
  have hs := hkeys.keyed_constraintValues
  have ht := (h.keysFixed hkeys).keyed_constraintValues
  refine { hfields with
    constraints := .ok (.inr ⟨hs.update hadded.fixed, ht.update hadded.fixed, ?_⟩) }
  exact Value.mapping_update_beq hs ht hadded hadded h.constraints (Value.same_refl _)

theorem Agree.revise_constrain (h : s.Agree t) (hkeys : s.KeysFixed) {parameter pattern : Value}
    (hparameter : parameter.proper = true) (hpattern : pattern.proper = true) :
    Except.Rel (fun s t => s.Agree t) (s.revise (.constrain parameter pattern))
      (t.revise (.constrain parameter pattern)) := by
  rw [revise, revise]
  cases hadded : Route.addedConstraints parameter pattern with
  | error error => exact .error error error
  | ok added =>
      have hproper := proper_of_addedConstraints hparameter hpattern hadded
      exact ofFields_rel (h.constrained hkeys (Value.proper_mapping_iff.mp hproper).1)

-- A change to equal settings leaves them equal.
theorem Agree.revise (h : s.Agree t) (hs : s.Proper) (hchange : change.Proper) :
    Except.Rel (fun s t => s.Agree t) (s.revise change) (t.revise change) := by
  have hkeys := hs.keysFixed
  have hfields := h.fields hkeys
  cases change with
  | inherit parent =>
      rw [Settings.revise, Settings.revise, ← merge_result, ← merge_result]
      exact h.merge hs hchange
  | constrain parameter pattern => exact h.revise_constrain hkeys hchange.1 hchange.2
  | constrainIn parameter values =>
      rw [Settings.revise, Settings.revise]
      cases Route.readChoices values with
      | error error => exact .error error error
      | ok choices =>
          rw [Except.bind_ok, Except.bind_ok]
          cases choices.isEmpty with
          | true => exact .error _ _
          | false => exact h.revise_constrain hkeys hchange rfl
  | withMethods methods =>
      have hmethods : s.methodValues = t.methodValues := by
        rw [methodValues, methodValues, h.methods]
      exact ofFields_rel { hfields with methods := by rw [hmethods] }
  | withMiddleware middleware =>
      refine ofFields_rel { hfields with middleware := .ok ?_ }
      exact Value.sameAll_append h.middleware (Value.sameAll_refl middleware)
  | withParameters parameters =>
      have hs := hkeys.keyed_parameters
      have ht := (h.keysFixed hkeys).keyed_parameters
      have hadded := (Value.proper_mapping_iff.mp hchange).1
      refine ofFields_rel { hfields with
        parameters := .ok (.inr ⟨hs.update hadded.fixed, ht.update hadded.fixed, ?_⟩) }
      exact Value.mapping_update_beq hs ht hadded hadded h.parameters (Value.same_refl _)
  | withNamespace classNamespace =>
      exact ofFields_rel { hfields with classNamespace := Value.same_refl classNamespace }

theorem Proper.revise_constrain (hs : s.Proper) {parameter pattern : Value}
    (hparameter : parameter.proper = true) (hpattern : pattern.proper = true)
    (h : s.revise (.constrain parameter pattern) = .ok t) : t.Proper := by
  obtain ⟨added, hadded, h⟩ := Except.bind_eq_ok.mp h
  obtain ⟨hkeyed, hvalues⟩ :=
    Value.proper_mapping_iff.mp (proper_of_addedConstraints hparameter hpattern hadded)
  refine proper_of_ofFields h { hs.fields with constraints := ?_ }
  exact Value.proper_update (hs .constraints) fun entry hmem =>
    ⟨hkeyed.fixed entry hmem, hvalues entry hmem⟩

-- A change by proper values leaves settings proper.
theorem Proper.revise (hs : s.Proper) (hchange : change.Proper) (h : s.revise change = .ok t) :
    t.Proper := by
  cases change with
  | inherit parent =>
      obtain ⟨inherited, hread, rfl⟩ := exists_read_of_revise h
      exact hs.inherit (proper_of_read hchange hread)
  | constrain parameter pattern => exact hs.revise_constrain hchange.1 hchange.2 h
  | constrainIn parameter values =>
      obtain ⟨choices, -, h⟩ := Except.bind_eq_ok.mp h
      split at h
      · cases h
      · exact hs.revise_constrain hchange rfl h
  | withMethods methods =>
      rw [Settings.revise] at h
      exact proper_of_ofFields h { hs.fields with }
  | withMiddleware middleware =>
      rw [Settings.revise] at h
      refine proper_of_ofFields h { hs.fields with middleware := ?_ }
      rw [Value.proper, Value.properAll_iff]
      exact List.forall_mem_append.mpr ⟨Value.properAll_iff.mp hs.properAll_middleware,
        Value.properAll_iff.mp hchange⟩
  | withParameters parameters =>
      obtain ⟨hkeyed, hvalues⟩ := Value.proper_mapping_iff.mp hchange
      rw [Settings.revise] at h
      refine proper_of_ofFields h { hs.fields with parameters := ?_ }
      exact Value.proper_update (hs .parameters) fun entry hmem =>
        ⟨hkeyed.fixed entry hmem, hvalues entry hmem⟩
  | withNamespace classNamespace =>
      rw [Settings.revise] at h
      exact proper_of_ofFields h { hs.fields with classNamespace := hchange }

end Settings

-- What equal routes have in common.
structure RouteDefinition.Agree (a b : RouteDefinition) : Prop where
  template : a.template = b.template
  callback : a.callback = b.callback
  settings : a.settings.Agree b.settings
  name : (a.name == b.name) = true
  defaultNamespace : (a.defaultNamespace == b.defaultNamespace) = true
  override : a.override = b.override
  config : a.config = b.config

theorem Pattern.ofTemplate_congr {config : Config} {constraints constraints' : Constraints}
    (h : ∀ name : String,
      Entries.get? constraints (.str name) = Entries.get? constraints' (.str name))
    (template : String) :
    ofTemplate config constraints template = ofTemplate config constraints' template := by
  have hconstraint :
      Template.constraintFor config constraints = Template.constraintFor config constraints' := by
    funext name
    rw [Template.constraintFor, Template.constraintFor, h name]
  have hstep :
      Template.step config constraints template = Template.step config constraints' template := by
    funext draft c
    simp only [Template.step, Template.closePlaceholder, hconstraint]
  rw [ofTemplate, ofTemplate, Template.read, Template.read, hstep]

namespace RouteDefinition

variable {a b next : RouteDefinition} {change : Route.Change}

theorem Agree.compilesAs (h : a.Agree b) (hkeys : a.settings.KeysFixed) : a.CompilesAs b :=
  ⟨h.template, h.config, h.override, fun name _ => h.settings.get?_constraints hkeys name⟩

theorem Agree.compile_eq (h : a.Agree b) (hkeys : a.settings.KeysFixed) :
    a.compile = b.compile := by
  unfold compile
  rw [h.override, h.config, h.template,
    Pattern.ofTemplate_congr (h.settings.get?_constraints hkeys)]

theorem Agree.aim (h : a.Agree b) (className method : Value) :
    Except.Rel RouteDefinition.Agree (revise.aim a className method)
      (revise.aim b className method) := by
  unfold revise.aim
  split
  next c m =>
    cases Callback.ofNames c m with
    | error error => exact .error error error
    | ok callback => exact .ok { h with callback := rfl }
  next => split <;> exact .error _ _

-- A change to equal definitions leaves them equal.
theorem Agree.revise (h : a.Agree b) (ha : a.settings.Proper) (hchange : change.Proper) :
    Except.Rel RouteDefinition.Agree (a.revise change) (b.revise change) := by
  cases change with
  | settings change =>
      exact (h.settings.revise ha hchange).bind fun s t _ hsettings =>
        .ok { h with settings := hsettings }
  | withDefaultNamespace defaultNamespace =>
      exact .ok { h with defaultNamespace := Value.same_refl defaultNamespace }
  | withOverride override =>
      rw [RouteDefinition.revise, RouteDefinition.revise]
      cases Route.readOverride override with
      | error error => exact .error error error
      | ok override => exact .ok { h with override := rfl }
  | named name => exact .ok { h with name := Value.same_refl name }
  | withCallback className method => exact h.aim className method
  | withClass className =>
      rw [RouteDefinition.revise, RouteDefinition.revise, h.callback]
      exact h.aim className _
  | withMethod method =>
      rw [RouteDefinition.revise, RouteDefinition.revise, h.callback]
      exact h.aim _ method

theorem proper_of_revise (ha : a.settings.Proper) (hchange : change.Proper)
    (h : a.revise change = .ok next) : next.settings.Proper := by
  obtain ⟨inner, settings, rfl, hrevise, rfl⟩ | ⟨value, override, rfl, rfl⟩ |
    ⟨callback, name, value, rfl⟩ := revise_eq_ok h
  · exact ha.revise hchange hrevise
  · exact ha
  · exact ha

end RouteDefinition

namespace Route

variable {a b next : Route} {change : Route.Change} {changes : List Route.Change}

theorem agree_iff : (a == b) = true ↔ a.toRouteDefinition.Agree b.toRouteDefinition := by
  have hsame : (a == b) = true ↔ a.same b = true := Iff.rfl
  simp only [hsame, same, Bool.and_eq_true, beq_iff_eq, Settings.agree_iff]
  constructor
  · rintro ⟨⟨⟨⟨⟨⟨htemplate, hcallback⟩, hsettings⟩, hname⟩, hnamespace⟩, hoverride⟩, hconfig⟩
    exact ⟨htemplate, hcallback, hsettings, hname, hnamespace, hoverride, hconfig⟩
  · intro h
    exact ⟨⟨⟨⟨⟨⟨h.template, h.callback⟩, h.settings⟩, h.name⟩, h.defaultNamespace⟩, h.override⟩,
      h.config⟩

-- Settings that a route is made with are those it has, so a route that is stated properly is
-- proper.
theorem proper_of_make {config : Config} {template : String} {inherited : Inherited}
    {callback name defaultNamespace override : Value} (hproper : inherited.Proper)
    (h : (make config template callback inherited name defaultNamespace override).result =
      .ok a) : a.settings.Proper :=
  Settings.proper_of_read hproper (read_of_make h)

theorem proper_of_change (ha : a.settings.Proper) (hchange : change.Proper)
    (h : (a.change change).result = .ok next) : next.settings.Proper :=
  RouteDefinition.proper_of_revise ha hchange (change_eq_ok.mp h)

-- Equal definitions both compile, or neither does.
theorem ofDefinition_rel {definition definition' : RouteDefinition}
    (h : definition.Agree definition') (hkeys : definition.settings.KeysFixed) :
    Except.Rel (fun a b : Route => (a == b) = true) (ofDefinition definition).result
      (ofDefinition definition').result := by
  have hcompile := h.compile_eq hkeys
  refine .of_ok (fun a ha => ?_) fun b hb => ?_
  · obtain rfl := ofDefinition_eq_ok.mp ha
    obtain ⟨b, hb, hdefinition, -⟩ :=
      exists_ofDefinition definition' (hcompile ▸ a.compiled)
    exact ⟨b, hb, agree_iff.mpr (hdefinition ▸ h)⟩
  · obtain rfl := ofDefinition_eq_ok.mp hb
    obtain ⟨a, ha, -⟩ := exists_ofDefinition definition (hcompile ▸ b.compiled)
    exact ⟨a, ha⟩

-- A change to equal routes fails for both of them, or it leaves them equal.
theorem change_rel (h : (a == b) = true) (ha : a.settings.Proper) (hchange : change.Proper) :
    Except.Rel (fun a b : Route => (a == b) = true) (a.change change).result
      (b.change change).result := by
  rw [result_change, result_change]
  refine ((agree_iff.mp h).revise ha hchange).bind fun definition definition' hrevise hagree => ?_
  exact ofDefinition_rel hagree (RouteDefinition.proper_of_revise ha hchange hrevise).keysFixed

-- So do changes one after the other.
theorem changeAll_rel (h : (a == b) = true) (ha : a.settings.Proper)
    (hchanges : ∀ change ∈ changes, change.Proper) :
    Except.Rel (fun a b : Route => (a == b) = true) (a.changeAll changes).result
      (b.changeAll changes).result := by
  induction changes generalizing a b with
  | nil => exact .ok h
  | cons change changes ih =>
      rw [List.forall_mem_cons] at hchanges
      rw [changeAll, changeAll, List.foldlM_cons, List.foldlM_cons, Logged.result_bind,
        Logged.result_bind]
      refine (change_rel h ha hchanges.1).bind fun next next' hnext hequal => ?_
      exact ih hequal (proper_of_change ha hchanges.1 hnext) hchanges.2

-- Equal routes that can be looked up at all fall together.
theorem sameHash_of_agree (h : a.toRouteDefinition.Agree b.toRouteDefinition)
    (hkeys : a.settings.KeysFixed) (hclass : a.settings.classNamespace.fixed = true)
    (hname : a.name.fixed = true) (hdefault : a.defaultNamespace.fixed = true) :
    a.sameHash b = .ok true := by
  have hname' : b.name.fixed = true := Value.fixed_of_same a.name b.name hname h.name
  have hdefault' : b.defaultNamespace.fixed = true :=
    Value.fixed_of_same a.defaultNamespace b.defaultNamespace hdefault h.defaultNamespace
  rw [sameHash, h.settings.sameHash hkeys hclass, Except.bind_ok, List.all_cons, List.all_cons,
    List.all_cons, List.all_cons, hname, hname', hdefault, hdefault', h.template, h.callback,
    h.name, h.defaultNamespace, h.override, h.config]
  simp
  rfl

end Route

-- Equality of routes is a congruence, and so is equality of settings. Nothing that is asked of
-- equal ones tells them apart, and whatever is done to both of them fails for both or leaves them
-- equal.
theorem Route.beq_congruence :
    (∀ a b : Route, (a == b) = true → a.settings.Proper →
      (a.settings.classNamespace.fixed = true → a.name.fixed = true →
        a.defaultNamespace.fixed = true → a.sameHash b = .ok true) ∧
      (∀ path, a.match? path = b.match? path) ∧
      (∀ method, a.allows method = b.allows method) ∧
      (∀ change : Route.Change, change.Proper →
        Except.Rel (fun a b : Route => (a == b) = true) (a.change change).result
          (b.change change).result) ∧
      ∀ changes : List Route.Change, (∀ change ∈ changes, change.Proper) →
        Except.Rel (fun a b : Route => (a == b) = true) (a.changeAll changes).result
          (b.changeAll changes).result) ∧
    ∀ s t : Settings, (s == t) = true → s.Proper →
      (s.classNamespace.fixed = true → s.sameHash t = .ok true) ∧
      (∀ method, s.allows method = t.allows method) ∧
      (∀ changes, Except.Rel (fun s t : Settings => (s == t) = true) (s.replace changes)
        (t.replace changes)) ∧
      (∀ inherited : Inherited, inherited.Proper →
        Except.Rel (fun s t : Settings => (s == t) = true) (s.merge inherited).result
          (t.merge inherited).result) ∧
      ∀ own : Settings, own.Proper →
        Except.Rel (fun s t : Settings => (s == t) = true) (own.merge (.settings s)).result
          (own.merge (.settings t)).result := by
  constructor
  · intro a b h ha
    have hagree := agree_iff.mp h
    have hkeys := ha.keysFixed
    exact ⟨sameHash_of_agree hagree hkeys, match?_eq_of_compilesAs (hagree.compilesAs hkeys),
      hagree.settings.allows_eq, fun change => change_rel h ha,
      fun changes => changeAll_rel h ha⟩
  · intro s t h hs
    have hagree := Settings.agree_iff.mp h
    have hbeq : (fun s t : Settings => (s == t) = true) = fun s t => s.Agree t :=
      funext fun s => funext fun t => propext Settings.agree_iff
    rw [hbeq]
    refine ⟨hagree.sameHash hs.keysFixed, hagree.allows_eq, hagree.replace hs.keysFixed,
      fun inherited => hagree.merge hs, fun own hown => ?_⟩
    rw [Settings.merge_result, Settings.merge_result]
    exact .ok (Settings.Agree.inherit hown hs (.refl own) hagree)

-- The same two parameters, set in different orders, with a number and a truth value that are equal.
theorem Route.beq_congruence_item :
    ∃ route p q : Route,
      (Route.make default "/item/{id}" (.str "Items@show")).result = .ok route ∧
      (route.withParameters [(.str "a", .int 1), (.str "b", .int 2)]).result = .ok p ∧
      (route.withParameters [(.str "b", .int 2), (.str "a", .bool true)]).result = .ok q ∧
      p.settings.parameters ≠ q.settings.parameters ∧ p.sameHash q = .ok true ∧
      (∀ path, p.match? path = q.match? path) ∧
      Except.Rel (fun a b : Route => (a == b) = true)
        (p.change (.settings (.constrain (.str "id") (.str "[0-9]+")))).result
        (q.change (.settings (.constrain (.str "id") (.str "[0-9]+")))).result ∧
      p.settings.sameHash q.settings = .ok true ∧
      Except.Rel (fun s t : Settings => (s == t) = true)
        (({} : Settings).merge (.settings p.settings)).result
        (({} : Settings).merge (.settings q.settings)).result := by
  have hseen : (Route.make default "/item/{id}" (.str "Items@show")).result.toOption.bind
      (fun route =>
        (route.withParameters [(.str "a", .int 1), (.str "b", .int 2)]).result.toOption.bind
          fun p =>
        (route.withParameters [(.str "b", .int 2), (.str "a", .bool true)]).result.toOption.bind
          fun q =>
        some (p == q, p.settings == q.settings,
          SettingsKey.all.all fun key => (p.settings.field key).proper,
          [p.settings.classNamespace, p.name, p.defaultNamespace].all Value.fixed,
          Entries.keys p.settings.parameters == Entries.keys q.settings.parameters)) =
      some (true, true, true, true, false) := by decide +kernel
  obtain ⟨route, hroute, hseen⟩ := Except.exists_ok_of_bind hseen
  obtain ⟨p, hp, hseen⟩ := Except.exists_ok_of_bind hseen
  obtain ⟨q, hq, hseen⟩ := Except.exists_ok_of_bind hseen
  simp only [Option.some.injEq, Prod.mk.injEq, List.all_cons, Bool.and_eq_true] at hseen
  obtain ⟨hequal, hsettings, hproper, ⟨hclass, hname, hdefault, -⟩, horder⟩ := hseen
  have hp' : p.settings.Proper := by
    intro key
    exact List.all_eq_true.mp hproper key (by cases key <;> decide)
  obtain ⟨hhash, hmatch, -, hchange, -⟩ := Route.beq_congruence.1 p q hequal hp'
  obtain ⟨hhash', -, -, -, hmerge⟩ := Route.beq_congruence.2 p.settings q.settings hsettings hp'
  refine ⟨route, p, q, hroute, hp, hq, ?_, hhash hclass hname hdefault, hmatch,
    hchange _ ⟨rfl, rfl⟩, hhash' hclass, hmerge {} Settings.proper_default⟩
  intro hsame
  rw [hsame] at horder
  simp at horder

end Signpost

import Signpost.Group
import Signpost.Proofs.Route.Definition
import Signpost.Proofs.Settings.Growth

namespace Signpost

open Settings

-- What is merged with the inherited settings, and what comes of it.
inductive Settings.Descends (inherited : Inherited) : Settings → Prop
  | merged {own s : Settings} (h : (own.merge inherited).result = .ok s) : Descends inherited s
  | handedDown {s child t : Settings} {source : Inherited} (hs : Descends inherited s)
      (hsource : source.read = .ok s) (h : (child.merge source).result = .ok t) :
      Descends inherited t
  | grown {s t : Settings} (hs : Descends inherited s) (h : Grown s t) : Descends inherited t

-- A route that comes of another by the setters that add to its settings. The setters for numbers,
-- letters and the like are `constrain` with a pattern of their own.
inductive Route.Grows (route next : Route) : Prop
  | constrain (parameter pattern : Value)
      (h : (route.constrain parameter pattern).result = .ok next)
  | constrainIn (parameter values : Value)
      (h : (route.constrainIn parameter values).result = .ok next)
  | withMethods (methods : List Value) (h : (route.withMethods methods).result = .ok next)
  | withMiddleware (middleware : List Value)
      (h : (route.withMiddleware middleware).result = .ok next)
  | withParameters (parameters : List (Value × Value))
      (h : (route.withParameters parameters).result = .ok next)
  | withNamespace (value : Value) (hset : value ≠ .null)
      (h : (route.withNamespace value).result = .ok next)

-- A group itself, and the groups nested in it at any depth.
inductive Group.Within (ancestor : Group) : Group → Prop
  | self : Within ancestor ancestor
  | subgroup {group child : Group} {values : List (Value × Value)} (hgroup : Within ancestor group)
      (h : (group.subgroup values).result = .ok child) : Within ancestor child

-- A route made within a group at any depth, and what has grown from it.
inductive Route.MadeWithin (ancestor : Group) : Route → Prop
  | made {group : Group} {template : String} {callback name : Value} {fields : SettingsFields}
      {route : Route} (hgroup : ancestor.Within group)
      (h : (group.route template callback fields name).result = .ok route) :
      MadeWithin ancestor route
  | grown {route next : Route} (hroute : MadeWithin ancestor route) (h : route.Grows next) :
      MadeWithin ancestor next

namespace Settings

variable {own s t : Settings} {inherited source : Inherited}

theorem carries_of_merge {parent : Settings} (hread : inherited.read = .ok parent)
    (h : (own.merge inherited).result = .ok s) : Carries parent s := by
  rw [merge_result, hread] at h
  obtain rfl : own.inherit parent = s := Except.ok.inj h
  exact carries_inherit own parent

theorem Carries.merge_eq {parent : Settings} (h : Carries parent s)
    (hread : inherited.read = .ok parent) : (s.merge inherited).result = .ok s := by
  rw [merge_result, hread]
  exact congrArg Except.ok h.inherit_eq

theorem Descends.carries (h : Descends inherited s) :
    ∃ parent, inherited.read = .ok parent ∧ Carries parent s := by
  induction h with
  | @merged own s h =>
      cases hread : inherited.read with
      | error error => simp [merge_result, hread, Except.map] at h
      | ok parent => exact ⟨parent, rfl, carries_of_merge hread h⟩
  | handedDown _ hsource h ih =>
      obtain ⟨parent, hread, hcarries⟩ := ih
      exact ⟨parent, hread, hcarries.trans (carries_of_merge hsource h)⟩
  | grown _ h ih =>
      obtain ⟨parent, hread, hcarries⟩ := ih
      exact ⟨parent, hread, hcarries.trans h.carries⟩

end Settings

namespace Route

variable {route next : Route} {source : Inherited}

theorem settings_of_withFields {fields : SettingsFields}
    (h : (route.withFields fields).result = .ok next) :
    Settings.ofFields fields = .ok next.settings := by
  rw [withFields, Logged.result_bind] at h
  obtain ⟨settings, hread, h⟩ := Except.bind_eq_ok.mp h
  rw [settings_of_withSettings h]
  exact hread

theorem Grows.settings (h : route.Grows next) : Settings.Grown route.settings next.settings := by
  have hconstrain : ∀ {parameter pattern : Value},
      (route.constrain parameter pattern).result = .ok next →
        Settings.Grown route.settings next.settings := by
    intro parameter pattern h
    rw [Route.constrain, Logged.result_bind] at h
    obtain ⟨added, -, h⟩ := Except.bind_eq_ok.mp h
    exact .constraints added (settings_of_withFields h)
  cases h with
  | constrain parameter pattern h => exact hconstrain h
  | constrainIn parameter values h =>
      rw [Route.constrainIn, Logged.result_bind] at h
      obtain ⟨choices, -, h⟩ := Except.bind_eq_ok.mp h
      split at h
      · cases h
      · exact hconstrain h
  | withMethods methods h => exact .methods methods (settings_of_withFields h)
  | withMiddleware middleware h => exact .middleware middleware (settings_of_withFields h)
  | withParameters parameters h => exact .parameters parameters (settings_of_withFields h)
  | withNamespace value hset h => exact .classNamespace value hset (settings_of_withFields h)

theorem inherit_eq_ok {parent : Settings} (h : Carries parent route.settings)
    (hread : source.read = .ok parent) : (route.inherit source).result = .ok route := by
  rw [inherit, Logged.result_bind, h.merge_eq hread, Except.bind_ok]
  exact ofDefinition_eq_ok.mpr rfl

theorem settings_of_inherit {parent : Settings} (hread : source.read = .ok parent)
    (h : (route.inherit source).result = .ok next) :
    next.settings = route.settings.inherit parent := by
  rw [inherit, Logged.result_bind, merge_result, hread] at h
  obtain ⟨settings, hmerge, h⟩ := Except.bind_eq_ok.mp h
  rw [settings_of_withSettings h]
  exact (Except.ok.inj hmerge).symm

end Route

namespace Group

variable {ancestor group child : Group} {route : Route}

-- A group merges what is stated for it with what it inherits.
theorem exists_own {config : Config} {values : List (Value × Value)} {parent : Inherited}
    (h : (make config values parent).result = .ok group) :
    ∃ own inherited, Settings.ofMapping (.mapping values) = .ok own ∧
      parent.read = .ok inherited ∧ group.settings = own.inherit inherited := by
  rw [make] at h
  split at h
  · cases h
  · rw [Logged.result_bind] at h
    obtain ⟨own, hown, h⟩ := Except.bind_eq_ok.mp h
    rw [Logged.result_bind, merge_result] at h
    obtain ⟨settings, hmerge, h⟩ := Except.bind_eq_ok.mp h
    obtain rfl := Except.ok.inj h
    cases hparent : parent.read with
    | error error => simp [hparent, Except.map] at hmerge
    | ok inherited =>
        rw [hparent] at hmerge
        exact ⟨own, inherited, hown, rfl, (Except.ok.inj hmerge).symm⟩

theorem carries_of_subgroup {values : List (Value × Value)}
    (h : (group.subgroup values).result = .ok child) : Carries group.settings child.settings := by
  obtain ⟨own, inherited, -, hread, hsettings⟩ := exists_own h
  obtain rfl : group.settings = inherited := Except.ok.inj hread
  rw [hsettings]
  exact carries_inherit own group.settings

theorem Within.carries (h : ancestor.Within group) : Carries ancestor.settings group.settings := by
  induction h with
  | self => exact Carries.refl _
  | subgroup _ h ih => exact ih.trans (carries_of_subgroup h)

-- A route of a group merges what its options state with the settings of the group.
theorem exists_options {template : String} {callback name : Value} {options : SettingsFields}
    (h : (group.route template callback options name).result = .ok route) :
    ∃ fields own, Route.spread options = .ok fields ∧ Settings.ofFields fields = .ok own ∧
      route.settings = own.inherit group.settings := by
  rw [Group.route, Logged.result_bind] at h
  obtain ⟨defined, hdefined, h⟩ := Except.bind_eq_ok.mp h
  rw [Route.define, Logged.result_bind] at hdefined
  obtain ⟨fields, hspread, hdefined⟩ := Except.bind_eq_ok.mp hdefined
  rw [Logged.result_bind] at hdefined
  obtain ⟨own, hread, hdefined⟩ := Except.bind_eq_ok.mp hdefined
  have hown : .ok own = Except.ok defined.settings := Route.read_of_make hdefined
  have hparent : (Inherited.stated group.handDown).read = .ok group.settings :=
    Settings.ofMapping_handDown group.settings
  refine ⟨fields, own, hspread, hread, ?_⟩
  rw [Route.settings_of_inherit hparent h, Except.ok.inj hown]

theorem carries_of_route {template : String} {callback name : Value} {fields : SettingsFields}
    (h : (group.route template callback fields name).result = .ok route) :
    Carries group.settings route.settings := by
  obtain ⟨_, own, -, -, hsettings⟩ := exists_options h
  rw [hsettings]
  exact carries_inherit own group.settings

end Group

theorem Route.MadeWithin.carries {ancestor : Group} {route : Route}
    (h : Route.MadeWithin ancestor route) : Carries ancestor.settings route.settings := by
  induction h with
  | made hgroup h => exact hgroup.carries.trans (Group.carries_of_route h)
  | grown _ h ih => exact ih.trans h.settings.carries

-- What settings hand down is read as these settings, however it is handed over.
theorem Group.read_of_mem {ancestor : Group} {source : Inherited}
    (h : source ∈ [.settings ancestor.settings, .stated ancestor.handDown,
      .handedDown ancestor.handDown]) : source.read = .ok ancestor.settings := by
  simp only [List.mem_cons, List.not_mem_nil, or_false] at h
  rcases h with rfl | rfl | rfl
  · rfl
  · exact Settings.ofMapping_handDown ancestor.settings
  · exact Settings.ofMapping_handDown ancestor.settings

-- Settings that descend from others are the same, entry by entry, after inheriting from these
-- once more. So inheriting twice is inheriting once, and a route made within nested groups is
-- not changed by any of the groups around it.
theorem inherit_again :
    (∀ (inherited : Inherited) (s : Settings), s.Descends inherited →
      (s.merge inherited).result = .ok s) ∧
    (∀ (inherited : Inherited) (own once : Settings), (own.merge inherited).result = .ok once →
      (once.merge inherited).result = .ok once) ∧
    (∀ (inherited : Inherited) (route : Route), route.settings.Descends inherited →
      (route.inherit inherited).result = .ok route ∧
      ∀ next : Route, route.Grows next → next.settings.Descends inherited) ∧
    (∀ (ancestor : Group) (route : Route), route.MadeWithin ancestor →
      ∀ source ∈ [.settings ancestor.settings, .stated ancestor.handDown,
        .handedDown ancestor.handDown], (route.inherit source).result = .ok route) := by
  have hsame : ∀ {inherited : Inherited} {s : Settings}, s.Descends inherited →
      (s.merge inherited).result = .ok s := by
    intro inherited s h
    obtain ⟨parent, hread, hcarries⟩ := h.carries
    exact hcarries.merge_eq hread
  refine ⟨fun _ _ => hsame, fun _ _ _ h => hsame (.merged h), ?_, ?_⟩
  · intro inherited route h
    obtain ⟨parent, hread, hcarries⟩ := h.carries
    exact ⟨Route.inherit_eq_ok hcarries hread, fun next hnext => h.grown hnext.settings⟩
  · intro ancestor route h source hsource
    exact Route.inherit_eq_ok h.carries (Group.read_of_mem hsource)

-- Settings with middleware of their own, and a route of a group within a group.
theorem inherit_again_admin :
    let admin : Group := { settings := { middleware := [.str "auth"] }, config := default }
    (∃ once : Settings,
      (Settings.merge { middleware := [.str "log"] } (.settings admin.settings)).result =
        .ok once ∧
      once.middleware.length = 2 ∧
      (once.merge (.settings admin.settings)).result = .ok once) ∧
    ∃ (users : Group) (route : Route),
      (admin.subgroup [(.str "middleware", .str "log")]).result = .ok users ∧
      (users.route "/users/\x7bid\x7d" (.str "Users@show")).result = .ok route ∧
      route.settings.middleware.length = 2 ∧
      (route.inherit (.handedDown admin.handDown)).result = .ok route := by
  intro admin
  constructor
  · have hseen : (Settings.merge { middleware := [.str "log"] }
        (.settings admin.settings)).result.toOption.bind
          (fun once => some once.middleware.length) = some 2 := by decide +kernel
    obtain ⟨once, h, hlength⟩ := Except.exists_ok_of_bind hseen
    exact ⟨once, h, Option.some.inj hlength, inherit_again.2.1 _ _ _ h⟩
  · have hseen : (admin.subgroup [(.str "middleware", .str "log")]).result.toOption.bind
        (fun users => (users.route "/users/\x7bid\x7d" (.str "Users@show")).result.toOption.bind
          fun route => some route.settings.middleware.length) = some 2 := by decide +kernel
    obtain ⟨users, husers, hseen⟩ := Except.exists_ok_of_bind hseen
    obtain ⟨route, hroute, hlength⟩ := Except.exists_ok_of_bind hseen
    have hmade : route.MadeWithin admin := .made (.subgroup .self husers) hroute
    exact ⟨users, route, husers, hroute, Option.some.inj hlength,
      inherit_again.2.2.2 admin route hmade _ (by simp)⟩

end Signpost

import Signpost.Proofs.Route.Grouped
import Signpost.Proofs.Route.Interchange

namespace Signpost

-- A single item that is not a collection. A text of one character holds nothing but itself.
def Value.lone : Value → Bool
  | .str text => text.length != 1
  | .function _ => true
  | _ => false

-- Fields that state their methods and their middleware as collections.
structure SettingsFields.Collected (fields : SettingsFields) : Prop where
  methods : fields.methods.lone = false
  middleware : fields.middleware.lone = false

-- A text falls into these.
def Value.characters (text : String) : List Value :=
  text.toList.map fun c => .str c.toString

namespace Value

variable {value : Value} {entries : List (Value × Value)} {text : String}

theorem length_characters (text : String) : (characters text).length = text.length := by
  rw [characters, List.length_map, String.length_toList]

-- A text of one character falls into itself.
theorem items_of_not_lone (h : (str text).lone = false) : (str text).items = .ok [.str text] := by
  have hlength : text.length = 1 := by simpa [lone] using h
  rw [← String.length_toList] at hlength
  obtain ⟨c, hc⟩ := List.length_eq_one_iff.mp hlength
  have htext : c.toString = text := String.toList_injective (by simp [hc])
  show Except.ok (characters text) = _
  rw [characters, hc, List.map_singleton, htext]

-- What counts as nothing has no entries.
theorem entries_of_not_truthy (h : value.entries = .ok entries) (htruthy : value.truthy = false) :
    entries = [] := by
  cases value with
  | mapping found =>
      obtain rfl : found = entries := Except.ok.inj h
      simpa [truthy] using htruthy
  | str text =>
      have htext : text = "" := by simpa [truthy] using htruthy
      rw [htext] at h
      exact (Except.ok.inj h).symm
  | list found =>
      have hfound : found = [] := by simpa [truthy] using htruthy
      rw [hfound] at h
      exact (Except.ok.inj h).symm
  | tuple found =>
      have hfound : found = [] := by simpa [truthy] using htruthy
      rw [hfound] at h
      exact (Except.ok.inj h).symm
  | _ => cases h

-- So it may be taken for the empty mapping.
theorem entries_or_empty (h : value.entries = .ok entries) :
    (if value.truthy then value else .mapping []).entries = .ok entries := by
  cases htruthy : value.truthy with
  | true => exact h
  | false =>
      rw [entries_of_not_truthy h htruthy]
      rfl

end Value

namespace RequestMethod

theorem eq_of_name_prefix {method other : RequestMethod}
    (h : method.name.toList <+: other.name.toList) : method = other := by
  revert h
  cases method <;> cases other <;> decide

theorem toList_name_ne_nil (method : RequestMethod) : method.name.toList ≠ [] := by
  cases method <;> decide

-- No verb is put together of other verbs.
theorem eq_singleton_of_flatMap {method : RequestMethod} {methods : List RequestMethod}
    (h : methods.flatMap (·.name.toList) = method.name.toList) : methods = [method] := by
  cases methods with
  | nil => exact (toList_name_ne_nil method h.symm).elim
  | cons first methods =>
      rw [List.flatMap_cons] at h
      obtain rfl : first = method := eq_of_name_prefix ⟨_, h⟩
      have hrest : methods.flatMap (·.name.toList) = [] := List.append_right_eq_self.mp h
      cases methods with
      | nil => rfl
      | cons second methods =>
          rw [List.flatMap_cons, List.append_eq_nil_iff] at hrest
          exact (toList_name_ne_nil second hrest.1).elim

end RequestMethod

theorem Text.toList_upper (text : String) :
    (Text.upper text).toList = text.toList.flatMap fun c => (Text.upper c.toString).toList := by
  simp [Text.upper]

namespace SettingsFields

variable {text : String} {value : Value}

-- The characters of a verb are no verbs, unless there is only one.
theorem length_eq_one_of_verbs {method : RequestMethod} {methods : List RequestMethod}
    (h : RequestMethod.ofText? text = some method)
    (hcharacters : (Value.characters text).mapM readMethod = .ok methods) : text.length = 1 := by
  have hlist : Value.characters text = (text.toList.map Char.toString).map .str :=
    (List.map_map ..).symm
  rw [hlist] at hcharacters
  have hnames := Settings.map_name_eq hcharacters
  have hverb : methods.flatMap (·.name.toList) = method.name.toList := by
    rw [RequestMethod.ofText?_eq_some.mp h, Text.toList_upper]
    calc methods.flatMap (·.name.toList)
        = (methods.map RequestMethod.name).flatMap String.toList := (List.flatMap_map ..).symm
      _ = text.toList.flatMap fun c => (Text.upper c.toString).toList := by
          rw [hnames, List.map_map, List.flatMap_map]
          rfl
  have hlength := congrArg List.length hnames
  rw [RequestMethod.eq_singleton_of_flatMap hverb] at hlength
  rw [← String.length_toList]
  simpa using hlength.symm

theorem methodList_of_not_lone (h : value.lone = false) : methodList value = value.items := by
  cases value with
  | str text => exact (Value.items_of_not_lone h).symm
  | _ => rfl

theorem readMiddleware_of_not_lone (h : value.lone = false) :
    readMiddleware value = value.items := by
  cases value with
  | str text => exact (Value.items_of_not_lone h).symm
  | function f => cases h
  | _ => rfl

theorem exists_items_of_readMethods {methods : List RequestMethod}
    (hlone : value.lone = false) (h : readMethods value = .ok methods) :
    ∃ items, value.items = .ok items ∧ readMethods (.tuple items) = .ok methods := by
  rw [readMethods, methodList_of_not_lone hlone] at h
  obtain ⟨items, hitems, h⟩ := Except.bind_eq_ok.mp h
  exact ⟨items, hitems, h⟩

-- A single verb that has fallen into characters is refused.
theorem exists_error_of_lone {methods : List RequestMethod} (hlone : value.lone = true)
    (h : readMethods value = .ok methods) :
    ∃ items error, value.items = .ok items ∧ readMethods (.tuple items) = .error error := by
  cases value with
  | str text =>
      have hlength : text.length ≠ 1 := by simpa [Value.lone] using hlone
      obtain ⟨listed, hlisted, h⟩ := Except.bind_eq_ok.mp h
      obtain rfl : [.str text] = listed := Except.ok.inj hlisted
      obtain ⟨read, hread, -⟩ := Except.bind_eq_ok.mp h
      rw [List.mapM_cons] at hread
      obtain ⟨verb, hverb, -⟩ := Except.bind_eq_ok.mp hread
      cases hcharacters : (Value.characters text).mapM readMethod with
      | error error =>
          refine ⟨Value.characters text, error, rfl, ?_⟩
          show (Value.characters text).mapM readMethod >>= _ = _
          rw [hcharacters]
          rfl
      | ok verbs =>
          exact (hlength (length_eq_one_of_verbs (ofText?_of_readMethod hverb) hcharacters)).elim
  | function f => cases h
  | _ => cases hlone

end SettingsFields

namespace Settings

variable {fields : SettingsFields} {own : Settings} {methods : List Value}

-- What was gone through is read as it was, except that its middleware is what was found there.
theorem reads_of_items (hread : Reads fields own)
    (hmethods : SettingsFields.readMethods (.tuple methods) = .ok own.methods)
    (middleware : List Value) :
    Reads
      { fields with
        methods := .tuple methods
        middleware := .tuple middleware
        constraints := if fields.constraints.truthy then fields.constraints else .mapping []
        parameters := if fields.parameters.truthy then fields.parameters else .mapping [] }
      { own with middleware } where
  classNamespace := hread.classNamespace
  methods := hmethods
  constraints := by
    obtain ⟨stated, constraints, hstated, hconstraints, hset⟩ := hread.constraints
    exact ⟨stated, constraints, Value.entries_or_empty hstated, hconstraints, hset⟩
  parameters := by
    obtain ⟨stated, hstated, hset⟩ := hread.parameters
    exact ⟨stated, Value.entries_or_empty hstated, hset⟩
  middleware := rfl

end Settings

namespace Route

variable {fields : SettingsFields} {own : Settings} {methods middleware : List Value}
  {config : Config} {template : String} {callback name : Value}

theorem define_of_items (hown : Settings.ofFields fields = .ok own)
    (hmethods : fields.methods.items = .ok methods)
    (hmiddleware : fields.middleware.items = .ok middleware)
    (hread : SettingsFields.readMethods (.tuple methods) = .ok own.methods) :
    define config template callback fields name =
      make config template callback (.settings { own with middleware }) name := by
  have hfields := Settings.ofFields_eq_ok.mpr
    (Settings.reads_of_items (Settings.ofFields_eq_ok.mp hown) hread middleware)
  rw [define, spread, hmethods, hmiddleware]
  show Logged.ofExcept (Settings.ofFields _) >>= _ = _
  rw [hfields]
  rfl

-- Settings that are stated by collections are read alike on either way.
theorem define_of_collected (hown : Settings.ofFields fields = .ok own)
    (hcollected : fields.Collected) :
    define config template callback fields name =
      make config template callback (.settings own) name := by
  have hread := Settings.ofFields_eq_ok.mp hown
  obtain ⟨methods, hmethods, hverbs⟩ :=
    SettingsFields.exists_items_of_readMethods hcollected.methods hread.methods
  have hmiddleware := hread.middleware
  rw [SettingsFields.readMiddleware_of_not_lone hcollected.middleware] at hmiddleware
  exact define_of_items hown hmethods hmiddleware hverbs

-- Of a single verb or a single function nothing can be defined.
theorem exists_error_of_define (hown : Settings.ofFields fields = .ok own)
    (h : fields.methods.lone = true ∨ ∃ f, fields.middleware = .function f) :
    ∃ error, (define config template callback fields name).result = .error error := by
  rw [result_define, spread]
  rcases h with hlone | ⟨f, hmiddleware⟩
  · obtain ⟨methods, error, hmethods, herror⟩ :=
      SettingsFields.exists_error_of_lone hlone (Settings.ofFields_eq_ok.mp hown).methods
    rw [hmethods, Except.bind_ok]
    cases hmiddleware : fields.middleware.items with
    | error error => exact ⟨error, rfl⟩
    | ok middleware =>
        refine ⟨error, ?_⟩
        rw [Except.bind_ok]
        show Settings.ofFields _ >>= _ = _
        rw [Settings.ofFields, herror]
        rfl
  · rw [hmiddleware]
    cases fields.methods.items with
    | error error => exact ⟨error, rfl⟩
    | ok methods => exact ⟨.mistyped, rfl⟩

-- A single text becomes as many items of middleware as it has characters.
theorem exists_define_of_text {text : String} {route : Route}
    (hown : Settings.ofFields fields = .ok own) (hlone : fields.methods.lone = false)
    (hmiddleware : fields.middleware = .str text)
    (h : (make config template callback (.settings own) name).result = .ok route) :
    ∃ other, (define config template callback fields name).result = .ok other ∧
      other.settings.middleware = Value.characters text := by
  obtain ⟨methods, hmethods, hverbs⟩ := SettingsFields.exists_items_of_readMethods hlone
    (Settings.ofFields_eq_ok.mp hown).methods
  have hitems : fields.middleware.items = .ok (Value.characters text) := by rw [hmiddleware]; rfl
  rw [make_settings] at h
  obtain ⟨found, hfound, h⟩ := Except.bind_eq_ok.mp h
  have hdefinition := ofDefinition_eq_ok.mp h
  have hcompiled := route.compiled
  rw [hdefinition] at hcompiled
  obtain ⟨other, hother, hsettings, -⟩ := exists_ofDefinition (statedDefinition config template
    found { own with middleware := Value.characters text } name) hcompiled
  refine ⟨other, ?_, ?_⟩
  · rw [define_of_items hown hmethods hitems hverbs, make_settings, hfound]
    exact hother
  · rw [hsettings]
    rfl

-- Nothing but collections leads to an equal route.
theorem collected_of_beq {route other : Route} (hown : Settings.ofFields fields = .ok own)
    (hroute : (make config template callback (.settings own) name).result = .ok route)
    (hother : (define config template callback fields name).result = .ok other)
    (hsame : (other == route) = true) : fields.Collected := by
  have hdefined : ∀ {error}, (define config template callback fields name).result ≠
      .error error := by
    intro error herror
    cases hother.symm.trans herror
  have hmethods : fields.methods.lone = false := by
    refine Bool.eq_false_iff.mpr fun hlone => ?_
    obtain ⟨error, herror⟩ := exists_error_of_define hown (.inl hlone)
    exact hdefined herror
  refine ⟨hmethods, ?_⟩
  cases hmiddleware : fields.middleware with
  | str text =>
      obtain ⟨spelled, hspelled, hcharacters⟩ :=
        exists_define_of_text hown hmethods hmiddleware hroute
      obtain rfl : other = spelled := Except.ok.inj (hother.symm.trans hspelled)
      have hread := (Settings.ofFields_eq_ok.mp hown).middleware
      rw [hmiddleware] at hread
      have hsingle : [.str text] = own.middleware := Except.ok.inj hread
      have hsettings : own = route.settings := Except.ok.inj (read_of_make hroute)
      have hlength := length_middleware_eq hsame
      rw [hcharacters, Value.length_characters, ← hsettings, ← hsingle] at hlength
      simp [Value.lone, hlength]
  | function f =>
      obtain ⟨error, herror⟩ := exists_error_of_define hown (.inr ⟨f, hmiddleware⟩)
      exact (hdefined herror).elim
  | _ => rfl

end Route

namespace Group

variable {fields : SettingsFields} {template : String} {callback name : Value} {group : Group}

-- A group that sets nothing makes no difference.
theorem route_result_of_isDefault (hdefault : group.settings.isDefault = true) :
    (group.route template callback fields name).result =
      (Route.define group.config template callback fields name).result := by
  rw [Group.route, Logged.result_bind]
  cases (Route.define group.config template callback fields name).result with
  | error error => rfl
  | ok alone =>
      exact Route.inherit_eq_ok (Settings.carries_of_isDefault hdefault alone.settings)
        (Settings.ofMapping_handDown group.settings)

theorem make_nothing (config : Config) :
    (make config []).result = .ok { settings := {}, config } := by
  have hnothing : ({} : Settings).handDown = [] := by
    simp [Settings.handDown, Settings.isSet, SettingsKey.all]
  have hown := Settings.ofMapping_handDown {}
  rw [hnothing] at hown
  rw [make, if_neg (by simp [Entries.keys]), Logged.result_bind]
  show Settings.ofMapping (.mapping []) >>= _ = _
  rw [hown, Except.bind_ok, Logged.result_bind, Settings.merge_result]
  show Except.ok (Settings.inherit {} {}) >>= _ = _
  rw [(Settings.Carries.refl {}).inherit_eq]
  rfl

end Group

-- A route that is defined by settings stated one by one, and through a group that sets nothing, is
-- the route of these settings exactly if methods and middleware are stated as collections, or as
-- texts of one character. Of a single verb or a single function nothing is defined, and a single
-- text becomes a chain of its characters.
theorem Route.define_iff_collected {fields : SettingsFields} {own : Settings}
    (hown : Settings.ofFields fields = .ok own) (config : Config) (template : String)
    (callback name : Value) :
    let stated := Route.make config template callback (.settings own) name
    let defined := Route.define config template callback fields name
    let grouped := Group.make config [] >>= fun group => group.route template callback fields name
    grouped.result = defined.result ∧
    (fields.Collected → defined = stated) ∧
    (fields.methods.lone = true ∨ (∃ f, fields.middleware = .function f) →
      ∃ error, defined.result = .error error) ∧
    ∀ route, stated.result = .ok route →
      (∀ text, fields.methods.lone = false → fields.middleware = .str text →
        ∃ other, defined.result = .ok other ∧
          other.settings.middleware = Value.characters text) ∧
      ((∃ other, defined.result = .ok other ∧ (other == route) = true) ↔ fields.Collected) := by
  intro stated defined grouped
  have hgrouped : grouped.result = defined.result := by
    rw [Logged.result_bind, Group.make_nothing, Except.bind_ok]
    refine Group.route_result_of_isDefault ?_
    simp [Settings.isDefault, Settings.isSet, SettingsKey.all]
  refine ⟨hgrouped, define_of_collected hown, exists_error_of_define hown,
    fun route hroute => ⟨fun text hlone hmiddleware =>
      exists_define_of_text hown hlone hmiddleware hroute, ?_, ?_⟩⟩
  · rintro ⟨other, hother, hsame⟩
    exact collected_of_beq hown hroute hother hsame
  · intro hcollected
    refine ⟨route, ?_, BEq.rfl⟩
    rw [← hroute]
    exact congrArg Logged.result (define_of_collected hown hcollected)

-- Methods and middleware stated as collections, of one kind and of another.
theorem Route.define_iff_collected_item :
    let fields : SettingsFields :=
      { methods := .list [.str "get"], middleware := .tuple [.str "auth", .str "log"]
        constraints := .mapping [(.str "id", .str "[0-9]+")] }
    ∃ (own : Settings) (route : Route), Settings.ofFields fields = .ok own ∧
      (Route.define default "/item/{id}" (.str "Items@show") fields).result = .ok route ∧
      (Route.make default "/item/{id}" (.str "Items@show") (.settings own)).result =
        .ok route := by
  intro fields
  have hseen : (Settings.ofFields fields).toOption.bind (fun own =>
      (Route.make default "/item/{id}" (.str "Items@show")
        (.settings own)).result.toOption.bind fun _ => some true) = some true := by
    decide +kernel
  obtain ⟨own, hown, hseen⟩ := Except.exists_ok_of_bind hseen
  obtain ⟨route, hroute, -⟩ := Except.exists_ok_of_bind hseen
  obtain ⟨-, hdefined, -⟩ := Route.define_iff_collected hown default "/item/{id}"
    (.str "Items@show") .null
  exact ⟨own, route, hown, (congrArg Logged.result (hdefined ⟨rfl, rfl⟩)).trans hroute, hroute⟩

-- A single name of middleware: settings take it as one item, a route that is defined by it has a
-- chain of four.
theorem Route.single_middleware_spelled :
    let fields : SettingsFields := { middleware := .str "auth" }
    ∃ (own : Settings) (route other : Route), Settings.ofFields fields = .ok own ∧
      (Route.make default "/x" (.str "Page@show") (.settings own)).result = .ok route ∧
      (Route.define default "/x" (.str "Page@show") fields).result = .ok other ∧
      route.settings.middleware.map Value.text = ["'auth'"] ∧
      other.settings.middleware.map Value.text = ["'a'", "'u'", "'t'", "'h'"] ∧
      (other == route) = false := by
  intro fields
  have hseen : (Settings.ofFields fields).toOption.bind (fun own =>
      (Route.make default "/x" (.str "Page@show") (.settings own)).result.toOption.bind fun route =>
        (Route.define default "/x" (.str "Page@show") fields).result.toOption.bind fun other =>
          some (route.settings.middleware.map Value.text,
            other.settings.middleware.map Value.text, other == route)) =
      some (["'auth'"], ["'a'", "'u'", "'t'", "'h'"], false) := by decide +kernel
  obtain ⟨own, hown, hseen⟩ := Except.exists_ok_of_bind hseen
  obtain ⟨route, hroute, hseen⟩ := Except.exists_ok_of_bind hseen
  obtain ⟨other, hother, hseen⟩ := Except.exists_ok_of_bind hseen
  simp only [Option.some.injEq, Prod.mk.injEq] at hseen
  exact ⟨own, route, other, hown, hroute, hother, hseen⟩

end Signpost

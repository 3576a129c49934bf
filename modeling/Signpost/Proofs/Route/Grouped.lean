import Signpost.Proofs.Settings.Descent
import Signpost.Proofs.Template.Acceptance

namespace Signpost

-- A route that is made of the merged settings at once.
def Group.routeMerged (group : Group) (template : String) (callback : Value)
    (fields : SettingsFields) (name : Value) : Logged Route := do
  let own ← Settings.ofFields fields
  let merged ← own.merge (.settings group.settings)
  Route.make group.config template callback (.settings merged) name

-- A template that is accepted with some constraints is accepted with the others too: the same ones
-- are in force for its placeholders, or literals stand for themselves and each of the others can be
-- read wherever a group may stand.
inductive Template.Unhindered (config : Config) (template : String)
    (constraints others : Constraints) : Prop
  | same (h : ∀ name ∈ Template.names config template,
      constraintFor config others name = constraintFor config constraints name)
  | standalone (hescape : config.escapeLiterals = true)
      (h : ∀ name ∈ Template.names config template,
        Regex.Standalone (constraintFor config others name))

theorem Template.Unhindered.exists_ofTemplate {config : Config} {template : String}
    {constraints others : Constraints} {pattern : Pattern}
    (h : Template.Unhindered config template constraints others)
    (hpattern : (Pattern.ofTemplate config constraints template).result = .ok pattern) :
    ∃ pattern', (Pattern.ofTemplate config others template).result = .ok pattern' := by
  obtain ⟨text, hread, -⟩ := Template.read_of_ofTemplate hpattern
  obtain ⟨parts, hparts, -, hparameters, hsound⟩ := Template.read_eq_ok hread
  cases h with
  | same h =>
      refine Template.ofTemplate_of_same hpattern fun name hname => h name ?_
      rw [Template.names_eq hparts, ← hparameters]
      exact hname
  | standalone hescape h =>
      rw [hparameters] at hsound
      refine Template.exists_ofTemplate hescape hparts hsound.identifiers hsound.names
        fun parameter hmem => (h parameter.name ?_).fits
      rw [Template.names_eq hparts]
      exact List.mem_map_of_mem hmem

namespace Route

-- The definition of a route that is stated by settings and a name.
def statedDefinition (config : Config) (template : String) (callback : Callback)
    (settings : Settings) (name : Value) : RouteDefinition where
  template := template
  callback := callback
  settings := settings
  name := name
  defaultNamespace := .null
  override := none
  config := config

theorem make_settings (config : Config) (template : String) (callback : Value)
    (settings : Settings) (name : Value) :
    (make config template callback (.settings settings) name).result =
      Callback.ofValue config callback >>= fun found =>
        (ofDefinition (statedDefinition config template found settings name)).result := by
  rw [make, Logged.result_bind]
  rfl

theorem result_define (config : Config) (template : String) (callback : Value)
    (fields : SettingsFields) (name : Value) :
    (define config template callback fields name).result =
      spread fields >>= fun fields => Settings.ofFields fields >>= fun own =>
        (make config template callback (.settings own) name).result := by
  rw [define, Logged.result_bind]
  refine congrArg (spread fields >>= ·) (funext fun fields => ?_)
  rw [Logged.result_bind]
  rfl

theorem define_result {fields : SettingsFields} (hspread : spread fields = .ok fields)
    (config : Config) (template : String) (callback name : Value) :
    (define config template callback fields name).result =
      Settings.ofFields fields >>= fun own =>
        (make config template callback (.settings own) name).result := by
  rw [result_define, hspread, Except.bind_ok]

end Route

namespace Group

variable {fields : SettingsFields}

theorem routeMerged_result (group : Group) (template : String) (callback : Value)
    (fields : SettingsFields) (name : Value) :
    (group.routeMerged template callback fields name).result =
      Settings.ofFields fields >>= fun own =>
        Callback.ofValue group.config callback >>= fun found =>
          (Route.ofDefinition (Route.statedDefinition group.config template found
            (own.inherit group.settings) name)).result := by
  rw [routeMerged, Logged.result_bind]
  show Settings.ofFields fields >>= _ = _
  congr 1
  funext own
  rw [Logged.result_bind, Settings.merge_result]
  exact Route.make_settings _ _ _ _ _

-- Once the route of its own options is made, all that is left to do is to merge the settings.
theorem route_result (hspread : Route.spread fields = .ok fields) (group : Group)
    (template : String) (callback name : Value) :
    (group.route template callback fields name).result =
      (Route.define group.config template callback fields name).result >>= fun _ =>
        (group.routeMerged template callback fields name).result := by
  rw [Group.route, Logged.result_bind]
  cases hdefined : (Route.define group.config template callback fields name).result with
  | error error => rfl
  | ok alone =>
      rw [Except.bind_ok, Except.bind_ok]
      rw [Route.define_result hspread] at hdefined
      obtain ⟨own, hown, hmade⟩ := Except.bind_eq_ok.mp hdefined
      rw [Route.make_settings] at hmade
      obtain ⟨found, hfound, hmade⟩ := Except.bind_eq_ok.mp hmade
      have halone := Route.ofDefinition_eq_ok.mp hmade
      have hread : (Inherited.stated group.handDown).read = .ok group.settings :=
        Settings.ofMapping_handDown group.settings
      rw [routeMerged_result, hown, Except.bind_ok, hfound, Except.bind_ok, Route.inherit,
        Logged.result_bind, Settings.merge_result, hread]
      show (Route.ofDefinition { alone.toRouteDefinition with settings := _ }).result = _
      rw [halone]
      rfl

theorem spread_collected (classNamespace : Value) (methods middleware : List Value)
    (constraints parameters : List (Value × Value)) :
    Route.spread
        { classNamespace, methods := .tuple methods, constraints := .mapping constraints
          parameters := .mapping parameters, middleware := .tuple middleware } =
      .ok
        { classNamespace, methods := .tuple methods, constraints := .mapping constraints
          parameters := .mapping parameters, middleware := .tuple middleware } := by
  cases constraints <;> cases parameters <;> rfl

theorem exists_alone {group : Group} {template : String} {callback name : Value} {own : Settings}
    {route : Route} (hspread : Route.spread fields = .ok fields)
    (hown : Settings.ofFields fields = .ok own)
    (hmerged : (group.routeMerged template callback fields name).result = .ok route)
    (hfree : Template.Unhindered group.config template route.settings.constraints
      own.constraints) :
    ∃ alone, (Route.define group.config template callback fields name).result = .ok alone := by
  rw [routeMerged_result, hown, Except.bind_ok] at hmerged
  obtain ⟨found, hfound, hmade⟩ := Except.bind_eq_ok.mp hmerged
  have hdefinition := Route.ofDefinition_eq_ok.mp hmade
  have hcompiled : (Pattern.ofTemplate group.config route.settings.constraints template).result =
      .ok route.pattern := by
    have hcompiled := route.compiled
    rw [hdefinition] at hcompiled
    rw [hdefinition]
    exact hcompiled
  obtain ⟨pattern, hpattern⟩ := hfree.exists_ofTemplate hcompiled
  obtain ⟨alone, halone, -⟩ := Route.exists_ofDefinition
    (Route.statedDefinition group.config template found own name) hpattern
  refine ⟨alone, ?_⟩
  rw [Route.define_result hspread, hown, Except.bind_ok, Route.make_settings, hfound,
    Except.bind_ok, halone]

end Group

-- Through a group comes the route of the merged settings or none, and it comes exactly if the route
-- of its own options could be made as well. That can fail where a pattern is to give way to one of
-- the group, and it cannot where no such pattern could hinder the others.
theorem Group.route_merged (group : Group) (template : String) (callback name : Value)
    (classNamespace : Value) (methods middleware : List Value)
    (constraints parameters : List (Value × Value)) :
    let fields : SettingsFields :=
      { classNamespace, methods := .tuple methods, constraints := .mapping constraints
        parameters := .mapping parameters, middleware := .tuple middleware }
    (∀ route : Route, (group.route template callback fields name).result = .ok route ↔
      (group.routeMerged template callback fields name).result = .ok route ∧
      ∃ alone : Route,
        (Route.define group.config template callback fields name).result = .ok alone) ∧
    ∀ (own : Settings) (route : Route), Settings.ofFields fields = .ok own →
      (group.routeMerged template callback fields name).result = .ok route →
      Template.Unhindered group.config template route.settings.constraints own.constraints →
      (group.route template callback fields name).result = .ok route := by
  intro fields
  have hspread : Route.spread fields = .ok fields :=
    Group.spread_collected classNamespace methods middleware constraints parameters
  have hresult := Group.route_result hspread group template callback name
  have hiff : ∀ route : Route, (group.route template callback fields name).result = .ok route ↔
      (group.routeMerged template callback fields name).result = .ok route ∧
      ∃ alone : Route,
        (Route.define group.config template callback fields name).result = .ok alone := by
    intro route
    rw [hresult, Except.bind_eq_ok]
    exact ⟨fun ⟨alone, halone, h⟩ => ⟨h, alone, halone⟩,
      fun ⟨h, alone, halone⟩ => ⟨alone, halone, h⟩⟩
  refine ⟨hiff, fun own route hown hmerged hfree => (hiff route).mpr ⟨hmerged, ?_⟩⟩
  exact Group.exists_alone hspread hown hmerged hfree

-- A group whose identifiers are numbers.
def Group.numbered (config : Config) : Group where
  settings := .ofParts .null [] [(.str "id", "[0-9]+")] [] []
  config := config

theorem Group.route_merged_page :
    ∃ route : Route,
      ((Group.numbered default).routeMerged "/\x7bid\x7d" (.str "Page@show") {} .null).result =
        .ok route ∧
      ((Group.numbered default).route "/\x7bid\x7d" (.str "Page@show")).result = .ok route := by
  have hseen : ((Group.numbered default).routeMerged "/\x7bid\x7d" (.str "Page@show") {}
      .null).result.toOption.bind (fun _ => some ()) = some () := by decide +kernel
  obtain ⟨route, hmerged, -⟩ := Except.exists_ok_of_bind hseen
  refine ⟨route, hmerged, ?_⟩
  refine (Group.route_merged (Group.numbered default) "/\x7bid\x7d" (.str "Page@show") .null .null
    [] [] [] []).2 {} route rfl hmerged (.standalone rfl fun name _ => ?_)
  exact Regex.standalone_default

-- A default pattern that sets flags is refused where the group has a constraint in its place.
theorem Group.route_default_flags :
    let group := Group.numbered { (default : Config) with defaultPattern := "(?i)[a-z]+" }
    (∀ route, (group.route "/\x7bid\x7d" (.str "Page@show")).result ≠ .ok route) ∧
      ∃ route, (group.routeMerged "/\x7bid\x7d" (.str "Page@show") {} .null).result = .ok route ∧
        route.match? "/7" = .ok (some [("id", "7")]) := by
  intro group
  constructor
  · intro route hroute
    have hseen : (group.route "/\x7bid\x7d" (.str "Page@show")).result.isOk = false := by
      decide +kernel
    rw [hroute] at hseen
    cases hseen
  · have hseen : (group.routeMerged "/\x7bid\x7d" (.str "Page@show") {}
        .null).result.toOption.bind (fun route => (route.match? "/7").toOption) =
        some (some [("id", "7")]) := by decide +kernel
    obtain ⟨route, hmerged, hmatch⟩ := Except.exists_ok_of_bind hseen
    exact ⟨route, hmerged, Except.eq_ok_of_toOption hmatch⟩

end Signpost

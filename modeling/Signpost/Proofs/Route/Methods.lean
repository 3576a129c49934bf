import Mathlib.Data.List.Nodup
import Signpost.Proofs.Route.Change

namespace Signpost

namespace RequestMethod

variable {text : String}

-- A text that is a verb, in letters of any case.
def Names (text : String) : Prop :=
  Text.upper text ∈ all.map name

theorem names_iff : Names text ↔ ∃ method : RequestMethod, method.name = Text.upper text := by
  have hall (method : RequestMethod) : method ∈ all := by cases method <;> decide
  simp [Names, hall]

theorem upper_name (method : RequestMethod) : Text.upper method.name = method.name :=
  (ofText?_eq_some.mp (ofText?_name method)).symm

theorem name_injective : Function.Injective name := by
  intro a b h
  have hsame : (a.name == b.name) = true := beq_iff_eq.mpr h
  rw [name_beq] at hsame
  exact eq_of_beq hsame

theorem union_union_nil (first second : List RequestMethod) :
    union first (union [] second) = union first second := by
  rw [union_assoc]
  rfl

-- To methods that come once each, the union adds those that are not there yet.
theorem union_eq_filter {second : List RequestMethod} (first : List RequestMethod)
    (h : second.Nodup) : union first second = first ++ second.filter (· ∉ first) := by
  unfold union
  induction second generalizing first with
  | nil => simp
  | cons method second ih =>
      -- What comes later is not the method that is added now.
      obtain ⟨hnew, hrest⟩ := List.nodup_cons.mp h
      rw [List.foldl_cons, ih _ hrest, add]
      split
      next hmem => simp [hmem]
      next hmem =>
        have hsame : second.filter (· ∉ first ++ [method]) = second.filter (· ∉ first) := by
          refine List.filter_congr fun other hother => ?_
          simp [ne_of_mem_of_not_mem hother hnew]
        rw [hsame, List.filter_cons_of_pos (by simpa using hmem), List.append_assoc]
        rfl

theorem union_append (first second : List RequestMethod) :
    union [] (first ++ second) = union (union [] first) (union [] second) := by
  rw [union_union_nil]
  exact List.foldl_append

end RequestMethod

namespace SettingsFields

variable {text : String} {texts : List String} {methods : List RequestMethod}

-- The methods that are listed by their names.
def readVerbs (texts : List String) : Except Error (List RequestMethod) :=
  readMethods (.list (texts.map .str))

theorem readVerbs_eq (texts : List String) : readVerbs texts =
    (texts.map Value.str).mapM readMethod >>= fun methods => .ok (RequestMethod.union [] methods) :=
  rfl

theorem exists_readMethod_iff :
    (∃ method, readMethod (.str text) = .ok method) ↔ RequestMethod.Names text := by
  rw [RequestMethod.names_iff]
  constructor
  · rintro ⟨method, h⟩
    exact ⟨method, RequestMethod.ofText?_eq_some.mp (ofText?_of_readMethod h)⟩
  · rintro ⟨method, h⟩
    exact ⟨method, by simp [readMethod, RequestMethod.ofText?_eq_some.mpr h]⟩

theorem readMethod_eq_error {error : Error} (h : readMethod (.str text) = .error error) :
    error = .configuration (.unknownMethod text) := by
  cases hfound : RequestMethod.ofText? text with
  | none => simpa [readMethod, hfound] using h.symm
  | some found => simp [readMethod, hfound] at h

theorem exists_readVerbs_iff :
    (∃ methods, readVerbs texts = .ok methods) ↔ ∀ text ∈ texts, RequestMethod.Names text := by
  rw [readVerbs_eq, Except.exists_bind_ok_iff, Except.exists_mapM_eq_ok_iff, List.forall_mem_map]
  exact forall₂_congr fun text _ => exists_readMethod_iff

-- The first text that is no verb is the one that is reported.
theorem exists_of_readVerbs_eq_error {error : Error} (h : readVerbs texts = .error error) :
    ∃ front text back, texts = front ++ text :: back ∧
      (∀ earlier ∈ front, RequestMethod.Names earlier) ∧ ¬ RequestMethod.Names text ∧
      error = .configuration (.unknownMethod text) := by
  rw [readVerbs_eq, Except.bind_ok_eq_error_iff] at h
  obtain ⟨front, value, back, htexts, hfront, hvalue⟩ := Except.exists_of_mapM_eq_error h
  obtain ⟨front, rest, rfl, rfl, hrest⟩ := List.map_eq_append_iff.mp htexts
  obtain ⟨text, back, rfl, rfl, rfl⟩ := List.map_eq_cons_iff.mp hrest
  rw [List.forall_mem_map] at hfront
  refine ⟨front, text, back, rfl, ?_, fun hnames => ?_, readMethod_eq_error hvalue⟩
  · exact fun earlier hmem => exists_readMethod_iff.mp (hfront earlier hmem)
  · obtain ⟨method, hmethod⟩ := exists_readMethod_iff.mpr hnames
    cases hmethod.symm.trans hvalue

theorem names_of_readVerbs (h : readVerbs texts = .ok methods) :
    methods.map RequestMethod.name = Entries.firsts (texts.map Text.upper) :=
  Settings.verbs_of_readMethods (.inl rfl) h

theorem nodup_of_readVerbs (h : readVerbs texts = .ok methods) : methods.Nodup := by
  rw [← Settings.union_of_readMethods h]
  exact RequestMethod.nodup_union List.nodup_nil methods

theorem mem_of_readVerbs (h : readVerbs texts = .ok methods) {method : RequestMethod} :
    method ∈ methods ↔ ∃ text ∈ texts, Text.upper text = method.name := by
  rw [readVerbs_eq] at h
  obtain ⟨read, hread, h⟩ := Except.bind_eq_ok.mp h
  obtain rfl := Except.ok.inj h
  rw [RequestMethod.mem_union, ← List.mem_map_of_injective RequestMethod.name_injective (l := read),
    Settings.map_name_eq hread]
  simp

theorem eq_nil_of_readVerbs (h : readVerbs texts = .ok methods) : methods = [] ↔ texts = [] := by
  constructor
  · rintro rfl
    refine List.eq_nil_iff_forall_not_mem.mpr fun text hmem => ?_
    obtain ⟨method, hmethod⟩ :=
      RequestMethod.names_iff.mp (exists_readVerbs_iff.mp ⟨_, h⟩ text hmem)
    exact List.not_mem_nil ((mem_of_readVerbs h).mpr ⟨text, hmem, hmethod.symm⟩)
  · rintro rfl
    exact (Except.ok.inj h).symm

-- Methods that are listed once each are read as they are.
theorem readVerbs_names (h : methods.Nodup) :
    readVerbs (methods.map RequestMethod.name) = .ok methods := by
  rw [readVerbs, List.map_map]
  exact Settings.readMethods_names h

theorem readVerbs_append (xs ys : List String) :
    readVerbs (xs ++ ys) = readVerbs xs >>= fun first => readVerbs ys >>= fun second =>
      .ok (RequestMethod.union first second) := by
  rw [readVerbs_eq, readVerbs_eq, readVerbs_eq, List.map_append, List.mapM_append]
  cases (xs.map Value.str).mapM readMethod with
  | error error => rfl
  | ok first =>
      cases (ys.map Value.str).mapM readMethod with
      | error error => rfl
      | ok second => exact congrArg Except.ok (RequestMethod.union_append first second)

end SettingsFields

namespace Settings

open SettingsFields (readVerbs readVerbs_append readVerbs_names)

variable {s : Settings} {texts : List String}

-- What settings allow whose methods were listed: any spelling of what is in the list.
theorem allows_iff_of_readVerbs {text : String} (h : readVerbs texts = .ok s.methods) :
    s.allows text = true ↔
      texts = [] ∨ ∃ listed ∈ texts, Text.upper listed = Text.upper text := by
  rw [allows_iff, SettingsFields.eq_nil_of_readVerbs h]
  refine or_congr_right ⟨?_, ?_⟩
  · rintro ⟨method, hmem, hname⟩
    obtain ⟨listed, hlisted, hupper⟩ := (SettingsFields.mem_of_readVerbs h).mp hmem
    exact ⟨listed, hlisted, hupper.trans hname⟩
  · rintro ⟨listed, hlisted, hupper⟩
    obtain ⟨method, hmethod⟩ :=
      RequestMethod.names_iff.mp (SettingsFields.exists_readVerbs_iff.mp ⟨_, h⟩ listed hlisted)
    exact ⟨method, (SettingsFields.mem_of_readVerbs h).mpr ⟨listed, hlisted, hmethod.symm⟩,
      hmethod.trans hupper⟩

-- Settings with some methods besides their own.
def withVerbs (s : Settings) (methods : List RequestMethod) : Settings :=
  { s with
    methods := RequestMethod.union s.methods methods
    methods_nodup := RequestMethod.nodup_union s.methods_nodup methods }

theorem revise_withMethods (s : Settings) (texts : List String) :
    s.revise (.withMethods (texts.map .str)) = readVerbs texts >>= fun methods =>
      .ok (s.withVerbs methods) := by
  have hmethods : SettingsFields.readMethods (.tuple (s.methodValues ++ texts.map .str)) =
      readVerbs texts >>= fun methods => .ok (RequestMethod.union s.methods methods) := by
    have hvalues : s.methodValues = (s.methods.map RequestMethod.name).map .str :=
      (List.map_map ..).symm
    calc SettingsFields.readMethods (.tuple (s.methodValues ++ texts.map .str))
        = readVerbs (s.methods.map RequestMethod.name ++ texts) := by
          rw [hvalues, ← List.map_append]
          rfl
      _ = readVerbs texts >>= fun methods => .ok (RequestMethod.union s.methods methods) := by
          rw [readVerbs_append, readVerbs_names s.methods_nodup, Except.bind_ok]
  show ofFields { s.fields with methods := .tuple (s.methodValues ++ texts.map .str) } = _
  cases hread : readVerbs texts with
  | error error =>
      rw [hread] at hmethods
      simp only [ofFields, hmethods, Except.error_bind]
  | ok methods =>
      rw [hread] at hmethods
      have hfields := reads_fields s
      exact ofFields_eq_ok.mpr
        { classNamespace := rfl
          methods := hmethods
          constraints := hfields.constraints
          parameters := hfields.parameters
          middleware := hfields.middleware }

theorem inherit_withVerbs (s : Settings) (methods : List RequestMethod) :
    s.inherit (withVerbs {} methods) = s.withVerbs methods := by
  refine Settings.ext ?_ ?_ ?_ ?_ rfl
  · by_cases hnamespace : s.classNamespace = .null
    · rw [inherit_classNamespace_of_null hnamespace]
      exact hnamespace.symm
    · exact inherit_classNamespace_of_ne hnamespace
  · rw [inherit_methods]
    exact RequestMethod.union_union_nil s.methods methods
  · rw [inherit_constraints]
    exact Entries.ofList_of_distinct s.constraints_distinct
  · rw [inherit_parameters]
    exact Entries.ofList_of_distinct s.parameters_distinct

-- Settings that state methods only.
def methodsOnly (texts : List String) : Value :=
  .mapping [(.str "methods", .list (texts.map .str))]

theorem ofMapping_methodsOnly (texts : List String) :
    ofMapping (methodsOnly texts) = readVerbs texts >>= fun methods =>
      .ok (withVerbs {} methods) := by
  have hfields : SettingsFields.ofMapping (methodsOnly texts) =
      .ok { methods := .list (texts.map .str) } := by
    have hkey : SettingsKey.ofValue? (.str "methods") = some .methods := ofValue?_name .methods
    simp [SettingsFields.ofMapping, methodsOnly, Value.items, Value.items?, Entries.keys,
      Value.fixed, hkey, SettingsFields.setEntry, SettingsFields.set]
    rfl
  rw [ofMapping, hfields, Except.bind_ok]
  have hmethods : SettingsFields.readMethods (.list (texts.map .str)) = readVerbs texts := rfl
  cases hread : readVerbs texts with
  | error error => simp only [ofFields, hmethods, hread, Except.error_bind]
  | ok methods =>
      have hunion : RequestMethod.union [] methods = methods := union_of_readMethods hread
      exact ofFields_eq_ok.mpr
        { classNamespace := rfl
          methods := by
            rw [hmethods, hread]
            exact congrArg Except.ok hunion.symm
          constraints := ⟨[], [], rfl, rfl, rfl⟩
          parameters := ⟨[], rfl, rfl⟩
          middleware := rfl }

-- Verbs that are added and verbs that are inherited make the same settings.
theorem revise_inherit_methodsOnly (s : Settings) (texts : List String) :
    s.revise (.inherit (.stated (methodsOnly texts))) =
      s.revise (.withMethods (texts.map .str)) := by
  rw [revise_withMethods]
  show (ofMapping (methodsOnly texts)).map s.inherit = _
  rw [ofMapping_methodsOnly]
  cases readVerbs texts with
  | error error => rfl
  | ok methods => exact congrArg Except.ok (inherit_withVerbs s methods)

end Settings

namespace Route

open SettingsFields (readVerbs)

variable {route other : Route} {source : Inherited} {parent : Settings} {texts : List String}

theorem withMethods_eq_inherit (route : Route) (texts : List String) :
    (route.withMethods (texts.map .str)).result =
      (route.inherit (.stated (Settings.methodsOnly texts))).result := by
  have hadded := result_change_settings route (.withMethods (texts.map .str))
  have hinherited := result_change_settings route (.inherit (.stated (Settings.methodsOnly texts)))
  rw [Settings.revise_inherit_methodsOnly] at hinherited
  exact hadded.trans hinherited.symm

-- The same methods come from a parent that states more than these.
theorem exists_withMethods_of_inherit (hread : source.read = .ok parent)
    (hverbs : readVerbs texts = .ok parent.methods)
    (hinherit : (route.inherit source).result = .ok other) :
    ∃ added, (route.withMethods (texts.map .str)).result = .ok added ∧
      added.settings.methods = other.settings.methods := by
  let settings := route.settings.withVerbs parent.methods
  have hcompiled : RouteDefinition.compile { route.toRouteDefinition with settings } =
      route.toRouteDefinition.compile := rfl
  obtain ⟨added, hadded, hdefinition, -⟩ := exists_ofDefinition
    { route.toRouteDefinition with settings } (hcompiled ▸ route.compiled)
  have hmethods : added.settings.methods =
      RequestMethod.union route.settings.methods parent.methods :=
    congrArg (·.settings.methods) hdefinition
  refine ⟨added, ?_, ?_⟩
  · have hchange := result_change_settings route (.withMethods (texts.map .str))
    rw [Settings.revise_withMethods, hverbs] at hchange
    exact hchange.trans hadded
  · rw [hmethods, settings_of_inherit hread hinherit, Settings.inherit_methods]

end Route

open SettingsFields (readVerbs) in
-- A list of texts is read unless one of them is no verb, and the first such text is reported. What
-- comes of it are the verbs it spells, each once and where it comes first; they are read as they
-- are, and exactly what spells one of them is allowed. Lists that are put together come to the
-- union of what they come to alone, so a route that is given verbs has the methods, and where
-- nothing else is inherited is the route, that it comes to by inheriting them.
theorem Settings.methods_combine (xs ys : List String) :
    ((∃ error, readVerbs xs = .error error) ↔ ∃ text ∈ xs, ¬ RequestMethod.Names text) ∧
    (∀ error, readVerbs xs = .error error → ∃ front text back, xs = front ++ text :: back ∧
      (∀ earlier ∈ front, RequestMethod.Names earlier) ∧ ¬ RequestMethod.Names text ∧
      error = .configuration (.unknownMethod text)) ∧
    (∀ methods, readVerbs xs = .ok methods →
      (methods.map RequestMethod.name).Nodup ∧
      methods.map RequestMethod.name = Entries.firsts (xs.map Text.upper) ∧
      readVerbs (methods.map RequestMethod.name) = .ok methods ∧
      ∀ s : Settings, s.methods = methods →
        (∀ method ∈ methods, s.allows method.name = true) ∧
        ∀ text, s.allows text = true ↔
          xs = [] ∨ ∃ listed ∈ xs, Text.upper listed = Text.upper text) ∧
    readVerbs (xs ++ ys) = (readVerbs xs >>= fun first => readVerbs ys >>= fun second =>
      .ok (RequestMethod.union first second)) ∧
    (∀ first second, readVerbs ys = .ok second →
      RequestMethod.union first second = first ++ second.filter (· ∉ first)) ∧
    ∀ route : Route,
      (route.withMethods (ys.map .str)).result =
        (route.inherit (.stated (methodsOnly ys))).result ∧
      ∀ (source : Inherited) (parent : Settings) (other : Route), source.read = .ok parent →
        readVerbs ys = .ok parent.methods → (route.inherit source).result = .ok other →
        ∃ added, (route.withMethods (ys.map .str)).result = .ok added ∧
          added.settings.methods = other.settings.methods := by
  refine ⟨⟨?_, ?_⟩, fun error h => SettingsFields.exists_of_readVerbs_eq_error h,
    fun methods h => ⟨?_, SettingsFields.names_of_readVerbs h, ?_, ?_⟩,
    SettingsFields.readVerbs_append xs ys, fun first second h => ?_, fun route => ⟨?_, ?_⟩⟩
  · rintro ⟨error, h⟩
    obtain ⟨front, text, back, rfl, -, hunknown, -⟩ := SettingsFields.exists_of_readVerbs_eq_error h
    exact ⟨text, by simp, hunknown⟩
  · rintro ⟨text, hmem, hunknown⟩
    cases hread : readVerbs xs with
    | error error => exact ⟨error, rfl⟩
    | ok methods =>
        exact (hunknown (SettingsFields.exists_readVerbs_iff.mp ⟨methods, hread⟩ text hmem)).elim
  · exact List.Nodup.map RequestMethod.name_injective (SettingsFields.nodup_of_readVerbs h)
  · exact SettingsFields.readVerbs_names (SettingsFields.nodup_of_readVerbs h)
  · rintro s rfl
    refine ⟨fun method hmem => allows_iff.mpr (.inr ⟨method, hmem, ?_⟩), fun text => ?_⟩
    · exact (RequestMethod.upper_name method).symm
    · exact allows_iff_of_readVerbs h
  · exact RequestMethod.union_eq_filter first (SettingsFields.nodup_of_readVerbs h)
  · exact Route.withMethods_eq_inherit route ys
  · exact fun source parent other hread hverbs hinherit =>
      Route.exists_withMethods_of_inherit hread hverbs hinherit

open SettingsFields (readVerbs) in
-- Verbs in letters of either case, one of them on both sides, and a parent that has middleware too.
theorem Settings.methods_combine_pages :
    let xs := ["get", "Post", "GET"]
    let ys := ["put", "post"]
    let source : Inherited := .stated (.mapping
      [(.str "methods", .tuple [.str "Put", .str "Post"]), (.str "middleware", .str "auth")])
    ∃ (route added other : Route),
      (Route.make default "/x" (.str "Page@show") (.stated (methodsOnly xs))).result = .ok route ∧
      readVerbs xs = .ok [.get, .post] ∧ readVerbs ["get", "post"] = .ok [.get, .post] ∧
      readVerbs (xs ++ ys) = .ok [.get, .post, .put] ∧
      (route.withMethods (ys.map .str)).result = .ok added ∧
      (route.inherit source).result = .ok other ∧
      added.settings.methods = other.settings.methods := by
  intro xs ys source
  have hseen : (Route.make default "/x" (.str "Page@show")
      (.stated (methodsOnly xs))).result.toOption.bind (fun route =>
        source.read.toOption.bind fun parent =>
          (route.inherit source).result.toOption.bind fun _ => some parent.methods) =
      some [.put, .post] := by decide +kernel
  obtain ⟨route, hroute, hseen⟩ := Except.exists_ok_of_bind hseen
  obtain ⟨parent, hparent, hseen⟩ := Except.exists_ok_of_bind hseen
  obtain ⟨other, hother, hmethods⟩ := Except.exists_ok_of_bind hseen
  have hmethods : parent.methods = [.put, .post] := Option.some.inj hmethods
  have hxs : readVerbs xs = .ok [.get, .post] := Except.eq_ok_of_toOption (by decide)
  have hys : readVerbs ys = .ok [.put, .post] := Except.eq_ok_of_toOption (by decide)
  obtain ⟨-, -, hread, happend, -, hroutes⟩ := Settings.methods_combine xs ys
  obtain ⟨-, -, hagain, -⟩ := hread _ hxs
  obtain ⟨added, hadded, hsame⟩ :=
    (hroutes route).2 source parent other hparent (by rw [hys, hmethods]) hother
  rw [hxs, hys] at happend
  exact ⟨route, added, other, hroute, hxs, hagain, happend, hadded, hother, hsame⟩

end Signpost

import Signpost.Proofs.Dispatch.Lookup
import Signpost.Proofs.Dispatch.Qualified

namespace Signpost

namespace Text

variable {s : Char}

-- The parts of a path of names: none is empty, and none has the character that joins them.
def Joinable (s : Char) (parts : List String) : Prop :=
  ∀ part ∈ parts, part ≠ "" ∧ s ∉ part.toList

instance (s : Char) (parts : List String) : Decidable (Joinable s parts) :=
  inferInstanceAs (Decidable (∀ part ∈ parts, part ≠ "" ∧ s ∉ part.toList))

-- What a path ends in is what its last part ends in.
theorem Joinable.endsOutside {parts : List String} (h : Joinable s parts) (separator : String) :
    EndsOutside [s] (separator.intercalate parts).toList := by
  obtain rfl | ⟨front, part, rfl⟩ := List.eq_nil_or_concat' parts
  · rintro c ⟨⟩
  · obtain ⟨hne, hplain⟩ := h part (List.mem_append_right _ (List.mem_singleton_self part))
    obtain ⟨init, c, hpart⟩ :=
      (List.eq_nil_or_concat' part.toList).resolve_left (by simpa using hne)
    have hends : (separator.intercalate (front ++ [part])).toList.getLast? = some c := by
      by_cases hfront : front = []
      · simp [hfront, hpart]
      · rw [String.intercalate_append_of_ne_nil hfront (by simp), String.intercalate_singleton,
          String.toList_append, hpart]
        simp
    rw [EndsOutside, hends]
    rintro _ ⟨⟩ hmem
    obtain rfl := List.mem_singleton.mp hmem
    rw [hpart] at hplain
    simp at hplain

end Text

namespace Dispatch

open Text (Joinable)

variable {σ : Type} {s : Char} {components : List String} {trailing : Nat} {route : Route}
  {ref : MethodRef}

def fullName (s : Char) (components : List String) (className : String) : String :=
  (String.singleton s).intercalate (components ++ [className])

-- A route to a method whose namespace is joined with the separator of its own configuration, and
-- ends in any number of separators.
structure JoinedWith (s : Char) (components : List String) (trailing : Nat) (ref : MethodRef)
    (route : Route) : Prop where
  callback : route.callback = .method ref
  separator : route.config.namespaceSeparator = String.singleton s
  classNamespace : route.classNamespace =
    .str ((String.singleton s).intercalate components ++ String.ofList (.replicate trailing s))

-- Two outcomes of looking up a target that differ only in how the class is named.
inductive Alike (name name' : String) : Except Error Target → Except Error Target → Prop
  | found (receiver : Instance) (method : String) {title title' : String} :
      Alike name name' (.ok ⟨.method receiver method, title⟩)
        (.ok ⟨.method receiver method, title'⟩)
  | noClass :
      Alike name name' (.error (.http (.classNotFound name)))
        (.error (.http (.classNotFound name')))
  | noMethod (method : String) :
      Alike name name' (.error (.http (.methodNotFound name method)))
        (.error (.http (.methodNotFound name' method)))
  | other (error : Error) : Alike name name' (.error error) (.error error)

theorem JoinedWith.qualifiedName (h : JoinedWith s components trailing ref route)
    (hcomponents : components ≠ []) (hjoinable : Joinable s components) :
    qualifiedName route = .ok (fullName s components ref.className) := by
  have hne : (String.singleton s).intercalate components ++
      String.ofList (List.replicate trailing s) ≠ "" := by
    obtain ⟨first, components, rfl⟩ := List.exists_cons_of_ne_nil hcomponents
    have hfirst := (hjoinable first (List.mem_cons_self ..)).1
    cases components <;> simp [hfirst]
  have htrim : Text.trimEnd [s] ((String.singleton s).intercalate components ++
      String.ofList (List.replicate trailing s)).toList =
      ((String.singleton s).intercalate components).toList := by
    rw [String.toList_append, String.toList_ofList, Text.trimEnd_append fun c hc => by
      rw [List.eq_of_mem_replicate hc]
      exact List.mem_singleton_self s]
    exact Text.trimEnd_eq_self_iff.mpr (hjoinable.endsOutside _)
  rw [qualifiedName_of_namespace h.callback h.classNamespace hne, h.separator, qualify,
    String.toList_singleton, htrim, String.ofList_toList, fullName,
    String.intercalate_append_of_ne_nil hcomponents (by simp), String.intercalate_singleton]

-- With full stops for its separators, a name is the dotted one.
theorem resolve_fullName (modules : Modules σ) {className : String}
    (hjoinable : Joinable s components) (hclass : s ∉ className.toList) :
    (modules.registry (String.singleton s)).resolve (fullName s components className) =
      modules.lookup (fullName '.' components className).toList := by
  have hparts : ∀ part ∈ (components ++ [className]).map String.toList, s ∉ part := by
    rw [List.forall_mem_map, List.forall_mem_append, List.forall_mem_singleton]
    exact ⟨fun part hpart => (hjoinable part hpart).2, hclass⟩
  rw [Modules.resolve_eq, fullName, String.toList_intercalate, String.toList_singleton,
    Text.replace_intercalate hparts, fullName, String.toList_intercalate, String.toList_singleton]

theorem verdict_alike (host : Host σ) {dotted : Route} (name name' : String)
    (result : Except Error (Option Instance)) :
    Alike name name' (result >>= verdict host route ref name)
      (result >>= verdict host dotted ref name') := by
  match result with
  | .error error => exact .other error
  | .ok none => exact .noClass
  | .ok (some receiver) =>
      rw [Except.bind_ok, Except.bind_ok, verdict, verdict]
      split
      · exact .found receiver ref.method
      · exact .noMethod ref.method

end Dispatch

open Dispatch in
-- The same method of a class, once in a namespace that is joined with some character and once in
-- one that is joined with full stops.
theorem Dispatch.separator_makes_no_difference {σ : Type} (host : Host σ) (modules : Modules σ)
    (state : σ) {s : Char} {components : List String} {trailing : Nat} {ref : MethodRef}
    {route dotted : Route} (hroute : JoinedWith s components trailing ref route)
    (hdotted : JoinedWith '.' components 0 ref dotted) (hcomponents : components ≠ [])
    (hjoinable : Text.Joinable s components) (hjoinable' : Text.Joinable '.' components)
    (hclass : s ∉ ref.className.toList) (hclass' : '.' ∉ ref.className.toList) :
    let (outcome, after) :=
      resolveTarget host (modules.registry (String.singleton s)) route state
    let (outcome', after') := resolveTarget host (modules.registry ".") dotted state
    let name := fullName s components ref.className
    let name' := fullName '.' components ref.className
    qualifiedName route = .ok name ∧ qualifiedName dotted = .ok name' ∧
      Alike name name' outcome.result outcome'.result ∧ after = after' := by
  have hname := hroute.qualifiedName hcomponents hjoinable
  have hname' := hdotted.qualifiedName hcomponents hjoinable'
  have hresolve := resolve_fullName modules hjoinable hclass
  have hresolve' := resolve_fullName modules hjoinable' hclass'
  have hstop : String.singleton '.' = "." := by decide
  rw [hstop] at hresolve'
  cases hlookup : modules.lookup (fullName '.' components ref.className).toList state with
  | mk outcome after =>
      obtain ⟨records, htarget⟩ := resolveTarget_of_lookup host hroute.callback hname
        ((congrFun hresolve state).trans hlookup)
      obtain ⟨records', htarget'⟩ := resolveTarget_of_lookup host hdotted.callback hname'
        ((congrFun hresolve' state).trans hlookup)
      rw [htarget, htarget']
      exact ⟨hname, hname', verdict_alike host _ _ _, rfl⟩

-- A controller of the sample application, in a namespace that two backslashes trail.
theorem Dispatch.separator_makes_no_difference_backslash :
    let modules : Modules Sample.World :=
      [("app", ⟨true, .ok []⟩),
        ("app.controllers",
          ⟨false, .ok [("UserController", .ofClass (Sample.make "UserController"))]⟩)]
    let ref : MethodRef := ⟨"UserController", "show", by decide, by decide⟩
    ∃ route dotted : Route,
      JoinedWith '\\' ["app", "controllers"] 2 ref route ∧
      JoinedWith '.' ["app", "controllers"] 0 ref dotted ∧
      qualifiedName route = .ok "app\\controllers\\UserController" ∧
      Alike "app\\controllers\\UserController" "app.controllers.UserController"
        (resolveTarget Sample.host (modules.registry "\\") route []).1.result
        (resolveTarget Sample.host (modules.registry ".") dotted []).1.result := by
  intro modules ref
  have hmake (config : Config) (separator classNamespace : String)
      (hseen : (Route.make config "/" (.str "UserController@show")
        (.stated (.mapping [(.str "namespace", .str classNamespace)]))).result.toOption.bind
        (fun route => some (decide (route.callback = .method ref),
          route.config.namespaceSeparator, route.classNamespace == .str classNamespace)) =
        some (true, separator, true)) :
      ∃ route : Route, route.callback = .method ref ∧
        route.config.namespaceSeparator = separator ∧
        route.classNamespace = .str classNamespace := by
    obtain ⟨route, -, hseen⟩ := Except.exists_ok_of_bind hseen
    simp only [Option.some.injEq, Prod.mk.injEq, decide_eq_true_eq, Value.beq_str_iff] at hseen
    exact ⟨route, hseen⟩
  obtain ⟨route, hcallback, hseparator, hnamespace⟩ :=
    hmake { (default : Config) with namespaceSeparator := "\\" } "\\" "app\\controllers\\\\"
      (by decide +kernel)
  obtain ⟨dotted, hcallback', hseparator', hnamespace'⟩ :=
    hmake default "." "app.controllers" (by decide +kernel)
  have htext : "app\\controllers\\\\" =
      (String.singleton '\\').intercalate ["app", "controllers"] ++
        String.ofList (List.replicate 2 '\\') := by decide +kernel
  have htext' : "app.controllers" =
      (String.singleton '.').intercalate ["app", "controllers"] ++
        String.ofList (List.replicate 0 '.') := by decide +kernel
  have hroute : JoinedWith '\\' ["app", "controllers"] 2 ref route :=
    ⟨hcallback, hseparator, htext ▸ hnamespace⟩
  have hdotted : JoinedWith '.' ["app", "controllers"] 0 ref dotted :=
    ⟨hcallback', hseparator', htext' ▸ hnamespace'⟩
  obtain ⟨hname, -, halike, -⟩ := Dispatch.separator_makes_no_difference Sample.host modules []
    hroute hdotted (by decide) (by decide) (by decide) (by decide) (by decide)
  exact ⟨route, dotted, hroute, hdotted, hname, halike⟩

end Signpost

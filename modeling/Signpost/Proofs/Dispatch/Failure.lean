import Signpost.Proofs.Dispatch.Lookup
import Signpost.Proofs.Dispatch.Positional

namespace Signpost

def Error.IsAnswer (error : Error) : Prop :=
  ∃ answer, error = .http answer

theorem Pattern.fails_match? (pattern : Pattern) (path : String) :
    Except.Fails (fun error => error = .noSuchGroup ∨ error.IsAnswer) (pattern.match? path) := by
  rw [match?]
  cases pattern.regex.match? path with
  | none => exact Except.fails_ok none
  | some found =>
      refine Except.Fails.bind (.mapM fun parameter _ => ?_) fun bound _ => Except.fails_ok _
      rw [bind?]
      split
      · exact Except.fails_error (.inl rfl)
      · split
        · exact Except.fails_ok _
        · split
          · exact Except.fails_error (.inr ⟨_, rfl⟩)
          · exact Except.fails_ok _

-- A lookup that is not refused gives an answer.
theorem Modules.answers_lookup {σ : Type} {modules : Modules σ} {dotted : List Char}
    (hmodules : modules.Importable)
    (hanswers : ∀ make, modules.ClassAt dotted make → make.Answers) :
    (¬Relative dotted ∧ (modules.lookup dotted).Answers) ∨
      ∃ front className, dotted = '.' :: (front ++ '.' :: className) ∧ '.' ∉ className ∧
        modules.lookup dotted = Hosted.throw (.relativeModule (String.ofList ('.' :: front))) := by
  have hanswer := answer_lookup hmodules dotted
  generalize modules.lookup dotted = factory at hanswer
  cases hanswer with
  | refused hdotted hlast => exact .inr ⟨_, _, hdotted, hlast, rfl⟩
  | @found make hclass =>
      refine .inl ⟨hclass.not_relative, fun state => ?_⟩
      obtain ⟨receiver, hmake⟩ := hanswers make hclass state
      exact ⟨some receiver, Factory.result_ofClass hmake⟩
  | unknown habsolute hnone => exact .inl ⟨habsolute, fun state => ⟨none, rfl⟩⟩

namespace Dispatch

variable {σ : Type} {host : Host σ} {modules : Modules σ} {route : Route} {ref : MethodRef}
  {path name : String} {state : σ} {error : Error}

-- A full name with full stops for its separators.
def dottedName (route : Route) (name : String) : List Char :=
  Text.replace route.config.namespaceSeparator.toList ['.'] name.toList

-- Why the class of a route cannot be asked for.
inductive Unnamed (route : Route) : Error → Prop
  | noText {ref : MethodRef} (hcallback : route.callback = .method ref)
      (htruthy : route.classNamespace.truthy = true)
      (htext : ∀ text, route.classNamespace ≠ .str text) : Unnamed route .noAttribute
  | relative {ref : MethodRef} {name : String} {front className : List Char}
      (hcallback : route.callback = .method ref) (hname : qualifiedName route = .ok name)
      (hdotted : dottedName route name = '.' :: (front ++ '.' :: className))
      (hlast : '.' ∉ className) :
      Unnamed route (.relativeModule (String.ofList ('.' :: front)))

-- The request that looks for classes in modules.
def request (modules : Modules σ) (route : Route) (path : String) : Request σ :=
  ⟨route, path, modules.registry route.config.namespaceSeparator⟩

-- The class of a route, if there is one, can be made.
def Makes (modules : Modules σ) (route : Route) : Prop :=
  ∀ name make, qualifiedName route = .ok name →
    modules.ClassAt (dottedName route name) make → make.Answers

theorem Unnamed.not_isAnswer (h : Unnamed route error) : ¬error.IsAnswer := by
  rintro ⟨answer, rfl⟩
  cases h

theorem qualifiedName_error_iff (hcallback : route.callback = .method ref) :
    qualifiedName route = .error error ↔ error = .noAttribute ∧
      route.classNamespace.truthy = true ∧ ∀ text, route.classNamespace ≠ .str text := by
  rw [qualifiedName, hcallback]
  dsimp only
  split
  next text hnamespace =>
    constructor
    · intro h
      split at h <;> cases h
    · rintro ⟨-, -, htext⟩
      exact absurd hnamespace (htext text)
  next htext =>
    by_cases htruthy : route.classNamespace.truthy = true
    · rw [if_pos htruthy]
      exact ⟨fun h => ⟨(Except.error.inj h).symm, htruthy, htext⟩, fun h => by rw [h.1]⟩
    · rw [if_neg htruthy]
      constructor
      · intro h
        cases h
      · rintro ⟨-, htruthy', -⟩
        exact absurd htruthy' htruthy

-- A verdict on a class that was looked up is a target or an answer.
theorem fails_verdict (host : Host σ) (route : Route) (ref : MethodRef) (name : String)
    (receiver? : Option Instance) :
    Except.Fails Error.IsAnswer (verdict host route ref name receiver?) := by
  cases receiver? with
  | none => exact Except.fails_error ⟨_, rfl⟩
  | some receiver =>
      rw [verdict]
      split
      · exact Except.fails_ok _
      · exact Except.fails_error ⟨_, rfl⟩

-- A class that has a name, and yet cannot be asked for, has a name that is refused.
theorem Unnamed.exists_of_name (h : Unnamed route error) (hname : qualifiedName route = .ok name) :
    ∃ front className, dottedName route name = '.' :: (front ++ '.' :: className) ∧
      '.' ∉ className ∧ error = .relativeModule (String.ofList ('.' :: front)) := by
  cases h with
  | noText hcallback htruthy htext =>
      have hnone := (qualifiedName_error_iff hcallback).mpr ⟨rfl, htruthy, htext⟩
      cases hname.symm.trans hnone
  | @relative _ _ front className _ hname' hdotted hlast =>
      obtain rfl := Except.ok.inj (hname.symm.trans hname')
      exact ⟨front, className, hdotted, hlast, rfl⟩

-- A class that has a name can be asked for, unless the name is refused.
theorem resolveTarget_error_iff_of_name (hmodules : modules.Importable)
    (hmakes : Makes modules route) (hanswer : ¬error.IsAnswer)
    (hcallback : route.callback = .method ref) (hname : qualifiedName route = .ok name) :
    (resolveTarget host (modules.registry route.config.namespaceSeparator) route state).1.result =
      .error error ↔ Unnamed route error := by
  have hanswers := Modules.answers_lookup hmodules (hmakes name · hname)
  have hresolve : (modules.registry route.config.namespaceSeparator).resolve name =
      modules.lookup (dottedName route name) := rfl
  cases hlookup : modules.lookup (dottedName route name) state with
  | mk outcome after =>
      obtain ⟨records, result⟩ := outcome
      obtain ⟨records', htarget⟩ := resolveTarget_of_lookup host hcallback hname
        ((congrFun hresolve state).trans hlookup)
      rw [htarget]
      rcases hanswers with ⟨habsolute, hanswers⟩ | ⟨front, className, hdotted, hlast, hthrow⟩
      · obtain ⟨receiver?, hresult⟩ := hanswers state
        rw [hlookup] at hresult
        obtain rfl : result = .ok receiver? := hresult
        constructor
        · intro h
          exact absurd (fails_verdict host route ref name receiver? error h) hanswer
        · intro h
          obtain ⟨front, className, hdotted, -, -⟩ := h.exists_of_name hname
          exact absurd ⟨front, className, hdotted⟩ habsolute
      · rw [hthrow] at hlookup
        cases hlookup
        constructor
        · intro h
          obtain rfl := Except.error.inj h
          exact .relative hcallback hname hdotted hlast
        · intro h
          obtain ⟨front', className', hdotted', hlast', rfl⟩ := h.exists_of_name hname
          rw [Modules.eq_of_relative hdotted hlast hdotted' hlast']
          rfl

-- Apart from answers, there is no other reason for a route not to find its target.
theorem resolveTarget_error_iff (hmodules : modules.Importable) (hmakes : Makes modules route)
    (hanswer : ¬error.IsAnswer) :
    (resolveTarget host (modules.registry route.config.namespaceSeparator) route state).1.result =
      .error error ↔ Unnamed route error := by
  cases hcallback : route.callback with
  | function f =>
      rw [resolveTarget, hcallback]
      constructor
      · intro h
        cases h
      · rintro (⟨hmethod, -, -⟩ | ⟨hmethod, -, -, -⟩) <;> cases hcallback.symm.trans hmethod
  | method ref =>
      cases hname : qualifiedName route with
      | ok name => exact resolveTarget_error_iff_of_name hmodules hmakes hanswer hcallback hname
      | error reason =>
          have hresult : resolveTarget host (modules.registry route.config.namespaceSeparator)
              route state = (⟨[], .error reason⟩, state) := by
            rw [resolveTarget, hcallback]
            dsimp only
            rw [hname, Hosted.lift_error_bind]
            rfl
          obtain ⟨rfl, htruthy, htext⟩ := (qualifiedName_error_iff hcallback).mp hname
          rw [hresult]
          constructor
          · intro h
            obtain rfl := Except.error.inj h
            exact .noText hcallback htruthy htext
          · rintro (_ | ⟨_, hname', _, _⟩)
            · rfl
            · cases hname.symm.trans hname'

-- A path that nothing is dispatched for does not match.
theorem Course.match?_eq_none {request : Request σ} {events : List Event} {after : σ}
    (h : Course host request state (.ok none) events after) :
    request.route.match? request.path = .ok none := by
  generalize hresult : (Except.ok none : Except Error (Option Dispatched)) = result at h
  cases h with
  | unmatchable => cases hresult
  | unmatched hmatch => exact hmatch
  | unresolved => cases hresult
  | @called _ _ _ _ _ value => cases value <;> cases hresult

-- Why a dispatch fails without an answer.
inductive Undispatched (route : Route) (path : String) : Error → Prop
  | groupless (hmatch : route.match? path = .error .noSuchGroup) :
      Undispatched route path .noSuchGroup
  | unnamed {matched : Bindings} {error : Error} (hmatch : route.match? path = .ok (some matched))
      (hname : Unnamed route error) : Undispatched route path error

theorem Undispatched.not_isAnswer (h : Undispatched route path error) : ¬error.IsAnswer := by
  cases h with
  | groupless =>
      rintro ⟨answer, hanswer⟩
      cases hanswer
  | unnamed _ hname => exact hname.not_isAnswer

theorem dispatch_error_iff (hmodules : modules.Importable) (hmakes : Makes modules route)
    (hanswer : ¬error.IsAnswer)
    (hcalls : ∀ invocation ∈ (serve host (request modules route path) state).invocations,
      (host.invoke invocation).Answers) :
    ((request modules route path).dispatch host state).1.result = .error error ↔
      Undispatched route path error := by
  have htargets : (resolveTarget host (request modules route path).registry
      (request modules route path).route state).1.result = .error error ↔ Unnamed route error :=
    resolveTarget_error_iff hmodules hmakes hanswer
  have hcourse := course_serve host (request modules route path) state
  rw [dispatch_eq_serve]
  unfold Served.invocations at hcalls
  generalize (serve host (request modules route path) state).outcome.result = result at hcourse
  generalize (serve host (request modules route path) state).events = events at hcourse hcalls
  generalize (serve host (request modules route path) state).after = after at hcourse
  cases hcourse with
  | @unmatchable reason hmatch =>
      constructor
      · intro h
        obtain rfl := Except.error.inj h
        obtain rfl := (route.pattern.fails_match? path _ hmatch).resolve_right hanswer
        exact .groupless hmatch
      · rintro (hmatch' | ⟨hmatch', -⟩)
        · rw [Except.error.inj (hmatch.symm.trans hmatch')]
        · cases hmatch.symm.trans hmatch'
  | unmatched hmatch =>
      constructor
      · intro h
        cases h
      · rintro (hmatch' | ⟨hmatch', -⟩) <;> cases hmatch.symm.trans hmatch'
  | unresolved hmatch htarget =>
      rw [htarget] at htargets
      constructor
      · intro h
        obtain rfl := Except.error.inj h
        exact .unnamed hmatch (htargets.mp rfl)
      · rintro (hmatch' | ⟨-, hname⟩)
        · cases hmatch.symm.trans hmatch'
        · rw [Except.error.inj (htargets.mpr hname)]
  | @called _ _ _ _ invocation _ found _ hmatch htarget hpasses hcall =>
      rw [htarget] at htargets
      obtain ⟨value, hvalue⟩ := hcalls invocation (by simp [Event.invocation?]) found
      rw [hcall] at hvalue
      obtain rfl := hvalue
      constructor
      · intro h
        cases h
      · rintro (hmatch' | ⟨-, hname⟩)
        · cases hmatch.symm.trans hmatch'
        · cases htargets.mpr hname

end Dispatch

end Signpost

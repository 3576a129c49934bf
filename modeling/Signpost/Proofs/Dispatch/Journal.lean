import Signpost.Dispatch

namespace Signpost

variable {σ α β : Type}

-- One call of a handler, with all that is passed to it.
inductive Invocation
  | function (f : FunctionRef) (values : List Value)
  | method (receiver : Instance) (name : String) (keywords : Arguments)

def Host.invoke (host : Host σ) : Invocation → Hosted σ Value
  | .function f values => host.callFunction f values
  | .method receiver name keywords => host.callMethod receiver name keywords

-- What a dispatch asks of what is around it.
inductive Event
  | lookup (className : String)
  | call (invocation : Invocation)

def Event.invocation? : Event → Option Invocation
  | .lookup _ => none
  | .call invocation => some invocation

namespace Hosted

-- A step that is put down behind what was put down before it.
def noting (event : Event) (step : Hosted σ α) : Hosted (σ × List Event) α :=
  fun (state, journal) =>
    let (outcome, after) := step state
    (outcome, after, journal ++ [event])

end Hosted

def Host.observed (host : Host σ) : Host (σ × List Event) where
  callFunction f values :=
    (host.callFunction f values).noting (.call (.function f values))
  hasMethod := host.hasMethod
  callMethod receiver name keywords :=
    (host.callMethod receiver name keywords).noting (.call (.method receiver name keywords))

def Registry.observed (registry : Registry σ) : Registry (σ × List Event) where
  resolve className := (registry.resolve className).noting (.lookup className)

-- A computation on a state does the same with a journal, and puts down these events.
def Hosted.Notes (x : Hosted σ α) (y : Hosted (σ × List Event) α) (state : σ)
    (events : List Event) : Prop :=
  ∀ journal, y (state, journal) = ((x state).1, (x state).2, journal ++ events)

namespace Hosted

variable {x : Hosted σ α} {y : Hosted (σ × List Event) α} {f : α → Hosted σ β}
  {g : α → Hosted (σ × List Event) β} {state after : σ} {records : List Record}
  {events later : List Event}

theorem notes_ofLogged (outcome : Logged α) (state : σ) :
    Notes (ofLogged outcome) (ofLogged outcome) state [] := by
  intro journal
  rw [List.append_nil]
  rfl

theorem notes_noting (event : Event) (step : Hosted σ α) (state : σ) :
    Notes step (step.noting event) state [event] := fun _ => rfl

theorem Notes.bind_ok {a : α} (h : Notes x y state events)
    (hx : x state = (⟨records, .ok a⟩, after)) (hf : Notes (f a) (g a) after later) :
    Notes (x >>= f) (y >>= g) state (events ++ later) := by
  intro journal
  have hy : y (state, journal) = (⟨records, .ok a⟩, after, journal ++ events) := by rw [h, hx]
  rw [bind_of_ok hx, bind_of_ok hy, hf, List.append_assoc]

theorem Notes.bind_error {error : Error} (h : Notes x y state events)
    (hx : x state = (⟨records, .error error⟩, after)) : Notes (x >>= f) (y >>= g) state events := by
  intro journal
  have hy : y (state, journal) = (⟨records, .error error⟩, after, journal ++ events) := by
    rw [h, hx]
  rw [bind_of_error hx, bind_of_error hy]

-- A result that is there already is gone on with at once.
theorem lift_ok_bind (a : α) (f : α → Hosted σ β) :
    (liftM (Except.ok a : Except Error α) : Hosted σ α) >>= f = f a := by
  funext state
  have ha : (liftM (Except.ok a : Except Error α) : Hosted σ α) state = (⟨[], .ok a⟩, state) := rfl
  rw [bind_of_ok ha]
  rfl

theorem lift_error_bind (error : Error) (f : α → Hosted σ β) :
    (liftM (Except.error error : Except Error α) : Hosted σ α) >>= f = throw error := rfl

-- Both parts of a computation that succeeds have succeeded.
theorem exists_of_bind {b : β} (h : (x >>= f) state = (⟨records, .ok b⟩, after)) :
    ∃ first second a middle, x state = (⟨first, .ok a⟩, middle) ∧
      f a middle = (⟨second, .ok b⟩, after) := by
  cases hx : x state with
  | mk outcome middle =>
      obtain ⟨first, result⟩ := outcome
      cases result with
      | error error =>
          rw [bind_of_error hx] at h
          cases h
      | ok a =>
          rw [bind_of_ok hx] at h
          cases hf : f a middle with
          | mk outcome last =>
              obtain ⟨second, result⟩ := outcome
              rw [hf] at h
              obtain ⟨houtcome, rfl⟩ := Prod.mk.inj h
              obtain ⟨-, rfl⟩ := Logged.mk.inj houtcome
              exact ⟨first, second, a, middle, rfl, hf⟩

theorem eq_of_pure {a b : α} (h : (pure a : Hosted σ α) state = (⟨records, .ok b⟩, after)) :
    a = b := by
  obtain ⟨houtcome, -⟩ := Prod.mk.inj h
  obtain ⟨-, hresult⟩ := Logged.mk.inj houtcome
  exact Except.ok.inj hresult

-- A result that is taken in leaves the state alone.
theorem eq_of_lift {result : Except Error α} {a : α}
    (h : (liftM result : Hosted σ α) state = (⟨records, .ok a⟩, after)) :
    result = .ok a ∧ after = state := by
  obtain ⟨houtcome, hstate⟩ := Prod.mk.inj h
  exact ⟨(Logged.mk.inj houtcome).2, hstate.symm⟩

end Hosted

-- The call of a handler that a prepared call stands for.
def Call.invocation (call : Call) : Invocation :=
  match call.target.handler with
  | .function f => .function f (call.arguments.map (·.2))
  | .method receiver name => .method receiver name (Dispatch.present call.arguments)

namespace Dispatch

variable {host : Host σ} {registry : Registry σ} {route : Route} {path : String} {state found : σ}
  {records : List Record} {error : Error} {matched : Bindings} {target : Target} {call : Call}

-- The classes that a dispatch looks up for a route. There is no class name for a function.
def lookups (route : Route) : List Event :=
  (qualifiedName route).toOption.toList.map .lookup

theorem perform_eq (host : Host σ) (call : Call) :
    perform host call = host.invoke call.invocation := by
  unfold perform Call.invocation
  cases call.target.handler <;> rfl

theorem notes_perform (host : Host σ) (call : Call) (state : σ) :
    Hosted.Notes (perform host call) (perform host.observed call) state
      [.call call.invocation] := by
  rw [perform_eq, perform_eq]
  cases call.invocation with
  | function f values => exact Hosted.notes_noting _ _ _
  | method receiver name keywords => exact Hosted.notes_noting _ _ _

theorem notes_resolveTarget (host : Host σ) (registry : Registry σ) (route : Route) (state : σ) :
    Hosted.Notes (resolveTarget host registry route)
      (resolveTarget host.observed registry.observed route) state (lookups route) := by
  cases hcallback : route.callback with
  | function f =>
      have hnone : lookups route = [] := by
        rw [lookups, qualifiedName, hcallback]
        rfl
      rw [hnone, resolveTarget, resolveTarget, hcallback]
      exact Hosted.notes_ofLogged _ state
  | method ref =>
      rw [resolveTarget, resolveTarget, hcallback]
      dsimp only
      cases hname : qualifiedName route with
      | error error =>
          rw [lookups, hname]
          exact Hosted.notes_ofLogged _ state
      | ok className =>
          have hone : lookups route = [.lookup className] := by
            rw [lookups, hname]
            rfl
          rw [hone, Hosted.lift_ok_bind, Hosted.lift_ok_bind]
          have hlookup := Hosted.notes_noting (.lookup className) (registry.resolve className) state
          cases hanswer : registry.resolve className state with
          | mk outcome found =>
              obtain ⟨records, answer⟩ := outcome
              cases answer with
              | error error => exact hlookup.bind_error hanswer
              | ok receiver? =>
                  -- Whatever comes of the answer, nothing else is asked.
                  rw [← List.append_nil [Event.lookup className]]
                  refine hlookup.bind_ok hanswer ?_
                  cases receiver? with
                  | none =>
                      exact (Hosted.notes_ofLogged _ found).bind_ok rfl
                        (Hosted.notes_ofLogged _ found)
                  | some receiver =>
                      dsimp only
                      show Hosted.Notes _ (if host.hasMethod receiver ref.method then _ else _) _ _
                      split
                      · exact Hosted.notes_ofLogged _ found
                      · exact (Hosted.notes_ofLogged _ found).bind_ok rfl
                          (Hosted.notes_ofLogged _ found)

-- The route of a path that does not match is not looked up.
def asked (route : Route) (path : String) : List Event :=
  match route.match? path with
  | .ok (some _) => lookups route
  | _ => []

theorem asked_of_matched (hmatch : route.match? path = .ok (some matched)) :
    asked route path = lookups route := by
  rw [asked, hmatch]

theorem notes_prepare (host : Host σ) (registry : Registry σ) (route : Route) (path : String)
    (state : σ) :
    Hosted.Notes (prepare host registry route path)
      (prepare host.observed registry.observed route path) state (asked route path) := by
  rw [asked, prepare, prepare]
  cases route.match? path with
  | error error => exact Hosted.notes_ofLogged _ state
  | ok matched? =>
      rw [Hosted.lift_ok_bind, Hosted.lift_ok_bind]
      cases matched? with
      | none => exact Hosted.notes_ofLogged _ state
      | some matched =>
          have htarget := notes_resolveTarget host registry route state
          cases hfound : resolveTarget host registry route state with
          | mk outcome found =>
              obtain ⟨records, result⟩ := outcome
              cases result with
              | error error => exact htarget.bind_error hfound
              | ok target =>
                  dsimp only
                  rw [← List.append_nil (lookups route)]
                  exact htarget.bind_ok hfound (Hosted.notes_ofLogged _ found)

theorem prepare_of_error (hmatch : route.match? path = .error error) :
    prepare host registry route path = Hosted.throw error := by
  rw [prepare, hmatch, Hosted.lift_error_bind]

theorem prepare_of_none (hmatch : route.match? path = .ok none) :
    prepare host registry route path = pure none := by
  rw [prepare, hmatch, Hosted.lift_ok_bind]

theorem prepare_of_no_target (hmatch : route.match? path = .ok (some matched))
    (htarget : resolveTarget host registry route state = (⟨records, .error error⟩, found)) :
    prepare host registry route path state = (⟨records, .error error⟩, found) := by
  rw [prepare, hmatch, Hosted.lift_ok_bind]
  exact Hosted.bind_of_error htarget _

theorem prepare_of_target (hmatch : route.match? path = .ok (some matched))
    (htarget : resolveTarget host registry route state = (⟨records, .ok target⟩, found)) :
    ∃ logged, prepare host registry route path state =
      (⟨logged, .ok (some ⟨target, route.arguments (bound matched)⟩)⟩, found) := by
  rw [prepare, hmatch, Hosted.lift_ok_bind]
  exact ⟨_, Hosted.bind_of_ok htarget _⟩

theorem notes_dispatch_of_error
    (hprepare : prepare host registry route path state = (⟨records, .error error⟩, found)) :
    Hosted.Notes (dispatch host registry route path)
      (dispatch host.observed registry.observed route path) state (asked route path) :=
  (notes_prepare host registry route path state).bind_error hprepare

theorem notes_dispatch_of_none
    (hprepare : prepare host registry route path state = (⟨records, .ok none⟩, found)) :
    Hosted.Notes (dispatch host registry route path)
      (dispatch host.observed registry.observed route path) state (asked route path) := by
  rw [← List.append_nil (asked route path)]
  exact (notes_prepare host registry route path state).bind_ok hprepare
    (Hosted.notes_ofLogged _ found)

-- The one call comes behind whatever was asked to prepare it.
theorem notes_dispatch_of_call
    (hprepare : prepare host registry route path state = (⟨records, .ok (some call)⟩, found)) :
    Hosted.Notes (dispatch host registry route path)
      (dispatch host.observed registry.observed route path) state
      (asked route path ++ [.call call.invocation]) := by
  refine (notes_prepare host registry route path state).bind_ok hprepare ?_
  have hperform := notes_perform host call found
  cases hresult : perform host call found with
  | mk outcome after =>
      obtain ⟨records, result⟩ := outcome
      cases result with
      | error error => exact hperform.bind_error hresult
      | ok value =>
          rw [← List.append_nil [Event.call call.invocation]]
          exact hperform.bind_ok hresult (Hosted.notes_ofLogged _ after)

end Dispatch

end Signpost

import Signpost.Proofs.Dispatch.Journal
import Signpost.Proofs.Outcome
import Signpost.Proofs.Value
import Signpost.Sample.Routes

namespace Signpost.Dispatch

variable {σ : Type}

structure Request (σ : Type) where
  route : Route
  path : String
  registry : Registry σ

def Request.dispatch (request : Request σ) (host : Host σ) : Hosted σ (Option Dispatched) :=
  Dispatch.dispatch host request.registry request.route request.path

-- A request together with what came of it.
structure Served (σ : Type) where
  request : Request σ
  before : σ
  outcome : Logged (Option Dispatched)
  events : List Event
  after : σ

def serve (host : Host σ) (request : Request σ) (before : σ) : Served σ :=
  let (outcome, after, events) :=
    Dispatch.dispatch host.observed request.registry.observed request.route request.path
      (before, [])
  { request, before, outcome, events, after }

def Served.invocations (served : Served σ) : List Invocation :=
  served.events.filterMap Event.invocation?

-- Each request is served in the state that the one before it leaves.
def serveAll (host : Host σ) : List (Request σ) → σ → List (Served σ)
  | [], _ => []
  | request :: requests, state =>
      let served := serve host request state
      served :: serveAll host requests served.after

-- The state that is left when all requests are dispatched, without a journal.
def finalState (host : Host σ) (requests : List (Request σ)) (state : σ) : σ :=
  requests.foldl (fun state request => (request.dispatch host state).2) state

-- How a call passes arguments on to the target of a route. A function takes their values in their
-- order; a method of the instance that was looked up takes those that are there, by name.
inductive Passes (request : Request σ) (state : σ) (arguments : Arguments) :
    Handler → Invocation → Prop
  | function {f : FunctionRef} (hcallback : request.route.callback = .function f) :
      Passes request state arguments (.function f) (.function f (arguments.map (·.2)))
  | method {ref : MethodRef} {className : String} {receiver : Instance} {keywords : Arguments}
      (hcallback : request.route.callback = .method ref)
      (hname : qualifiedName request.route = .ok className)
      (hreceiver : (request.registry.resolve className state).1.result = .ok (some receiver))
      (hsublist : keywords.Sublist arguments)
      (hpresent : ∀ entry ∈ arguments, entry ∈ keywords ↔ entry.2 ≠ .null) :
      Passes request state arguments (.method receiver ref.method)
        (.method receiver ref.method keywords)

-- The courses that a request can take, with the result, the events and the state that it leaves.
inductive Course (host : Host σ) (request : Request σ) (state : σ) :
    Except Error (Option Dispatched) → List Event → σ → Prop
  | unmatchable {error : Error} (hmatch : request.route.match? request.path = .error error) :
      Course host request state (.error error) [] state
  | unmatched (hmatch : request.route.match? request.path = .ok none) :
      Course host request state (.ok none) [] state
  | unresolved {matched : Bindings} {records : List Record} {error : Error} {found : σ}
      (hmatch : request.route.match? request.path = .ok (some matched))
      (htarget : resolveTarget host request.registry request.route state =
        (⟨records, .error error⟩, found)) :
      Course host request state (.error error) (lookups request.route) found
  | called {matched : Bindings} {records records' : List Record} {target : Target}
      {invocation : Invocation} {result : Except Error Value} {found after : σ}
      (hmatch : request.route.match? request.path = .ok (some matched))
      (htarget : resolveTarget host request.registry request.route state =
        (⟨records, .ok target⟩, found))
      (hpasses : Passes request state (request.route.arguments (bound matched)) target.handler
        invocation)
      (hcall : host.invoke invocation found = (⟨records', result⟩, after)) :
      Course host request state
        (result.map fun value => some ⟨⟨target, request.route.arguments (bound matched)⟩, value⟩)
        (lookups request.route ++ [.call invocation]) after

section Step

variable {host : Host σ} {request : Request σ} {state found : σ} {error : Error}
  {matched : Bindings} {target : Target} {records : List Record} {arguments : Arguments}

theorem mem_present {entry : Value × Value} :
    entry ∈ present arguments ↔ entry ∈ arguments ∧ entry.2 ≠ .null := by
  rw [present, List.mem_filter, Value.bne_null_iff]

-- Whatever a route's target comes to be, its call passes the arguments on.
theorem passes_of_resolveTarget (arguments : Arguments)
    (htarget : resolveTarget host request.registry request.route state =
      (⟨records, .ok target⟩, found)) :
    Passes request state arguments target.handler (Call.invocation ⟨target, arguments⟩) := by
  rw [resolveTarget] at htarget
  cases hcallback : request.route.callback with
  | function f =>
      rw [hcallback] at htarget
      obtain rfl := Hosted.eq_of_pure htarget
      exact .function hcallback
  | method ref =>
      rw [hcallback] at htarget
      obtain ⟨_, _, className, _, hread, hlookup⟩ := Hosted.exists_of_bind htarget
      obtain ⟨hname, rfl⟩ := Hosted.eq_of_lift hread
      obtain ⟨_, _, receiver?, _, hanswer, hfound⟩ := Hosted.exists_of_bind hlookup
      cases receiver? with
      | none =>
          obtain ⟨_, _, _, _, _, hthrow⟩ := Hosted.exists_of_bind hfound
          cases hthrow
      | some receiver =>
          dsimp only at hfound
          split at hfound
          · obtain rfl := Hosted.eq_of_pure hfound
            refine .method hcallback hname (by rw [hanswer]) List.filter_sublist ?_
            intro entry hmem
            rw [mem_present]
            exact and_iff_right hmem
          · obtain ⟨_, _, _, _, _, hthrow⟩ := Hosted.exists_of_bind hfound
            cases hthrow

-- Once a match has led to a target, all that is left is the one call.
theorem course_of_target (hmatch : request.route.match? request.path = .ok (some matched))
    (htarget : resolveTarget host request.registry request.route state =
      (⟨records, .ok target⟩, found)) :
    Course host request state (request.dispatch host state).1.result
      (lookups request.route ++
        [.call (Call.invocation ⟨target, request.route.arguments (bound matched)⟩)])
      (request.dispatch host state).2 := by
  obtain ⟨logged, hprepare⟩ := prepare_of_target hmatch htarget
  have hpasses := passes_of_resolveTarget (request.route.arguments (bound matched)) htarget
  rw [Request.dispatch, dispatch, Hosted.bind_of_ok hprepare]
  dsimp only
  cases hcall : host.invoke
      (Call.invocation ⟨target, request.route.arguments (bound matched)⟩) found with
  | mk outcome after =>
      obtain ⟨records', result⟩ := outcome
      have hcourse := Course.called hmatch htarget hpasses hcall
      rw [← perform_eq] at hcall
      cases result with
      | error error =>
          rw [Hosted.bind_of_error hcall]
          exact hcourse
      | ok value =>
          rw [Hosted.bind_of_ok hcall]
          exact hcourse

-- With and without a journal, a request takes one of its courses.
theorem exists_course (host : Host σ) (request : Request σ) (state : σ) :
    ∃ events,
      Hosted.Notes (request.dispatch host)
        (Dispatch.dispatch host.observed request.registry.observed request.route request.path)
        state events ∧
      Course host request state (request.dispatch host state).1.result events
        (request.dispatch host state).2 := by
  cases hmatch : request.route.match? request.path with
  | error error =>
      have hprepare : prepare host request.registry request.route request.path state =
          (⟨[], .error error⟩, state) := by
        rw [prepare_of_error hmatch]
        rfl
      refine ⟨_, notes_dispatch_of_error hprepare, ?_⟩
      rw [Request.dispatch, dispatch, Hosted.bind_of_error hprepare, asked, hmatch]
      exact .unmatchable hmatch
  | ok matched? =>
      cases matched? with
      | none =>
          have hprepare : prepare host request.registry request.route request.path state =
              (⟨[], .ok none⟩, state) := by
            rw [prepare_of_none hmatch]
            rfl
          refine ⟨_, notes_dispatch_of_none hprepare, ?_⟩
          rw [Request.dispatch, dispatch, Hosted.bind_of_ok hprepare, asked, hmatch]
          exact .unmatched hmatch
      | some matched =>
          cases htarget : resolveTarget host request.registry request.route state with
          | mk outcome found =>
              obtain ⟨records, result⟩ := outcome
              cases result with
              | error error =>
                  have hprepare := prepare_of_no_target hmatch htarget
                  refine ⟨_, notes_dispatch_of_error hprepare, ?_⟩
                  rw [Request.dispatch, dispatch, Hosted.bind_of_error hprepare,
                    asked_of_matched hmatch]
                  exact .unresolved hmatch htarget
              | ok target =>
                  obtain ⟨logged, hprepare⟩ := prepare_of_target hmatch htarget
                  refine ⟨_, notes_dispatch_of_call hprepare, ?_⟩
                  rw [asked_of_matched hmatch]
                  exact course_of_target hmatch htarget

theorem serve_eq {events : List Event}
    (hnotes : Hosted.Notes (request.dispatch host)
      (Dispatch.dispatch host.observed request.registry.observed request.route request.path)
      state events) :
    serve host request state =
      ⟨request, state, (request.dispatch host state).1, events,
        (request.dispatch host state).2⟩ := by
  unfold serve
  rw [hnotes []]
  rfl

-- What a request that is served with a journal comes to is what it comes to without one.
theorem dispatch_eq_serve (host : Host σ) (request : Request σ) (state : σ) :
    request.dispatch host state =
      ((serve host request state).outcome, (serve host request state).after) := by
  obtain ⟨events, hnotes, -⟩ := exists_course host request state
  rw [serve_eq hnotes]

theorem course_serve (host : Host σ) (request : Request σ) (state : σ) :
    Course host request state (serve host request state).outcome.result
      (serve host request state).events (serve host request state).after := by
  obtain ⟨events, hnotes, hcourse⟩ := exists_course host request state
  rw [serve_eq hnotes]
  exact hcourse

end Step

section Shared

variable {host : Host σ} {request : Request σ} {requests : List (Request σ)} {τ : Type}
  {shared : σ → τ} {act : Invocation → τ → τ}

-- A part of the state that a computation leaves alone.
def Leaves (shared : σ → τ) {α : Type} (x : Hosted σ α) : Prop :=
  ∀ state, shared (x state).2 = shared state

theorem leaves_ofLogged {α : Type} (shared : σ → τ) (outcome : Logged α) :
    Leaves shared (Hosted.ofLogged outcome) := fun _ => rfl

theorem Leaves.bind {α β : Type} {x : Hosted σ α} {f : α → Hosted σ β} (hx : Leaves shared x)
    (hf : ∀ a, Leaves shared (f a)) : Leaves shared (x >>= f) := by
  intro state
  cases hstep : x state with
  | mk outcome middle =>
      have hmiddle : shared middle = shared state := by rw [← hx state, hstep]
      obtain ⟨records, result⟩ := outcome
      cases result with
      | error error => rw [Hosted.bind_of_error hstep, hmiddle]
      | ok a => rw [Hosted.bind_of_ok hstep, hf a middle, hmiddle]

-- To find a target is to look up a class at most.
theorem leaves_resolveTarget (host : Host σ) {registry : Registry σ} (route : Route)
    (hlookup : ∀ className, Leaves shared (registry.resolve className)) :
    Leaves shared (resolveTarget host registry route) := by
  rw [resolveTarget]
  cases route.callback with
  | function f => exact leaves_ofLogged shared _
  | method ref =>
      refine (leaves_ofLogged shared _).bind fun className => (hlookup className).bind ?_
      intro receiver?
      cases receiver? with
      | none => exact (leaves_ofLogged shared _).bind fun _ => leaves_ofLogged shared _
      | some receiver =>
          dsimp only
          split
          · exact leaves_ofLogged shared _
          · exact (leaves_ofLogged shared _).bind fun _ => leaves_ofLogged shared _

theorem invocations_lookups (route : Route) :
    (lookups route).filterMap Event.invocation? = [] := by
  rw [lookups, List.filterMap_map]
  exact List.filterMap_eq_nil_iff.mpr fun _ _ => rfl

-- A request acts on what is shared by its calls only.
theorem Course.shared_eq {result : Except Error (Option Dispatched)} {events : List Event}
    {state after : σ} (hcourse : Course host request state result events after)
    (hact : ∀ invocation state, shared (host.invoke invocation state).2 =
      act invocation (shared state))
    (hlookup : ∀ className, Leaves shared (request.registry.resolve className)) :
    shared after = (events.filterMap Event.invocation?).foldl
      (fun part invocation => act invocation part) (shared state) := by
  have hfound := leaves_resolveTarget host request.route hlookup state
  cases hcourse with
  | unmatchable hmatch => rfl
  | unmatched hmatch => rfl
  | unresolved hmatch htarget =>
      rw [htarget] at hfound
      rw [invocations_lookups]
      exact hfound
  | @called _ _ _ _ invocation _ found _ hmatch htarget hpasses hcall =>
      rw [htarget] at hfound
      rw [List.filterMap_append, invocations_lookups]
      calc shared after
          = act invocation (shared found) := by rw [← hact, hcall]
        _ = act invocation (shared state) := by rw [hfound]

-- What is shared ends as the calls of all requests make it.
theorem shared_finalState
    (hact : ∀ invocation state, shared (host.invoke invocation state).2 =
      act invocation (shared state))
    (hlookup : ∀ request ∈ requests, ∀ className,
      Leaves shared (request.registry.resolve className)) (state : σ) :
    shared (finalState host requests state) =
      ((serveAll host requests state).flatMap Served.invocations).foldl
        (fun part invocation => act invocation part) (shared state) := by
  induction requests generalizing state with
  | nil => rfl
  | cons request requests ih =>
      rw [List.forall_mem_cons] at hlookup
      have hafter : (request.dispatch host state).2 = (serve host request state).after := by
        rw [dispatch_eq_serve]
      have hstep := (course_serve host request state).shared_eq hact hlookup.1
      rw [finalState, List.foldl_cons, serveAll, List.flatMap_cons, List.foldl_append,
        Served.invocations, ← hstep, ← hafter]
      exact ih hlookup.2 _

end Shared

section Run

variable {host : Host σ} {requests : List (Request σ)}

-- What is true of each request on its own is true of all that are served.
theorem forall_serveAll {P : Served σ → Prop}
    (hserve : ∀ request state, P (serve host request state)) (state : σ) :
    ∀ served ∈ serveAll host requests state, P served := by
  induction requests generalizing state with
  | nil => simp [serveAll]
  | cons request requests ih =>
      exact List.forall_mem_cons.mpr ⟨hserve request state, ih _⟩

theorem requests_serveAll (state : σ) :
    (serveAll host requests state).map (·.request) = requests := by
  induction requests generalizing state with
  | nil => rfl
  | cons request requests ih =>
      rw [serveAll, List.map_cons, ih]
      rfl

-- The last request that is served leaves the state that all of them leave.
theorem finalState_eq (state : σ) :
    finalState host requests state =
      (serveAll host requests state).foldl (fun _ served => served.after) state := by
  induction requests generalizing state with
  | nil => rfl
  | cons request requests ih =>
      rw [finalState, List.foldl_cons, serveAll, List.foldl_cons, dispatch_eq_serve]
      exact ih _

end Run

-- A table of factories leaves alone what each of them leaves alone.
theorem leaves_ofFactories {τ : Type} {shared : σ → τ} {factories : List (String × Factory σ)}
    (hfactories : ∀ entry ∈ factories, Leaves shared entry.2) (className : String) :
    Leaves shared ((Registry.ofFactories factories).resolve className) := by
  show Leaves shared ((Entries.get? factories className).getD (Hosted.pure none))
  rw [Entries.get?]
  cases hfound : factories.find? (·.1 == className) with
  | none => exact leaves_ofLogged shared _
  | some entry => exact hfactories entry (List.mem_of_find?_eq_some hfound)

end Signpost.Dispatch

namespace Signpost

-- Each request of a sequence takes one of its courses, in the state that the one before it left:
-- no match and no lookup, a target that is not found and no call, or a single call of the route's
-- handler with the arguments that the match makes. So whatever lookups leave alone ends as these
-- calls alone make it, in their order.
theorem Dispatch.serveAll_calls_once {σ : Type} (host : Host σ) (requests : List (Request σ))
    (state : σ) :
    (serveAll host requests state).map (·.request) = requests ∧
    (∀ served ∈ serveAll host requests state,
      served.request.dispatch host served.before = (served.outcome, served.after) ∧
      Course host served.request served.before served.outcome.result served.events
        served.after) ∧
    finalState host requests state =
      (serveAll host requests state).foldl (fun _ served => served.after) state ∧
    ∀ (τ : Type) (shared : σ → τ) (act : Invocation → τ → τ),
      (∀ invocation state, shared (host.invoke invocation state).2 =
        act invocation (shared state)) →
      (∀ request ∈ requests, ∀ className, Leaves shared (request.registry.resolve className)) →
      shared (finalState host requests state) =
        ((serveAll host requests state).flatMap Served.invocations).foldl
          (fun part invocation => act invocation part) (shared state) := by
  refine ⟨requests_serveAll state, ?_, finalState_eq state, ?_⟩
  · refine forall_serveAll (fun request state => ⟨?_, ?_⟩) state
    · exact dispatch_eq_serve host request state
    · exact course_serve host request state
  · intro τ shared act hact hlookup
    exact shared_finalState hact hlookup state

-- A counter that all requests share: of a hit, a path that leads nowhere, a method that is missing
-- and another hit, the two hits count.
theorem Dispatch.serveAll_calls_once_counter :
    let factories : List (String × Factory Sample.World) :=
      [("Counter", Hosted.pure (some ⟨"Counter", 0⟩))]
    let registry := Registry.ofFactories factories
    let effect := fun (world : Sample.World) (invocation : Invocation) =>
      (Sample.host.invoke invocation world).2
    ∃ hit fly : Route,
      (Route.make default "/hit" (.str "Counter@hit")).result = .ok hit ∧
      (Route.make default "/fly" (.str "Counter@fly")).result = .ok fly ∧
      let requests : List (Request Sample.World) :=
        [⟨hit, "/hit", registry⟩, ⟨hit, "/miss", registry⟩, ⟨fly, "/fly", registry⟩,
          ⟨hit, "/hit", registry⟩]
      let served := serveAll Sample.host requests [0]
      (∀ entry ∈ served, entry.request.dispatch Sample.host entry.before =
        (entry.outcome, entry.after)) ∧
      served.map (fun entry => entry.events.length) = [2, 0, 1, 2] ∧
      served.map (fun entry => entry.invocations.length) = [1, 0, 0, 1] ∧
      (served.flatMap Served.invocations).foldl effect [0] = [2] ∧
      finalState Sample.host requests [0] = [2] := by
  intro factories registry effect
  have hseen : (Route.make default "/hit" (.str "Counter@hit")).result.toOption.bind (fun hit =>
      (Route.make default "/fly" (.str "Counter@fly")).result.toOption.bind fun fly =>
        let served := serveAll Sample.host
          [⟨hit, "/hit", registry⟩, ⟨hit, "/miss", registry⟩, ⟨fly, "/fly", registry⟩,
            ⟨hit, "/hit", registry⟩] [0]
        some (served.map (fun entry => entry.events.length),
          served.map (fun entry => entry.invocations.length),
          (served.flatMap Served.invocations).foldl effect [0])) =
      some ([2, 0, 1, 2], [1, 0, 0, 1], [2]) := by decide +kernel
  obtain ⟨hit, hhit, hseen⟩ := Except.exists_ok_of_bind hseen
  obtain ⟨fly, hfly, hseen⟩ := Except.exists_ok_of_bind hseen
  obtain ⟨hevents, hrest⟩ := Prod.mk.inj (Option.some.inj hseen)
  obtain ⟨hcalls, hcounted⟩ := Prod.mk.inj hrest
  refine ⟨hit, fly, hhit, hfly, ?_⟩
  intro requests served
  obtain ⟨-, hcourses, -, hfinal⟩ :=
    Dispatch.serveAll_calls_once Sample.host requests [0]
  have hlookup : ∀ request ∈ requests, ∀ className,
      Leaves id (request.registry.resolve className) := by
    have hregistry : ∀ request ∈ requests, request.registry = registry := by simp [requests]
    intro request hmem className
    rw [hregistry request hmem]
    refine leaves_ofFactories (fun entry hentry => ?_) className
    obtain rfl := List.mem_singleton.mp hentry
    exact leaves_ofLogged id _
  have hshared := hfinal Sample.World id (fun invocation world => effect world invocation)
    (fun _ _ => rfl) hlookup
  exact ⟨fun entry hmem => (hcourses entry hmem).1, hevents, hcalls, hcounted,
    hshared.trans hcounted⟩

end Signpost

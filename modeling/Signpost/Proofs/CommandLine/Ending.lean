import Signpost.CommandLine
import Signpost.Proofs.Dispatch.Failure
import Signpost.Sample.Routes

namespace Signpost

open Dispatch (Undispatched request)

namespace Modules

variable {σ : Type} {modules : Modules σ} {place : String} {error : Error}

theorem fails_listedRoute? (attributes : List (String × Attribute σ)) (name : String) :
    Except.Fails (fun error => CommandLine.Expected.location error = true)
      (listedRoute? attributes name) := by
  rw [listedRoute?]
  split
  · exact Except.fails_ok _
  next found _ =>
    refine Except.Fails.bind ?_ fun _ _ => Except.fails_ok _
    cases found with
    | sequence typeName candidates => exact Except.fails_ok _
    | _ => exact Except.fails_error rfl

theorem fails_routeIn (moduleName name : String) (attributes : List (String × Attribute σ)) :
    Except.Fails (fun error => CommandLine.Expected.location error = true)
      (routeIn moduleName name attributes) := by
  rw [routeIn]
  split
  · exact Except.fails_ok _
  · exact Except.fails_error rfl
  · refine (fails_listedRoute? _ _).bind fun listed _ => ?_
    split
    · exact Except.fails_ok _
    · exact Except.fails_error rfl

-- What is missing on the way to a module keeps a route from being located.
theorem location_of_isMissing {name : String} (h : isMissing name error = true) :
    CommandLine.Expected.location error = true := by
  cases error <;> first | rfl | cases h

-- The only place that cannot be looked for is one without a module.
theorem locate_error_iff (hmodules : modules.Importable)
    (hlocation : CommandLine.Expected.location error = false) :
    modules.locate place = .error error ↔
      error = .emptyModuleName ∧ (splitPlace place).1 = "" := by
  have hunexpected {reason : Error} (hreason : CommandLine.Expected.location reason = true) :
      reason ≠ error := by
    rintro rfl
    rw [hreason] at hlocation
    cases hlocation
  rw [locate]
  generalize splitPlace place = cut
  obtain ⟨moduleName, name⟩ := cut
  have hloads := loads hmodules moduleName.toList
  rw [String.ofList_toList] at hloads
  dsimp only
  generalize modules.load moduleName = loaded at hloads
  cases hloads with
  | nameless h =>
      rw [Except.error_bind, Except.error.injEq, eq_comm]
      exact ⟨fun herror => ⟨herror, by simpa using h⟩, fun h => h.1⟩
  | relative h =>
      refine ⟨fun herror => absurd (Except.error.inj herror) (hunexpected rfl), ?_⟩
      rintro ⟨-, rfl⟩
      cases h
  | missing hnamed _ _ hmissing =>
      refine ⟨fun herror => ?_, fun h => absurd (congrArg String.toList h.2) hnamed⟩
      exact absurd (Except.error.inj herror) (hunexpected (location_of_isMissing hmissing))
  | found hreaches hbody =>
      rw [Except.bind_ok]
      refine ⟨fun herror => ?_, fun h => absurd (congrArg String.toList h.2) hreaches.named⟩
      exact absurd rfl (hunexpected (fails_routeIn _ _ _ error herror))

end Modules

namespace CommandLine

variable {σ : Type} {host : Host σ} {modules : Modules σ} {place path : String} {state : σ}
  {words : List String} {verbose : Bool} {error : Error}

-- Nothing fails that the command runs: no module, not the class of the target, and no call.
structure Runs (host : Host σ) (modules : Modules σ) (place path : String) (state : σ) :
    Prop where
  importable : modules.Importable
  makes : ∀ route, modules.locate place = .ok route → Dispatch.Makes modules route
  answers : ∀ route, modules.locate place = .ok route →
    ∀ invocation ∈ (Dispatch.serve host (request modules route path) state).invocations,
      (host.invoke invocation).Answers

-- The errors that leave the command.
inductive Unforeseen (modules : Modules σ) (place path : String) : Error → Prop
  | nameless (hplace : (Modules.splitPlace place).1 = "") :
      Unforeseen modules place path .emptyModuleName
  | undispatched {route : Route} {error : Error} (hroute : modules.locate place = .ok route)
      (herror : Undispatched route path error) : Unforeseen modules place path error

-- How the command ends by itself.
inductive Ends (host : Host σ) (modules : Modules σ) (place path : String) (state : σ) :
    Outcome → Prop
  | printed {route : Route} {dispatched : Dispatched} (hroute : modules.locate place = .ok route)
      (hdispatch : ((request modules route path).dispatch host state).1.result =
        .ok (some dispatched)) :
      Ends host modules place path state { code := 0, stdout := line dispatched.result.text }
  | unmatched {route : Route} (hroute : modules.locate place = .ok route)
      (hmatch : route.match? path = .ok none) :
      Ends host modules place path state (noMatch path route.template)
  | unlocated {error : Error} (hplace : modules.locate place = .error error) :
      Ends host modules place path state (failed error)
  | answered {route : Route} {answer : HttpError} (hroute : modules.locate place = .ok route)
      (hdispatch : ((request modules route path).dispatch host state).1.result =
        .error (.http answer)) :
      Ends host modules place path state (failed (.http answer))

-- Behind a double dash, every place and every path but another double dash is an operand.
theorem read_dispatch (place : String) (hpath : path ≠ "--") :
    read ["dispatch", "--", place, path] =
      .ok ⟨false, some (.dispatch (some place) (some path))⟩ := by
  have hwords : Word.readAll? programShape.flags ["dispatch", "--", place, path] =
      some [.operand "dispatch", .dashes [place, path]] := rfl
  have hown : Word.readAll? [.help] ["--", place, path] = some [.dashes [place, path]] := rfl
  have hreading : readWords ⟨usageOf "dispatch " "[-h] route path", [.help], 2⟩ {}
      [.dashes [place, path]] = .ok { operands := [some place, some path] } := by
    simp [readWords, Reading.leadingDashes, Reading.afterDashes, Reading.operand,
      Reading.addOperand, hpath]
  rw [read, hwords]
  show readCommand {} "dispatch" ["--", place, path] = _
  simp only [readCommand, commandShape?, hown, hreading, Except.bind_ok]
  rfl

theorem run_of_read (host : Host σ) (modules : Modules σ) (state : σ) {command : Command}
    (hread : read words = .ok ⟨verbose, some command⟩) :
    (run host modules words state).1 =
      withRecords verbose (execute host modules command state).1 := by
  rw [run, hread]

theorem result_endingOn (expected : Error → Bool) (command : Logged Outcome) :
    (endingOn expected command).result =
      match command.result with
      | .ok outcome => .ok outcome
      | .error error => if expected error then .ok (failed error) else .error error := by
  rw [endingOn]
  cases command.result with
  | ok outcome => rfl
  | error error =>
      dsimp only
      split <;> rfl

theorem execute_of_error (host : Host σ) (state : σ) (hplace : modules.locate place = .error error)
    (path : Operand) :
    (execute host modules (.dispatch (some place) path) state).1.result =
      if Expected.location error then .ok (failed error) else .error error := by
  have hlocate : locateRoute modules (some place) = .error error := hplace
  rw [execute]
  simp only [hlocate, result_endingOn]
  rfl

-- What is printed of a dispatch that does not fail.
def shown (path template : String) : Option Dispatched → Outcome
  | none => noMatch path template
  | some dispatched => { stdout := line dispatched.result.text }

theorem result_dispatchPath (host : Host σ) (modules : Modules σ) (route : Route) (path : String)
    (state : σ) :
    (dispatchPath host modules route (some path) state).1.result =
      ((request modules route path).dispatch host state).1.result.map
        (shown path route.template) := by
  have hpath : dispatchPath host modules route (some path) =
      (request modules route path).dispatch host >>= fun dispatched? =>
        pure (shown path route.template dispatched?) := by
    show (liftM (Except.ok path : Except Error String) : Hosted σ String) >>= _ = _
    rw [Hosted.lift_ok_bind]
    refine congrArg ((request modules route path).dispatch host >>= ·)
      (funext fun dispatched? => ?_)
    cases dispatched? <;> rfl
  rw [hpath]
  cases hdispatch : (request modules route path).dispatch host state with
  | mk outcome after =>
      obtain ⟨records, result⟩ := outcome
      cases result with
      | error error => rw [Hosted.bind_of_error hdispatch, Except.map]
      | ok dispatched? =>
          rw [Hosted.bind_of_ok hdispatch]
          rfl

theorem execute_of_route (host : Host σ) (state : σ) {route : Route}
    (hroute : modules.locate place = .ok route) (path : String) :
    (execute host modules (.dispatch (some place) (some path)) state).1.result =
      match ((request modules route path).dispatch host state).1.result with
      | .ok dispatched? => .ok (shown path route.template dispatched?)
      | .error error => if Expected.http error then .ok (failed error) else .error error := by
  have hlocate : locateRoute modules (some place) = .ok route := hroute
  rw [execute]
  simp only [hlocate, result_endingOn, result_dispatchPath]
  cases ((request modules route path).dispatch host state).1.result <;> rfl

theorem Unforeseen.not_isAnswer (h : Unforeseen modules place path error) :
    ¬error.IsAnswer := by
  cases h with
  | nameless =>
      rintro ⟨answer, hanswer⟩
      cases hanswer
  | undispatched _ herror => exact herror.not_isAnswer

theorem unforeseen_iff_of_error (hmodules : modules.Importable) {reason : Error}
    (hplace : modules.locate place = .error reason) :
    Unforeseen modules place path error ↔ reason = error ∧ Expected.location reason = false := by
  constructor
  · rintro (hname | ⟨hroute, -⟩)
    · have hnameless := (Modules.locate_error_iff hmodules rfl).mpr ⟨rfl, hname⟩
      obtain rfl := Except.error.inj (hplace.symm.trans hnameless)
      exact ⟨rfl, rfl⟩
    · cases hplace.symm.trans hroute
  · rintro ⟨rfl, hlocation⟩
    obtain ⟨rfl, hname⟩ := (Modules.locate_error_iff hmodules hlocation).mp hplace
    exact .nameless hname

theorem unforeseen_iff_of_route (hmodules : modules.Importable) {route : Route}
    (hroute : modules.locate place = .ok route) :
    Unforeseen modules place path error ↔ Undispatched route path error := by
  constructor
  · rintro (hname | ⟨hroute', herror⟩)
    · have hnameless := (Modules.locate_error_iff hmodules rfl).mpr ⟨rfl, hname⟩
      cases hroute.symm.trans hnameless
    · obtain rfl := Except.ok.inj (hroute.symm.trans hroute')
      exact herror
  · exact .undispatched hroute

-- A path that nothing is dispatched for does not match.
theorem unmatched_of_dispatch {route : Route}
    (hdispatch : ((request modules route path).dispatch host state).1.result = .ok none) :
    route.match? path = .ok none := by
  have hcourse := Dispatch.course_serve host (request modules route path) state
  rw [Dispatch.dispatch_eq_serve] at hdispatch
  rw [hdispatch] at hcourse
  exact hcourse.match?_eq_none

theorem http_iff_isAnswer : Expected.http error = true ↔ error.IsAnswer := by
  cases error with
  | http answer => exact ⟨fun _ => ⟨answer, rfl⟩, fun _ => rfl⟩
  | _ => exact ⟨fun h => (nomatch h), fun ⟨_, h⟩ => (nomatch h)⟩

theorem http_eq_false_iff : Expected.http error = false ↔ ¬error.IsAnswer := by
  rw [← http_iff_isAnswer, Bool.not_eq_true]

-- What the command comes to: it is left by the errors that are unforeseen, and by no others.
def Settled (host : Host σ) (modules : Modules σ) (place path : String) (state : σ)
    (result : Except Error Outcome) : Prop :=
  (∀ error, result = .error error ↔ Unforeseen modules place path error) ∧
    ∀ outcome, result = .ok outcome → Ends host modules place path state outcome

-- An error is reported where its kind is expected, and leaves the command otherwise.
theorem settled_failed {expected : Bool}
    (hleaves : ∀ reason, Unforeseen modules place path reason ↔ error = reason ∧ expected = false)
    (hends : expected = true → Ends host modules place path state (failed error)) :
    Settled host modules place path state
      (if expected then .ok (failed error) else .error error) := by
  cases expected with
  | true =>
      refine ⟨fun reason => ⟨fun h => (nomatch h), fun h => ?_⟩, ?_⟩
      · cases ((hleaves reason).mp h).2
      · rintro _ ⟨⟩
        exact hends rfl
  | false =>
      refine ⟨fun reason => ?_, fun outcome h => (nomatch h)⟩
      rw [hleaves, and_iff_left rfl, if_neg Bool.false_ne_true, Except.error.injEq]

theorem settled_of_route (hruns : Runs host modules place path state) {route : Route}
    (hroute : modules.locate place = .ok route) :
    Settled host modules place path state
      (match ((request modules route path).dispatch host state).1.result with
      | .ok dispatched? => .ok (shown path route.template dispatched?)
      | .error error => if Expected.http error then .ok (failed error) else .error error) := by
  have hleaves {error : Error} (hanswer : ¬error.IsAnswer) :
      ((request modules route path).dispatch host state).1.result = .error error ↔
        Unforeseen modules place path error := by
    rw [unforeseen_iff_of_route hruns.importable hroute]
    exact Dispatch.dispatch_error_iff hruns.importable (hruns.makes route hroute) hanswer
      (hruns.answers route hroute)
  cases hdispatch : ((request modules route path).dispatch host state).1.result with
  | ok dispatched? =>
      refine ⟨fun error => ⟨fun h => (nomatch h), fun h => ?_⟩, ?_⟩
      · cases hdispatch.symm.trans ((hleaves h.not_isAnswer).mpr h)
      · rintro _ ⟨⟩
        cases dispatched? with
        | none => exact .unmatched hroute (unmatched_of_dispatch hdispatch)
        | some dispatched => exact .printed hroute hdispatch
  | error error =>
      refine settled_failed (fun reason => ⟨fun h => ?_, ?_⟩) fun hhttp => ?_
      · have hthrown := (hleaves h.not_isAnswer).mpr h
        obtain rfl := Except.error.inj (hdispatch.symm.trans hthrown)
        exact ⟨rfl, http_eq_false_iff.mpr h.not_isAnswer⟩
      · rintro ⟨rfl, hhttp⟩
        exact (hleaves (http_eq_false_iff.mp hhttp)).mp hdispatch
      · obtain ⟨answer, rfl⟩ := http_iff_isAnswer.mp hhttp
        exact .answered hroute hdispatch

theorem settled_execute (hruns : Runs host modules place path state) :
    Settled host modules place path state
      (execute host modules (.dispatch (some place) (some path)) state).1.result := by
  cases hlocate : modules.locate place with
  | error error =>
      rw [execute_of_error host state hlocate]
      exact settled_failed (fun reason => unforeseen_iff_of_error hruns.importable hlocate)
        fun _ => .unlocated hlocate
  | ok route =>
      rw [execute_of_route host state hlocate]
      exact settled_of_route hruns hlocate

end CommandLine

open CommandLine in
-- The command that dispatches a path, where nothing that it runs fails. Unless the place has no
-- module, the match asks for a group that is not there, or the class has no name or one that is
-- refused, no error leaves the program. It ends with the result, with a line that says that the
-- path does not match, or with an error, and each of these has its exit code; what was logged on
-- the channels of the program comes before.
theorem CommandLine.dispatch_settled {σ : Type} (host : Host σ) (modules : Modules σ) (state : σ)
    {words : List String} {verbose : Bool} {place path : String}
    (hread : read words = .ok ⟨verbose, some (.dispatch (some place) (some path))⟩)
    (hruns : Runs host modules place path state) :
    let answer := (run host modules words state).1
    let logged := String.join (answer.records.map (recordText verbose))
    (∀ error, answer.result = .error error ↔ Unforeseen modules place path error) ∧
      ∀ outcome, answer.result = .ok outcome → ∃ ended,
        Ends host modules place path state ended ∧
          outcome = { ended with stderr := logged ++ ended.stderr } := by
  intro answer logged
  have hanswer : answer = withRecords verbose _ := run_of_read host modules state hread
  have hsettled := settled_execute hruns
  generalize execute host modules (.dispatch (some place) (some path)) state = executed
    at hanswer hsettled
  obtain ⟨⟨records, result⟩, after⟩ := executed
  obtain ⟨herrors, hends⟩ := hsettled
  have hresult : answer.result =
      result.map fun ended => { ended with stderr := logged ++ ended.stderr } := by
    have hlogged : logged = String.join (records.map (recordText verbose)) := by
      rw [show logged = String.join (answer.records.map (recordText verbose)) from rfl, hanswer]
      rfl
    rw [hanswer, hlogged]
    rfl
  rw [hresult]
  cases result with
  | error error => exact ⟨herrors, fun outcome h => (nomatch h)⟩
  | ok ended =>
      refine ⟨fun error => ⟨fun h => (nomatch h), fun h => ?_⟩, ?_⟩
      · cases (herrors error).mpr h
      · rintro _ ⟨⟩
        exact ⟨ended, hends ended rfl, rfl⟩

-- A path that a method is called for, in a module of its own.
theorem CommandLine.dispatch_settled_user :
    let host : Host Unit :=
      ⟨fun _ values => pure (.list values), fun _ _ => true, fun _ _ keywords =>
        pure (.mapping keywords)⟩
    let user : Hosted Unit Instance := pure ⟨"User", 0⟩
    let words := ["dispatch", "--", "app", "/user/7"]
    ∃ route : Route,
      (Route.make default "/user/\x7bid\x7d" (.str "User@show") (.stated .null) .null
        (.str "app")).result = .ok route ∧
      let modules : Modules Unit :=
        [("app", ⟨false, .ok [("User", .ofClass user), ("route", .route route)]⟩)]
      read words = .ok ⟨false, some (.dispatch (some "app") (some "/user/7"))⟩ ∧
      Runs host modules "app" "/user/7" () ∧
      (run host modules words ()).1.result = .ok { stdout := "\x7b'id': '7'\x7d\n" } ∧
      Ends host modules "app" "/user/7" () { stdout := "\x7b'id': '7'\x7d\n" } := by
  intro host user words
  have hseen : (Route.make default "/user/\x7bid\x7d" (.str "User@show") (.stated .null) .null
      (.str "app")).result.toOption.bind (fun route =>
        let modules : Modules Unit :=
          [("app", ⟨false, .ok [("User", .ofClass user), ("route", .route route)]⟩)]
        (run host modules words ()).1.result.toOption) =
      some { stdout := "\x7b'id': '7'\x7d\n" } := by decide +kernel
  obtain ⟨route, hroute, hseen⟩ := Except.exists_ok_of_bind hseen
  refine ⟨route, hroute, ?_⟩
  intro modules
  have hmodules : modules.Importable := by simp [modules, Modules.Importable]
  have hclasses (dotted : List Char) (make : Hosted Unit Instance)
      (h : modules.ClassAt dotted make) : make.Answers := by
    obtain ⟨path, className, found, attributes, -, -, hreaches, hbody, hget⟩ := h
    have hmem := Entries.mem_of_get? hreaches.present
    obtain ⟨-, rfl⟩ := Prod.mk.inj (List.mem_singleton.mp hmem)
    cases hbody
    have hattribute := Entries.mem_of_get? hget
    simp only [List.mem_cons, List.not_mem_nil, or_false, Prod.mk.injEq, Attribute.ofClass.injEq,
      reduceCtorEq, and_false] at hattribute
    obtain ⟨-, rfl⟩ := hattribute
    exact fun state => ⟨_, rfl⟩
  have hpath : "/user/7" ≠ "--" := by decide
  have hread := read_dispatch "app" hpath
  have hcalls (invocation : Signpost.Invocation) : (host.invoke invocation).Answers := by
    cases invocation <;> exact fun state => ⟨_, rfl⟩
  have hruns : Runs host modules "app" "/user/7" () :=
    ⟨hmodules, fun _ _ _ make _ => hclasses _ make, fun _ _ invocation _ => hcalls invocation⟩
  have hresult := Except.eq_ok_of_toOption hseen
  obtain ⟨ended, hends, hended⟩ :=
    (CommandLine.dispatch_settled host modules () hread hruns).2 _ hresult
  obtain ⟨code, stdout, stderr⟩ := ended
  obtain ⟨rfl, rfl, hstderr⟩ := Outcome.mk.inj hended
  obtain rfl : stderr = "" := (String.append_eq_empty_iff.mp hstderr.symm).2
  exact ⟨hread, hruns, hresult, hends⟩

-- A place that is empty is an error of a kind that the command does not report.
theorem CommandLine.nameless_place_escapes :
    let none : Modules Sample.World := []
    read ["dispatch", "", "/x"] = .ok ⟨false, some (.dispatch (some "") (some "/x"))⟩ ∧
      Runs Sample.host none "" "/x" [] ∧
      (run Sample.host none ["dispatch", "", "/x"] []).1.result = .error .emptyModuleName := by
  intro none
  have hlost (route : Route) : none.locate "" ≠ .ok route := by
    intro h
    cases h
  refine ⟨rfl, ⟨by simp [none, Modules.Importable], ?_, ?_⟩, rfl⟩
  · exact fun route hroute => absurd hroute (hlost route)
  · exact fun route hroute => absurd hroute (hlost route)

end Signpost

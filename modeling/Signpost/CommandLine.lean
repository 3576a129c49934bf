import Signpost.CommandLine.Constraints
import Signpost.CommandLine.Invocation
import Signpost.Dispatch
import Signpost.Locate

namespace Signpost.CommandLine

structure Outcome where
  code : Nat := 0
  stdout : String := ""
  stderr : String := ""
deriving DecidableEq, Repr

def line (text : String) : String := text ++ "\n"

def failed (error : Error) : Outcome where
  code := 2
  stderr := line ("Error: " ++ error.message)

def noMatch (path template : String) : Outcome where
  code := 1
  stderr := line ("No match: " ++ Text.quoted path ++ " does not satisfy " ++ Text.quoted template)

-- An error of a kind that is expected ends the command; any other goes on.
def endingOn (expected : Error → Bool) (command : Logged Outcome) : Logged Outcome :=
  match command.result with
  | .ok outcome => ⟨command.records, .ok outcome⟩
  | .error error =>
      if expected error then ⟨command.records, .ok (failed error)⟩
      else ⟨command.records, .error error⟩

def Expected.configuration : Error → Bool
  | .configuration _ => true
  | _ => false

def Expected.missingParameter : Error → Bool
  | .http (.missingParameter _) => true
  | _ => false

def Expected.http : Error → Bool
  | .http _ => true
  | _ => false

-- What may keep a route from being located: no such module, no such name, or another kind of
-- thing under the name or for the list of routes.
def Expected.location : Error → Bool
  | .noModule _ | .noPackage _ _ | .noRoute _ _ | .notRoute _ _ | .relativeModule _ => true
  | .notIterable _ | .noSuchGroup | .mistyped | .noClass _ => true
  | _ => false

-- A command that goes on with a value, if there is one.
def whenOk (expected : Error → Bool) (value : Logged α) (command : α → Logged Outcome) :
    Logged Outcome :=
  match value.result with
  | .error _ => endingOn expected ⟨value.records, value.result.map fun _ => {}⟩
  | .ok a =>
      let next := command a
      ⟨value.records ++ next.records, next.result⟩

def text (operand : Operand) : Except Error String :=
  match operand with
  | some text => .ok text
  | none => .error .mistyped

def compileTemplate (constraints : List String) (template : Operand) : Logged Pattern := do
  let template ← text template
  let entries ← readConstraints constraints
  Pattern.ofTemplate default (entries.map fun (name, pattern) => (.str name, pattern)) template

def parameterLine (parameter : Parameter) : String :=
  line ("  " ++ parameter.name ++ "  " ++ if parameter.required then "required" else "optional")

def showPattern (pattern : Pattern) : Outcome where
  stdout := line pattern.regex.text ++ String.join (pattern.parameters.map parameterLine)

def bindingText (binding : String × String) : String :=
  Text.jsonQuoted binding.1 ++ ": " ++ Text.jsonQuoted binding.2

def bindingsText (bindings : Bindings) : String :=
  "\x7b" ++ Value.joined (bindings.map bindingText) ++ "\x7d"

def matchPath (pattern : Pattern) (path : Operand) : Logged Outcome := do
  let path ← text path
  match ← pattern.match? path with
  | none => pure (noMatch path pattern.template)
  | some bindings => pure { stdout := line (bindingsText bindings) }

variable {σ : Type}

def dispatchPath (host : Host σ) (modules : Modules σ) (route : Route) (path : Operand) :
    Hosted σ Outcome := do
  let path ← text path
  let registry := modules.registry route.config.namespaceSeparator
  match ← Dispatch.dispatch host registry route path with
  | none => pure (noMatch path route.template)
  | some dispatched => pure { stdout := line dispatched.result.text }

def locateRoute (modules : Modules σ) (place : Operand) : Except Error Route := do
  modules.locate (← text place)

def execute (host : Host σ) (modules : Modules σ) : Command → Hosted σ Outcome
  | .compile constraints template =>
      Hosted.ofLogged <|
        whenOk Expected.configuration (compileTemplate constraints template) fun pattern =>
          pure (showPattern pattern)
  | .match constraints template path =>
      Hosted.ofLogged <|
        whenOk Expected.configuration (compileTemplate constraints template) fun pattern =>
          endingOn Expected.missingParameter (matchPath pattern path)
  | .dispatch place path => fun state =>
      match locateRoute modules place with
      | .error error => (endingOn Expected.location (Logged.throw error), state)
      | .ok route =>
          let (outcome, state) := dispatchPath host modules route path state
          (endingOn Expected.http outcome, state)

-- Records are printed in full on request. Otherwise only the messages of those that matter are.
-- What the host logs on channels of its own is not among the records. On request it is printed as
-- well, such as the record of an event loop that is set up for a call.
def recordText (verbose : Bool) (record : Record) : String :=
  if verbose then
    line (record.channel.name ++ " " ++ record.severity.name ++ " " ++ record.message)
  else
    match record.severity with
    | .debug => ""
    | _ => line record.message

def withRecords (verbose : Bool) (outcome : Logged Outcome) : Logged Outcome :=
  let shown := String.join (outcome.records.map (recordText verbose))
  ⟨outcome.records, outcome.result.map fun o => { o with stderr := shown ++ o.stderr }⟩

def stopped : Stop → Outcome
  | .help usage => { stdout := usage }
  | .mistake usage => { code := 2, stderr := usage }

def run (host : Host σ) (modules : Modules σ) (words : List String) : Hosted σ Outcome :=
  match read words with
  | .error stop => Hosted.pure (stopped stop)
  | .ok invocation =>
      match invocation.command with
      | none => Hosted.pure (stopped (.help programUsage))
      | some command => fun state =>
          let (outcome, state) := execute host modules command state
          (withRecords invocation.verbose outcome, state)

end Signpost.CommandLine

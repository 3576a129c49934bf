import Signpost.Callback
import Signpost.Host
import Signpost.Pattern
import Signpost.Settings

namespace Signpost

structure RouteDefinition where
  template : String
  callback : Callback
  settings : Settings
  name : Value
  defaultNamespace : Value
  -- A pattern for the whole route, in place of the template's own.
  override : Option String
  config : Config

def RouteDefinition.compile (definition : RouteDefinition) : Logged Pattern :=
  match definition.override with
  | some text => Pattern.ofOverride definition.config definition.template text
  | none =>
      Pattern.ofTemplate definition.config definition.settings.constraints definition.template

-- A route and the pattern that its definition compiles to, so that the two cannot come apart.
structure Route extends RouteDefinition where
  pattern : Pattern
  compiled : toRouteDefinition.compile.result = .ok pattern

namespace Route

def ofCompiled (definition : RouteDefinition) (outcome : Logged Pattern)
    (h : definition.compile = outcome) : Logged Route :=
  { records := outcome.records
    result :=
      match hr : outcome.result with
      | .ok pattern => .ok { definition with pattern, compiled := by rw [h, hr] }
      | .error error => .error error }

def ofDefinition (definition : RouteDefinition) : Logged Route :=
  ofCompiled definition definition.compile rfl

def readOverride : Value → Except Error (Option String)
  | .null => .ok none
  | .str text => .ok (some text)
  | _ => .error .mistyped

-- A route as it is stated: the callback is read first, then the settings.
def make (config : Config) (template : String) (callback : Value)
    (settings : Inherited := .stated .null) (name defaultNamespace override : Value := .null) :
    Logged Route := do
  let callback ← Callback.ofValue config callback
  let settings ← settings.read
  let override ← readOverride override
  ofDefinition { template, callback, settings, name, defaultNamespace, override, config }

-- Each collection is gone through as it stands, so a text falls into its characters. A mapping
-- may be left out by anything that counts as nothing.
def spread (fields : SettingsFields) : Except Error SettingsFields := do
  let methods ← fields.methods.items
  let middleware ← fields.middleware.items
  pure
    { fields with
      methods := .tuple methods
      middleware := .tuple middleware
      constraints := if fields.constraints.truthy then fields.constraints else .mapping []
      parameters := if fields.parameters.truthy then fields.parameters else .mapping [] }

-- A route whose settings are stated one by one.
def define (config : Config) (template : String) (callback : Value)
    (fields : SettingsFields := {}) (name : Value := .null) : Logged Route := do
  let fields ← spread fields
  let settings ← Settings.ofFields fields
  make config template callback (.settings settings) name

def match? (route : Route) (path : String) : Except Error (Option Bindings) :=
  route.pattern.match? path

def allows (route : Route) (method : String) : Bool :=
  route.settings.allows method

def parameterKeys (route : Route) : List Value :=
  route.pattern.parameterNames.map .str

-- What is passed under a name of the template: the matched value, or else the configured one.
def argument (route : Route) (matched : Arguments) (name : Value) : Value × Value :=
  (name,
    (Entries.get? matched name).getD ((Entries.get? route.settings.parameters name).getD .null))

-- The parameters of the template in their order, then the other configured ones.
def arguments (route : Route) (matched : Arguments) : Arguments :=
  let names := route.parameterKeys
  names.map (route.argument matched) ++
    route.settings.parameters.filter fun entry => !names.contains entry.1

-- The namespace in force: the route's setting, else its default, else that of all routes.
def classNamespace (route : Route) : Value :=
  if route.settings.classNamespace != .null then route.settings.classNamespace
  else if route.defaultNamespace != .null then route.defaultNamespace
  else (route.config.defaultNamespace.map Value.str).getD .null

def withSettings (route : Route) (settings : Settings) : Logged Route :=
  ofDefinition { route.toRouteDefinition with settings }

def withFields (route : Route) (fields : SettingsFields) : Logged Route := do
  let settings ← Settings.ofFields fields
  route.withSettings settings

-- The route with the settings that its group hands down.
def inherit (route : Route) (parent : Inherited) : Logged Route := do
  let settings ← route.settings.merge parent
  route.withSettings settings

-- Constraints are stated by a mapping, or by the name of a parameter and a pattern.
def addedConstraints (parameter pattern : Value) : Except Error (List (Value × Value)) :=
  match parameter, pattern with
  | .mapping entries, _ => .ok entries
  | _, .null => .error (.configuration (.noConstraint parameter))
  | _, _ => if parameter.fixed then .ok [(parameter, pattern)] else .error .mistyped

def constrain (route : Route) (parameter : Value) (pattern : Value := .null) :
    Logged Route := do
  let added ← addedConstraints parameter pattern
  route.withFields
    { route.settings.fields with
      constraints := .mapping (Entries.update route.settings.constraintValues added) }

def numberPattern : String := "[0-9]+"

def alphaPattern : String := "[a-zA-Z]+"

def alphaNumericPattern : String := "[a-zA-Z0-9]+"

def hexPattern (length : Nat) : String :=
  "[0-9a-fA-F]\x7b" ++ toString length ++ "\x7d"

def uuidPattern : String :=
  String.intercalate "-" ([8, 4, 4, 4, 12].map hexPattern)

def constrainNumber (route : Route) (parameter : Value) : Logged Route :=
  route.constrain parameter (.str numberPattern)

def constrainAlpha (route : Route) (parameter : Value) : Logged Route :=
  route.constrain parameter (.str alphaPattern)

def constrainAlphaNumeric (route : Route) (parameter : Value) : Logged Route :=
  route.constrain parameter (.str alphaNumericPattern)

def constrainUuid (route : Route) (parameter : Value) : Logged Route :=
  route.constrain parameter (.str uuidPattern)

def choicePattern (choices : List String) : String :=
  "(?:" ++ String.intercalate "|" (choices.map Template.escape) ++ ")"

def readChoice : Value → Except Error String
  | .str choice => .ok choice
  | _ => .error .mistyped

def readChoices (values : Value) : Except Error (List String) := do
  (← values.items).mapM readChoice

-- One of the given texts, each matched as it stands.
def constrainIn (route : Route) (parameter values : Value) : Logged Route := do
  let choices ← readChoices values
  if choices.isEmpty then Logged.throw (.configuration (.noChoices parameter))
  else route.constrain parameter (.str (choicePattern choices))

def withMethods (route : Route) (methods : List Value) : Logged Route :=
  route.withFields
    { route.settings.fields with methods := .tuple (route.settings.methodValues ++ methods) }

def withMiddleware (route : Route) (middleware : List Value) : Logged Route :=
  route.withFields
    { route.settings.fields with
      middleware := .tuple (route.settings.middleware ++ middleware) }

def withParameters (route : Route) (parameters : List (Value × Value)) : Logged Route :=
  route.withFields
    { route.settings.fields with
      parameters := .mapping (Entries.update route.settings.parameters parameters) }

def withNamespace (route : Route) (classNamespace : Value) : Logged Route :=
  route.withFields { route.settings.fields with classNamespace }

def withDefaultNamespace (route : Route) (defaultNamespace : Value) : Logged Route :=
  ofDefinition { route.toRouteDefinition with defaultNamespace }

def withOverride (route : Route) (override : Value) : Logged Route := do
  let override ← readOverride override
  ofDefinition { route.toRouteDefinition with override }

def named (route : Route) (name : Value) : Logged Route :=
  ofDefinition { route.toRouteDefinition with name }

def withCallback (route : Route) (className method : Value) : Logged Route := do
  match className, method with
  | .str c, .str m =>
      let callback ← Callback.ofNames c m
      ofDefinition { route.toRouteDefinition with callback }
  | _, _ =>
      if className.truthy && method.truthy then Logged.throw .mistyped
      else Logged.throw (.configuration (.callbackParts className method))

def withClass (route : Route) (className : Value) : Logged Route :=
  route.withCallback className (.str (route.callback.method?.getD ""))

def withMethod (route : Route) (method : Value) : Logged Route :=
  route.withCallback (.str (route.callback.className?.getD "")) method

-- Routes are the same when their definitions are. The pattern follows from the definition.
def same (a b : Route) : Bool :=
  a.template == b.template && a.callback == b.callback && a.settings == b.settings &&
    a.name == b.name && a.defaultNamespace == b.defaultNamespace && a.override == b.override &&
    a.config == b.config

instance : BEq Route := ⟨same⟩

def sameHash (a b : Route) : Except Error Bool := do
  let sameSettings ← a.settings.sameHash b.settings
  if [a.name, b.name, a.defaultNamespace, b.defaultNamespace].all Value.fixed then
    pure <|
      sameSettings && a.template == b.template && a.callback == b.callback && a.name == b.name &&
        a.defaultNamespace == b.defaultNamespace && a.override == b.override &&
        a.config == b.config
  else throw .mistyped

def methodsText (route : Route) : String :=
  if route.settings.methods.isEmpty then "ANY"
  else String.intercalate "|" (route.settings.methods.map RequestMethod.name)

def text (route : Route) : String :=
  "[" ++ route.methodsText ++ "] " ++ route.template ++ " -> " ++ route.callback.identifier

end Route

end Signpost

import Signpost.Registry

namespace Signpost

inductive Handler
  | function (f : FunctionRef)
  | method (receiver : Instance) (name : String)
deriving DecidableEq

-- What a route dispatches to.
structure Target where
  handler : Handler
  name : String
deriving DecidableEq

def Target.receiver? (target : Target) : Option Instance :=
  match target.handler with
  | .function _ => none
  | .method receiver _ => some receiver

def Target.isMethod (target : Target) : Bool :=
  target.receiver?.isSome

-- A call that is ready to be made.
structure Call where
  target : Target
  arguments : Arguments

structure Dispatched where
  call : Call
  result : Value

namespace Dispatch

variable {σ : Type}

-- The namespace without separator characters at its end, then the separator and the class.
def qualify (separator classNamespace className : String) : String :=
  String.ofList (Text.trimEnd separator.toList classNamespace.toList) ++ separator ++ className

-- The full name of the class of a route that leads to a method.
def qualifiedName (route : Route) : Except Error String :=
  match route.callback with
  | .function _ => .error (.noClass route.template)
  | .method ref =>
      match route.classNamespace with
      | .str classNamespace =>
          if classNamespace = "" then .ok ref.className
          else .ok (qualify route.config.namespaceSeparator classNamespace ref.className)
      | classNamespace =>
          if classNamespace.truthy then .error .noAttribute else .ok ref.className

def resolveTarget (host : Host σ) (registry : Registry σ) (route : Route) : Hosted σ Target :=
  match route.callback with
  | .function f => pure ⟨.function f, route.callback.identifier⟩
  | .method ref => do
      let name ← qualifiedName route
      match ← registry.resolve name with
      | none =>
          Hosted.log .dispatch .error
            ("Route " ++ route.template ++ ": class " ++ name ++ " not found")
          Hosted.throw (.http (.classNotFound name))
      | some receiver =>
          if host.hasMethod receiver ref.method then
            pure
              ⟨.method receiver ref.method, name ++ route.config.callbackSeparator ++ ref.method⟩
          else
            Hosted.log .dispatch .debug
              ("Route " ++ route.template ++ ": " ++ name ++ " has no method " ++ ref.method)
            Hosted.throw (.http (.methodNotFound name ref.method))

-- The arguments that are there. For the others a method has defaults of its own.
def present (arguments : Arguments) : Arguments :=
  arguments.filter fun entry => entry.2 != .null

-- A function takes all values in order, a method those that are there, by name.
def perform (host : Host σ) (call : Call) : Hosted σ Value :=
  match call.target.handler with
  | .function f => host.callFunction f (call.arguments.map (·.2))
  | .method receiver name => host.callMethod receiver name (present call.arguments)

def bound (bindings : Bindings) : Arguments :=
  bindings.map fun (name, value) => (.str name, .str value)

-- The call that serves a path, if the path matches.
def prepare (host : Host σ) (registry : Registry σ) (route : Route) (path : String) :
    Hosted σ (Option Call) := do
  match ← route.match? path with
  | none => pure none
  | some matched =>
      let target ← resolveTarget host registry route
      let arguments := route.arguments (bound matched)
      Hosted.log .dispatch .debug
        ("Dispatching " ++ path ++ " to " ++ target.name ++ " with " ++
          (Value.mapping arguments).text)
      pure (some { target, arguments })

def dispatch (host : Host σ) (registry : Registry σ) (route : Route) (path : String) :
    Hosted σ (Option Dispatched) := do
  match ← prepare host registry route path with
  | none => pure none
  | some call =>
      let result ← perform host call
      pure (some { call, result })

end Dispatch

end Signpost

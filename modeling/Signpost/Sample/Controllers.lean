import Signpost.Entries
import Signpost.Registry
import Signpost.Sample.Functions

namespace Signpost.Sample

-- How often each instance was hit, in the order in which they were made.
abbrev World := List Nat

abbrev Step (α : Type) := World → Except Error α × World

def ofResult (result : Except Error α) : Step α := fun world => (result, world)

-- A method of an instance, given its arguments by name.
abbrev Method := Instance → List (String × Value) → Step Value

-- A method whose answer hangs on its arguments alone.
def answer (f : List (String × Value) → Except Error Value) : Method :=
  fun _ arguments => ofResult (f arguments)

def argumentName : Value × Value → Except Error (String × Value)
  | (.str name, value) => if name = "self" then .error .mistyped else .ok (name, value)
  | _ => .error .mistyped

def taken (names : List String) (arguments : List (String × Value)) : Bool :=
  (Entries.keys arguments).all names.contains

def showById (arguments : List (String × Value)) : Except Error Value :=
  match Entries.get? arguments "id" with
  | some id =>
      if taken ["id", "slug"] arguments then
        .ok (.tuple [id, (Entries.get? arguments "slug").getD (.str "default")])
      else .error .mistyped
  | none => .error .mistyped

def edit : List (String × Value) → Except Error Value
  | [("id", id)] => .ok (.str ("editing " ++ shown id))
  | _ => .error .mistyped

def echoed (arguments : List (String × Value)) : Except Error Value :=
  .ok (.mapping (arguments.map fun (name, value) => (.str name, value)))

-- Takes arguments by position only, so none can come by name.
def positional (items : List Value) : List (String × Value) → Except Error Value
  | [] => .ok (.list items)
  | _ => .error .mistyped

def hit : Method := fun receiver _ world =>
  let count := world.getD receiver.key 0 + 1
  (.ok (.int count), world.set receiver.key count)

def methods : String → List (String × Method)
  | "UserController" => [("show", answer showById), ("edit", answer edit)]
  | "Echo" =>
      [ ("call", answer echoed), ("acall", answer echoed),
        ("boom", answer fun _ => .error (.raised "boom")), ("none", answer fun _ => .ok .null),
        ("positional", answer (positional [])) ]
  | "Falsy" => [("ping", answer fun _ => .ok (.str "pong"))]
  | "Counter" => [("hit", hit)]
  | "Root" => [("index", answer fun _ => .ok (.str "root"))]
  | "Handler" =>
      [ ("method", answer (positional [.str "method"])),
        ("__call__", answer (positional [.str "handler"])) ]
  | _ => []

-- The one attribute of an instance that is no method. It cannot be called.
def isConstant (className name : String) : Bool :=
  className == "UserController" && name == "not_a_method"

def callMethod (receiver : Instance) (name : String) (arguments : Arguments) : Step Value :=
  match Entries.get? (methods receiver.className) name with
  | none =>
      ofResult (.error (if isConstant receiver.className name then .mistyped else .noAttribute))
  | some method =>
      match arguments.mapM argumentName with
      | .error error => ofResult (.error error)
      | .ok arguments => method receiver arguments

def callFunction (f : FunctionRef) (values : List Value) : Except Error Value :=
  match function? f.key with
  | some f => f.run values
  | none => .error .mistyped

def host : Host World where
  callFunction f values := Hosted.ofStep (ofResult (callFunction f values))
  hasMethod receiver name := Entries.contains (methods receiver.className) name
  callMethod receiver name arguments := Hosted.ofStep (callMethod receiver name arguments)

def make (className : String) : Hosted World Instance :=
  Hosted.ofStep fun world => (.ok ⟨className, world.length⟩, world ++ [0])

-- The classes of the module of controllers that can be made from nothing.
def controllerNames : List String := ["UserController", "Echo", "Falsy", "Counter"]

-- What makes an instance, by name. Besides the classes there is a function that gives a new
-- instance, one that gives nothing, and two names that cannot make any.
def factory? (name : String) : Option (Factory World) :=
  if controllerNames.contains name then some (Factory.ofClass (make name))
  else if name = "make_user" then some (Factory.ofClass (make "UserController"))
  else if name = "null_factory" then some (Hosted.pure none)
  else if name = "NeedsArg" || name = "not_a_class" then some (Hosted.throw .mistyped)
  else none

def classAttribute (className : String) : String × Attribute World :=
  (className, .ofClass (make className))

def controllers : List (String × Attribute World) :=
  controllerNames.map classAttribute ++
    [ ("NeedsArg", .ofClass (Hosted.throw .mistyped)), ("make_user", .other "function"),
      ("null_factory", .other "function"), ("not_a_class", .other "int") ]

end Signpost.Sample

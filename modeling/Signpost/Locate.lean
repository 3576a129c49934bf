import Signpost.Registry

namespace Signpost

namespace Attribute

variable {σ : Type}

def typeName : Attribute σ → String
  | ofClass _ => "type"
  | route _ => "Route"
  | sequence typeName _ => typeName
  | other typeName => typeName

def candidates : Attribute σ → Except Error (List (Option Route))
  | sequence _ candidates => .ok candidates
  | found => .error (.notIterable found.typeName)

end Attribute

namespace Modules

variable {σ : Type}

-- The module and the name. A place without a name means the route called `route`.
def splitPlace (place : String) : String × String :=
  match Text.cut? [':'] place.toList with
  | none => (place, "route")
  | some (moduleName, []) => (String.ofList moduleName, "route")
  | some (moduleName, name) => (String.ofList moduleName, String.ofList name)

def hasName (name : String) : Option Route → Bool
  | some route => route.name == .str name
  | none => false

-- The first of the module's routes that has the name. There may be none of them.
def listedRoute? (attributes : List (String × Attribute σ)) (name : String) :
    Except Error (Option Route) :=
  match Entries.get? attributes "routes" with
  | none => .ok none
  | some found => do
      let candidates ← found.candidates
      pure (candidates.findSome? fun candidate =>
        if hasName name candidate then candidate else none)

def routeIn (moduleName name : String) (attributes : List (String × Attribute σ)) :
    Except Error Route :=
  match Entries.get? attributes name with
  | some (.route route) => .ok route
  | some found => .error (.notRoute (moduleName ++ "." ++ name) found.typeName)
  | none => do
      match ← listedRoute? attributes name with
      | some route => pure route
      | none => .error (.noRoute name moduleName)

def locate (modules : Modules σ) (place : String) : Except Error Route := do
  let (moduleName, name) := splitPlace place
  let found ← modules.load moduleName
  routeIn moduleName name found.attributes

end Modules

end Signpost

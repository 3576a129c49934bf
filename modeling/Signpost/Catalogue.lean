import Signpost.Error

namespace Signpost.Catalogue

-- Each part of the router and the names it defines for all.
def parts : List (String × List String) :=
  [ ("perch.routing.pattern", ["CompiledPattern", "compile_pattern", "match_pattern"]),
    ("perch.routing.route", ["Route"]),
    ("perch.routing.group", ["RouteGroup"]),
    ("perch.routing.settings", ["RouteSettings", "merge_settings"]),
    ("perch.routing.dispatch", ["MappingRegistry", "dispatch"]),
    ("perch.config", ["RouterConfig"]),
    ("perch.errors",
      [ "ConfigurationError", "HTTPError", "MissingRequiredParameter", "NotFound", "PerchError",
        "TargetClassNotFound", "TargetMethodNotFound" ]) ]

-- Texts that the router tells of itself. They are not listed among its names.
def texts : List (String × String) :=
  [("__version__", "0.1.0"), ("__name__", "perch"), ("__package__", "perch")]

inductive Entry
  | defined (home name : String)
  | text (content : String)
deriving DecidableEq, Repr

def Entry.listed : Entry → Bool
  | defined _ _ => true
  | text _ => false

def find (name : String) : Except Error Entry :=
  match parts.find? fun part => part.2.contains name with
  | some (home, _) => .ok (.defined home name)
  | none =>
      match texts.find? fun text => text.1 == name with
      | some (_, content) => .ok (.text content)
      | none => .error (.noPublicName name)

end Signpost.Catalogue

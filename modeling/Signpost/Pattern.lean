import Signpost.Template

namespace Signpost

structure Pattern where
  template : String
  regex : Regex
  parameters : List Parameter
deriving Inhabited

-- The parameters that a path binds, in the order of the template.
abbrev Bindings := List (String × String)

namespace Pattern

def parameterNames (pattern : Pattern) : List String :=
  pattern.parameters.map (·.name)

def compileRegex (config : Config) (template text : String) : Except Error Regex :=
  Config.compilePattern text config.flags (.invalidPattern template text)

def ofTemplate (config : Config) (constraints : Constraints) (template : String) :
    Logged Pattern := do
  let (text, parameters) ← Template.read config constraints template
  if !config.escapeLiterals then
    Logged.log .routing .warning
      ("Template " ++ Text.quoted template ++ " compiled without literal escaping; regex " ++
        "metacharacters in literal segments are live.")
  let regex ← compileRegex config template text
  Logged.log .routing .debug ("Compiled " ++ Text.quoted template ++ " -> " ++ text)
  pure { template, regex, parameters }

-- A pattern for the whole route. Any of its groups may be left out by a match.
def ofOverride (config : Config) (template text : String) : Except Error Pattern := do
  let regex ← compileRegex config template text
  pure { template, regex, parameters := regex.names.map fun (name, _) => ⟨name, false⟩ }

-- What a match binds to one parameter, if anything.
def bind? (regex : Regex) (found : Regex.Spot) (parameter : Parameter) :
    Except Error (Option (String × String)) :=
  match regex.index? parameter.name with
  | none => .error .noSuchGroup
  | some index =>
      match found.captured? index with
      | some value => .ok (some (parameter.name, String.ofList value))
      | none =>
          if parameter.required then .error (.http (.missingParameter parameter.name))
          else .ok none

-- The bindings of a path that matches. Optional parameters that were not supplied are left out.
def match? (pattern : Pattern) (path : String) : Except Error (Option Bindings) :=
  match pattern.regex.match? path with
  | none => .ok none
  | some found => do
      let bound ← pattern.parameters.mapM (bind? pattern.regex found)
      pure (some (Entries.ofList (bound.filterMap id)))

end Pattern

end Signpost

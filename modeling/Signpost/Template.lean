import Signpost.Config
import Signpost.Entries
import Signpost.Log
import Signpost.Text.Identifier

namespace Signpost

structure Parameter where
  name : String
  required : Bool
deriving DecidableEq, Repr

-- The constraint of each placeholder that has one, by its name.
abbrev Constraints := List (Value × String)

namespace Template

-- The characters that would mean something in a pattern.
def special : List Char :=
  "()[]\x7b\x7d?*+-|^$\\.&~# \t\n\r\x0b\x0c".toList

def escapeChar (c : Char) : List Char :=
  if special.contains c then ['\\', c] else [c]

def escape (text : String) : String :=
  String.ofList (text.toList.flatMap escapeChar)

-- Where literals are live, only the full stop is made to stand for itself.
def literal (config : Config) (c : Char) : List Char :=
  if config.escapeLiterals then escapeChar c else if c = '.' then ['\\', '.'] else [c]

-- A placeholder takes the slash before it. One character behind its group may be lost, and that is
-- no slash.
def fragment (parameter : Parameter) (pattern : String) : List Char :=
  let group :=
    "/?(?P<".toList ++ parameter.name.toList ++ '>' :: pattern.toList ++ ")[^/]?".toList
  if parameter.required then group else "(?:".toList ++ group ++ ")?".toList

-- The part of a template read so far: the pattern it gives, the placeholder that is open, if
-- one is, and the placeholders that are complete.
structure Draft where
  pattern : List Char := []
  body : Option (List Char) := none
  parameters : List Parameter := []

def dropSlash (pattern : List Char) : List Char :=
  if pattern.getLast? = some '/' then pattern.dropLast else pattern

-- A placeholder's body without the sign that it is optional.
def parameterOf (config : Config) (body : List Char) : Parameter :=
  if body.getLast? = some config.optionalSymbol then ⟨String.ofList body.dropLast, false⟩
  else ⟨String.ofList body, true⟩

def constraintFor (config : Config) (constraints : Constraints) (name : String) : String :=
  (Entries.get? constraints (.str name)).getD config.defaultPattern

-- A constraint is a pattern of its own, and it names no groups.
def checkConstraint (name pattern template : String) : Except Error Unit := do
  let regex ← Config.compilePattern pattern {} (.constraint name template)
  if regex.names.isEmpty then pure () else throw (.configuration (.namedGroups name template))

def closePlaceholder (config : Config) (constraints : Constraints) (template : String)
    (draft : Draft) (body : List Char) : Except Error Draft := do
  let parameter := parameterOf config body
  let name := parameter.name
  if !Text.isIdentifier name.toList then
    throw (.configuration (.parameterName name template))
  if draft.parameters.any (·.name == name) then
    throw (.configuration (.duplicateParameter name template))
  let pattern := constraintFor config constraints name
  checkConstraint name pattern template
  pure
    { pattern := draft.pattern ++ fragment parameter pattern
      parameters := draft.parameters ++ [parameter] }

def step (config : Config) (constraints : Constraints) (template : String) (draft : Draft)
    (c : Char) : Except Error Draft :=
  match draft.body with
  | none =>
      if c = config.paramOpen then
        .ok { draft with pattern := dropSlash draft.pattern, body := some [] }
      else .ok { draft with pattern := draft.pattern ++ literal config c }
  | some body =>
      if c = config.paramClose then closePlaceholder config constraints template draft body
      else .ok { draft with body := some (body ++ [c]) }

-- The pattern that a template stands for, and its placeholders in order.
def read (config : Config) (constraints : Constraints) (template : String) :
    Except Error (String × List Parameter) := do
  let draft ← template.toList.foldlM (step config constraints template) {}
  match draft.body with
  | some body =>
      throw (.configuration (.unterminated config.paramOpen (String.ofList body) template))
  | none => pure (String.ofList ('^' :: draft.pattern ++ "/?\\Z".toList), draft.parameters)

end Template

end Signpost

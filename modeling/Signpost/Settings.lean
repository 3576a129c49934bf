import Signpost.Log
import Signpost.Template
import Signpost.Value.Contents

namespace Signpost

-- A collection that is empty, or a namespace that is null, is not set.
structure Settings where
  classNamespace : Value := .null
  methods : List RequestMethod := []
  constraints : Constraints := []
  parameters : List (Value × Value) := []
  middleware : List Value := []
  methods_nodup : methods.Nodup := by exact List.Pairwise.nil
  constraints_distinct : Entries.Distinct constraints := by exact List.Pairwise.nil
  parameters_distinct : Entries.Distinct parameters := by exact List.Pairwise.nil

instance : Inhabited Settings := ⟨{}⟩

-- Settings as they are stated, before any check.
structure SettingsFields where
  classNamespace : Value := .null
  methods : Value := .tuple []
  constraints : Value := .mapping []
  parameters : Value := .mapping []
  middleware : Value := .tuple []
deriving Inhabited

-- The name of one of the settings.
inductive SettingsKey
  | classNamespace
  | methods
  | constraints
  | parameters
  | middleware
deriving DecidableEq, Repr

namespace SettingsKey

def all : List SettingsKey := [classNamespace, methods, constraints, parameters, middleware]

def name : SettingsKey → String
  | classNamespace => "namespace"
  | methods => "methods"
  | constraints => "where"
  | parameters => "parameters"
  | middleware => "middleware"

def ofValue? (value : Value) : Option SettingsKey :=
  all.find? fun key => Value.str key.name == value

end SettingsKey

namespace SettingsFields

def set (fields : SettingsFields) (value : Value) : SettingsKey → SettingsFields
  | .classNamespace => { fields with classNamespace := value }
  | .methods => { fields with methods := value }
  | .constraints => { fields with constraints := value }
  | .parameters => { fields with parameters := value }
  | .middleware => { fields with middleware := value }

def setEntry (fields : SettingsFields) (entry : Value × Value) : SettingsFields :=
  match SettingsKey.ofValue? entry.1 with
  | some key => fields.set entry.2 key
  | none => fields

-- Fields set by name. There is no field of another name.
def update (fields : SettingsFields) (changes : List (Value × Value)) :
    Except Error SettingsFields :=
  if changes.all fun change => (SettingsKey.ofValue? change.1).isSome then
    .ok (changes.foldl setEntry fields)
  else .error .mistyped

def text? : Value → Option String
  | .str s => some s
  | _ => none

-- The keys that are no names of settings, in order of the alphabet.
def unknownKeys (keys : List Value) : Error :=
  match keys.mapM text? with
  | some names => .configuration (.unknownSettings (names.eraseDups.mergeSort (· ≤ ·)))
  | none => .mistyped

-- Fields set by a mapping. Whatever can be gone through is asked for its keys first.
def ofMapping (value : Value) : Except Error SettingsFields := do
  let keys ← value.items
  if !keys.all Value.fixed then throw .mistyped
  let unknown := keys.filter fun key => (SettingsKey.ofValue? key).isNone
  if !unknown.isEmpty then throw (unknownKeys unknown)
  match value with
  | .mapping entries => pure (entries.foldl setEntry {})
  | _ => throw .mistyped

-- A lone text is one method.
def methodList (value : Value) : Except Error (List Value) :=
  match value with
  | .str _ => .ok [value]
  | _ => value.items

def readMethod : Value → Except Error RequestMethod
  | .str s =>
      match RequestMethod.ofText? s with
      | some method => .ok method
      | none => .error (.configuration (.unknownMethod s))
  | _ => .error .noAttribute

def readMethods (value : Value) : Except Error (List RequestMethod) := do
  let methods ← (← methodList value).mapM readMethod
  pure (RequestMethod.union [] methods)

-- A lone text or function is one item of middleware.
def readMiddleware (value : Value) : Except Error (List Value) :=
  match value with
  | .str _ | .function _ => .ok [value]
  | _ => value.items

def readConstraint : Value × Value → Except Error (Value × String)
  | (name, .str pattern) => .ok (name, pattern)
  | (name, value) => .error (.configuration (.constraintType name value.typeName))

end SettingsFields

namespace Settings

def ofParts (classNamespace : Value) (methods : List RequestMethod) (constraints : Constraints)
    (parameters : List (Value × Value)) (middleware : List Value) : Settings :=
  { classNamespace
    methods := RequestMethod.union [] methods
    constraints := Entries.ofList constraints
    parameters := Entries.ofList parameters
    middleware
    methods_nodup := RequestMethod.nodup_union List.Pairwise.nil methods
    constraints_distinct := Entries.distinct_ofList constraints
    parameters_distinct := Entries.distinct_ofList parameters }

def ofFields (fields : SettingsFields) : Except Error Settings := do
  let methods ← SettingsFields.readMethods fields.methods
  let constraints ← fields.constraints.entries
  let parameters ← fields.parameters.entries
  let middleware ← SettingsFields.readMiddleware fields.middleware
  let constraints ← constraints.mapM SettingsFields.readConstraint
  pure (ofParts fields.classNamespace methods constraints parameters middleware)

def ofMapping (value : Value) : Except Error Settings := do
  ofFields (← SettingsFields.ofMapping value)

def methodValues (settings : Settings) : List Value :=
  settings.methods.map fun method => .str method.name

def constraintValues (settings : Settings) : List (Value × Value) :=
  settings.constraints.map fun (name, pattern) => (name, .str pattern)

def fields (settings : Settings) : SettingsFields :=
  { classNamespace := settings.classNamespace
    methods := .tuple settings.methodValues
    constraints := .mapping settings.constraintValues
    parameters := .mapping settings.parameters
    middleware := .tuple settings.middleware }

def replace (settings : Settings) (changes : List (Value × Value)) : Except Error Settings := do
  ofFields (← settings.fields.update changes)

def field (settings : Settings) : SettingsKey → Value
  | .classNamespace => settings.fields.classNamespace
  | .methods => settings.fields.methods
  | .constraints => settings.fields.constraints
  | .parameters => settings.fields.parameters
  | .middleware => settings.fields.middleware

def isSet (settings : Settings) : SettingsKey → Bool
  | .classNamespace => settings.classNamespace != .null
  | .methods => !settings.methods.isEmpty
  | .constraints => !settings.constraints.isEmpty
  | .parameters => !settings.parameters.isEmpty
  | .middleware => !settings.middleware.isEmpty

-- The settings that are set, as a mapping from which they can be made again.
def handDown (settings : Settings) : List (Value × Value) :=
  (SettingsKey.all.filter settings.isSet).map fun key => (.str key.name, settings.field key)

def isDefault (settings : Settings) : Bool :=
  !SettingsKey.all.any settings.isSet

-- No methods at all means any method.
def allows (settings : Settings) (method : String) : Bool :=
  settings.methods.isEmpty || (RequestMethod.ofText? method).any settings.methods.contains

-- The order of constraints and of parameters makes no difference.
def same (a b : Settings) : Bool :=
  SettingsKey.all.all fun key => a.field key == b.field key

instance : BEq Settings := ⟨same⟩

def sameMembers (xs ys : List Value) : Bool :=
  xs.all ys.contains && ys.all xs.contains

-- Whether two settings fall together wherever settings are looked up by what cannot change in
-- them: the parameters count by name only, and the middleware does not count.
def sameHash (a b : Settings) : Except Error Bool :=
  if a.classNamespace.fixed && b.classNamespace.fixed then
    .ok <|
      a.classNamespace == b.classNamespace && a.methods == b.methods &&
        Value.mapping a.constraintValues == Value.mapping b.constraintValues &&
        sameMembers (Entries.keys a.parameters) (Entries.keys b.parameters)
  else .error .mistyped

-- Inherited middleware runs first, unless the chain begins with it already.
def chain (inherited own : List Value) : List Value :=
  if inherited.isPrefixOf own then own else inherited ++ own

def inherit (own parent : Settings) : Settings :=
  ofParts (if own.classNamespace != .null then own.classNamespace else parent.classNamespace)
    (RequestMethod.union own.methods parent.methods)
    (Entries.update parent.constraints own.constraints)
    (Entries.update parent.parameters own.parameters)
    (chain parent.middleware own.middleware)

end Settings

-- Where settings are inherited from: settings themselves, a value that states some, or something
-- that hands down a value which does.
inductive Inherited
  | settings (settings : Settings)
  | stated (value : Value)
  | handedDown (value : Value)
deriving Inhabited

def Inherited.read : Inherited → Except Error Settings
  | .settings found => .ok found
  | .stated .null => .ok {}
  | .stated (.mapping entries) => Settings.ofMapping (.mapping entries)
  | .stated _ => .error .noAttribute
  | .handedDown value => Settings.ofMapping value

namespace Settings

-- Settings that set nothing leave the others as they are.
def merge (own : Settings) (inherited : Inherited) : Logged Settings := do
  let parent ← inherited.read
  if parent.isDefault then pure own
  else
    Logged.log .routing .debug
      ("Merged settings " ++ (Value.mapping own.handDown).text ++ " <- " ++
        (Value.mapping parent.handDown).text)
    pure (own.inherit parent)

end Settings

end Signpost

import Signpost.Regex.Fault
import Signpost.RequestMethod
import Signpost.Value

namespace Signpost

open Text

inductive ConfigurationFault
  | notOneCharacter (field : String)
  | sameDelimiters
  | emptyCallbackSeparator
  | defaultPattern (pattern : String) (error : Regex.Error)
  | parameterName (name template : String)
  | duplicateParameter (name template : String)
  | constraint (name template : String) (error : Regex.Error)
  | namedGroups (name template : String)
  | unterminated (opening : Char) (name template : String)
  | invalidPattern (template pattern : String) (error : Regex.Error)
  | unknownMethod (method : String)
  | unknownSettings (keys : List String)
  | constraintType (name : Value) (typeName : String)
  | callbackShape (callback separator : String)
  | callbackParts (className method : Value)
  | callbackMapping (mapping : Value)
  | callbackType (callback : Value)
  | noConstraint (parameter : Value)
  | noChoices (parameter : Value)
  | whereOption (item : String)
  | stated (message : String)
deriving Inhabited

def ConfigurationFault.message : ConfigurationFault → String
  | notOneCharacter field => "RouterConfig." ++ field ++ " must be a single character."
  | sameDelimiters => "RouterConfig.param_open and param_close must differ."
  | emptyCallbackSeparator => "RouterConfig.callback_separator must not be empty."
  | defaultPattern pattern error =>
      "Invalid default_parameter_pattern " ++ quoted pattern ++ ": " ++ error.message
  | parameterName name template =>
      "Invalid parameter name " ++ quoted name ++ " in template " ++ quoted template
  | duplicateParameter name template =>
      "Duplicate parameter " ++ quoted name ++ " in template " ++ quoted template
  | constraint name template error =>
      "Invalid constraint for " ++ quoted name ++ " in " ++ quoted template ++ ": " ++
        error.message
  | namedGroups name template =>
      "Constraint for " ++ quoted name ++ " in " ++ quoted template ++
        " defines named groups; use (?:...) for grouping."
  | unterminated opening name template =>
      "Unterminated placeholder " ++ opening.toString ++ name ++ " in template " ++
        quoted template
  | invalidPattern template pattern error =>
      "Template " ++ quoted template ++ " produced an invalid pattern " ++ quoted pattern ++
        ": " ++ error.message
  | unknownMethod method =>
      "Unknown request method " ++ quoted method ++ ". Expected one of: " ++
        Value.joined (RequestMethod.all.map RequestMethod.name)
  | unknownSettings keys => "Unknown route settings: " ++ Value.joined keys
  | constraintType name typeName =>
      "Constraint for " ++ name.text ++ " must be a regex string, got " ++ typeName
  | callbackShape callback separator =>
      "Callback " ++ quoted callback ++ " must look like 'Class" ++ separator ++ "method'."
  | callbackParts className method =>
      "Callback needs both a class and a method, got " ++ className.text ++ ", " ++ method.text
  | callbackMapping mapping =>
      "Callback mapping needs 'controller' and 'method' strings, got " ++ mapping.text
  | callbackType callback =>
      "Unsupported route callback " ++ callback.text ++ " (" ++ callback.typeName ++ ")"
  | noConstraint parameter => "No constraint given for parameter " ++ parameter.text
  | noChoices parameter => "where_in() needs at least one value for " ++ parameter.text
  | whereOption item => "--where expects NAME=REGEX, got " ++ quoted item
  | stated message => message

-- An error that stands for the answer to a request.
inductive HttpError
  | general (status : Int) (detail : String) (headers : Value)
  | notFound (detail : String)
  | missingParameter (name : String)
  | classNotFound (className : String)
  | methodNotFound (className method : String)
deriving Inhabited

namespace HttpError

def status : HttpError → Int
  | general status _ _ => status
  | notFound _ => 404
  | missingParameter _ => 404
  | classNotFound _ => 500
  | methodNotFound _ _ => 404

def detail : HttpError → String
  | general _ detail _ => detail
  | notFound detail => detail
  | missingParameter name => "Missing required parameter " ++ quoted name
  | classNotFound className => "Class " ++ className ++ " does not exist"
  | methodNotFound className method =>
      "Method " ++ method ++ " does not exist in class " ++ className

def headers : HttpError → Value
  | general _ _ headers => headers
  | _ => .tuple []

def message (error : HttpError) : String :=
  if error.detail = "" then toString error.status
  else toString error.status ++ ": " ++ error.detail

end HttpError

inductive Error
  | configuration (fault : ConfigurationFault)
  | http (error : HttpError)
  -- A limit that a pattern exceeds without being malformed.
  | pattern (error : Regex.Error)
  | noSuchGroup
  -- A value of a wrong type, or arguments that a callable does not take.
  | mistyped
  -- A property that a value does not have.
  | noAttribute
  | noClass (template : String)
  | noPublicName (name : String)
  | notRoute (place typeName : String)
  | notIterable (typeName : String)
  | noRoute (name moduleName : String)
  | noModule (name : String)
  | noPackage (name parent : String)
  | relativeModule (name : String)
  | emptyModuleName
  -- What a handler, or the body of a module, fails with.
  | raised (message : String)
deriving Inhabited

def Error.message : Error → String
  | configuration fault => fault.message
  | http error => error.message
  | pattern error => error.message
  | noSuchGroup => "no such group"
  | mistyped => "a value of the wrong type"
  | noAttribute => "no such property"
  | noClass template => "Route " ++ quoted template ++ " does not dispatch to a class"
  | noPublicName name => "module 'perch' has no attribute " ++ quoted name
  | notRoute place typeName => place ++ " is a " ++ typeName ++ ", expected a Route"
  | notIterable typeName => "'" ++ typeName ++ "' object is not iterable"
  | noRoute name moduleName => "No route " ++ quoted name ++ " in module " ++ quoted moduleName
  | noModule name => "No module named " ++ quoted name
  | noPackage name parent =>
      "No module named " ++ quoted name ++ "; " ++ quoted parent ++ " is not a package"
  | relativeModule name =>
      "the 'package' argument is required to perform a relative import for " ++ quoted name
  | emptyModuleName => "Empty module name"
  | raised message => message

end Signpost

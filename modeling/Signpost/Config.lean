import Signpost.Error
import Signpost.Regex

namespace Signpost

-- A configuration as it is asked for, before any check.
structure ConfigOptions where
  defaultNamespace : Option String := none
  namespaceSeparator : String := "."
  callbackSeparator : String := "@"
  paramOpen : String := "\x7b"
  paramClose : String := "\x7d"
  optionalSymbol : String := "?"
  defaultPattern : String := "[\\w-]+"
  escapeLiterals : Bool := true
  caseSensitive : Bool := true
deriving DecidableEq, Repr

structure Config where
  defaultNamespace : Option String
  namespaceSeparator : String
  callbackSeparator : String
  paramOpen : Char
  paramClose : Char
  optionalSymbol : Char
  -- The pattern of a placeholder that has no constraint.
  defaultPattern : String
  -- Whether the literal parts of a template stand for themselves.
  escapeLiterals : Bool
  caseSensitive : Bool
  delimiters_ne : paramOpen ≠ paramClose
  separator_ne : callbackSeparator ≠ ""
deriving DecidableEq

namespace Config

instance : Inhabited Config where
  default :=
    { defaultNamespace := none
      namespaceSeparator := "."
      callbackSeparator := "@"
      paramOpen := '\x7b'
      paramClose := '\x7d'
      optionalSymbol := '?'
      defaultPattern := "[\\w-]+"
      escapeLiterals := true
      caseSensitive := true
      delimiters_ne := by decide
      separator_ne := by decide }

def oneCharacter (field text : String) : Except Error Char :=
  match text.toList with
  | [c] => .ok c
  | _ => .error (.configuration (.notOneCharacter field))

-- A malformed pattern is a configuration fault. A pattern that exceeds a limit is not.
def patternError (fault : Regex.Error → ConfigurationFault) : Regex.Error → Error
  | .malformed cause place => .configuration (fault (.malformed cause place))
  | error => .pattern error

def compilePattern (text : String) (flags : Regex.Flags)
    (fault : Regex.Error → ConfigurationFault) : Except Error Regex :=
  (Regex.compile text flags).mapError (patternError fault)

def ofOptions (options : ConfigOptions) : Except Error Config := do
  let paramOpen ← oneCharacter "param_open" options.paramOpen
  let paramClose ← oneCharacter "param_close" options.paramClose
  let optionalSymbol ← oneCharacter "optional_symbol" options.optionalSymbol
  if delimiters_ne : paramOpen ≠ paramClose then
    if separator_ne : options.callbackSeparator ≠ "" then
      let _ ← compilePattern options.defaultPattern {} (.defaultPattern options.defaultPattern)
      pure
        { defaultNamespace := options.defaultNamespace
          namespaceSeparator := options.namespaceSeparator
          callbackSeparator := options.callbackSeparator
          paramOpen, paramClose, optionalSymbol
          defaultPattern := options.defaultPattern
          escapeLiterals := options.escapeLiterals
          caseSensitive := options.caseSensitive
          delimiters_ne, separator_ne }
    else .error (.configuration .emptyCallbackSeparator)
  else .error (.configuration .sameDelimiters)

-- The flags of the patterns that templates compile to.
def flags (config : Config) : Regex.Flags :=
  { dotAll := true, ignoreCase := !config.caseSensitive }

end Config

end Signpost

import Signpost.Text.Cut
import Signpost.Text.Digit

namespace Signpost.CommandLine

inductive Flag
  | help
  | verbose
  | constraint
deriving DecidableEq, Repr

def Flag.short : Flag → Option Char
  | help => some 'h'
  | verbose => some 'v'
  | constraint => none

def Flag.long : Flag → String
  | help => "--help"
  | verbose => "--verbose"
  | constraint => "--where"

def Flag.takesValue : Flag → Bool
  | constraint => true
  | _ => false

-- What is written in one word with a flag: after an equals sign, or right behind the letter.
inductive Attached
  | nothing
  | equals (text : List Char)
  | joined (text : List Char)
deriving DecidableEq, Repr

inductive Word
  | operand (text : String)
  -- The double dash, with all that follows it.
  | dashes (texts : List String)
  | short (flag : Flag) (attached : Attached)
  | long (flag : Flag) (attached : Attached)
  | unknown (text : String)
deriving DecidableEq, Repr

namespace Word

def allDigits (cs : List Char) : Bool :=
  !cs.isEmpty && cs.all Text.isDigit

def isDecimal (cs : List Char) : Bool :=
  allDigits cs ||
    match Text.cut? ['.'] cs with
    | some (whole, places) => whole.all Text.isDigit && allDigits places
    | none => false

-- One line feed at the end makes no difference.
def dropLineFeed (cs : List Char) : List Char :=
  if cs.getLast? = some '\n' then cs.dropLast else cs

-- A number below zero is no flag, although it begins with a dash.
def isNegativeNumber : List Char → Bool
  | '-' :: cs => isDecimal cs || isDecimal (dropLineFeed cs)
  | _ => false

-- A dash with no flag behind it that is known. With a space in it, it is taken for a text.
def stray (text : String) : Word :=
  if isNegativeNumber text.toList || text.toList.contains ' ' then operand text
  else unknown text

def ofShort (flags : List Flag) (text : String) (letter : Char) (rest : List Char) : Word :=
  match flags.find? fun flag => flag.short = some letter with
  | none => stray text
  | some flag =>
      match rest with
      | [] => short flag .nothing
      | '=' :: value => short flag (.equals value)
      | rest => short flag (.joined rest)

def attachedAfter (cut : Option (List Char × List Char)) : Attached :=
  match cut with
  | none => .nothing
  | some (_, value) => .equals value

-- A flag that could be meant in more than one way is none.
def ofLong? (flags : List Flag) (text : String) : Option Word :=
  let cut := Text.cut? ['='] text.toList
  let name := (cut.map (·.1)).getD text.toList
  let attached := attachedAfter cut
  match flags.find? fun flag => flag.long.toList == name with
  | some flag => some (long flag attached)
  | none =>
      match flags.filter fun flag => name.isPrefixOf flag.long.toList with
      | [] => some (stray text)
      | [flag] => some (long flag attached)
      | _ => none

def ofText? (flags : List Flag) (text : String) : Option Word :=
  match text.toList with
  | '-' :: '-' :: _ => ofLong? flags text
  | '-' :: letter :: rest => some (ofShort flags text letter rest)
  | _ => some (operand text)

-- The words of a line, unless one of them is ambiguous.
def readAll? (flags : List Flag) : List String → Option (List Word)
  | [] => some []
  | text :: texts =>
      if text = "--" then some [dashes texts]
      else do
        let word ← ofText? flags text
        let words ← readAll? flags texts
        pure (word :: words)

end Word

end Signpost.CommandLine

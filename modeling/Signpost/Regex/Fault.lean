import Signpost.Text.Quoted

namespace Signpost.Regex

open Signpost.Text

inductive Cause
  | danglingBackslash
  | incompleteEscape (escape : String)
  | badEscape (escape : String)
  | octalTooLarge (escape : String)
  | missingBrace
  | missingName (what : String)
  | unterminatedName (closer : String)
  | unknownCharacter (name : String)
  | unterminatedSet
  | badRange (first last : String)
  | leastAboveMost
  | nothingToRepeat
  | multipleRepeat
  | unexpectedEnd
  | unknownExtension (opening : String)
  | unterminatedComment
  | unterminatedGroup
  | unbalanced
  | badGroupName (name : String)
  | unknownGroupName (name : String)
  | groupRedefined (name : String) (index earlier : Nat)
  | badGroupNumber
  | unknownGroup (index : Nat)
  | openGroup
  | lookbehindGroup
  | tooManyBranches
  | localeFlag
  | alphabetClash
  | alphabetOff
  | flagUnknown
  | flagsUnended
  | flagsMisplaced
  | flagMissing
  | flagsWithoutColon
  | globalFlagOn
  | globalFlagOff
  | flagOnAndOff
  | lookbehindVaries
  | lookbehindTooFar
  | repeatInTemplate (operator : String)
deriving DecidableEq, Repr

def Cause.message : Cause → String
  | danglingBackslash => "bad escape (end of pattern)"
  | incompleteEscape escape => "incomplete escape " ++ escape
  | badEscape escape => "bad escape " ++ escape
  | octalTooLarge escape => "octal escape value " ++ escape ++ " outside of range 0-0o377"
  | missingBrace => "missing \x7b"
  | missingName what => "missing " ++ what
  | unterminatedName closer => "missing " ++ closer ++ ", unterminated name"
  | unknownCharacter name => "undefined character name " ++ quoted name
  | unterminatedSet => "unterminated character set"
  | badRange first last => "bad character range " ++ first ++ "-" ++ last
  | leastAboveMost => "min repeat greater than max repeat"
  | nothingToRepeat => "nothing to repeat"
  | multipleRepeat => "multiple repeat"
  | unexpectedEnd => "unexpected end of pattern"
  | unknownExtension opening => "unknown extension " ++ opening
  | unterminatedComment => "missing ), unterminated comment"
  | unterminatedGroup => "missing ), unterminated subpattern"
  | unbalanced => "unbalanced parenthesis"
  | badGroupName name => "bad character in group name " ++ quoted name
  | unknownGroupName name => "unknown group name " ++ quoted name
  | groupRedefined name index earlier =>
      "redefinition of group name " ++ quoted name ++ " as group " ++ toString index ++
        "; was group " ++ toString earlier
  | badGroupNumber => "bad group number"
  | unknownGroup index => "invalid group reference " ++ toString index
  | openGroup => "cannot refer to an open group"
  | lookbehindGroup => "cannot refer to group defined in the same lookbehind subpattern"
  | tooManyBranches => "conditional backref with more than two branches"
  | localeFlag => "bad inline flags: cannot use 'L' flag with a str pattern"
  | alphabetClash => "bad inline flags: flags 'a', 'u' and 'L' are incompatible"
  | alphabetOff => "bad inline flags: cannot turn off flags 'a', 'u' and 'L'"
  | flagUnknown => "unknown flag"
  | flagsUnended => "missing -, : or )"
  | flagsMisplaced => "global flags not at the start of the expression"
  | flagMissing => "missing flag"
  | flagsWithoutColon => "missing :"
  | globalFlagOn => "bad inline flags: cannot turn on global flag"
  | globalFlagOff => "bad inline flags: cannot turn off global flag"
  | flagOnAndOff => "bad inline flags: flag turned on and off"
  | lookbehindVaries => "look-behind requires fixed-width pattern"
  | lookbehindTooFar => "looks too much behind"
  | repeatInTemplate operator => "internal: unsupported template operator " ++ operator

structure Place where
  offset : Nat
  line : Nat
  column : Nat
  -- Whether the pattern has a line break, so that line and column are worth telling.
  severalLines : Bool
deriving DecidableEq, Repr

def Place.ofOffset (pattern : List Char) (offset : Nat) : Place :=
  let before := pattern.take offset
  { offset
    line := before.count '\n' + 1
    column := (before.reverse.takeWhile (· != '\n')).length + 1
    severalLines := pattern.contains '\n' }

def Place.text (place : Place) : String :=
  " at position " ++ toString place.offset ++
    if place.severalLines then
      " (line " ++ toString place.line ++ ", column " ++ toString place.column ++ ")"
    else ""

-- A malformed pattern is the usual refusal. The others are limits that do not concern the
-- grammar: a count too large to hold, two alphabets at once, a number too long to read.
inductive Error
  | malformed (cause : Cause) (place : Option Place)
  | countTooLarge
  | alphabetsClash
  | numberTooLong (digits : Nat)
deriving DecidableEq, Repr

def Error.message : Error → String
  | malformed cause place => cause.message ++ (place.map Place.text).getD ""
  | countTooLarge => "the repetition number is too large"
  | alphabetsClash => "ASCII and UNICODE flags are incompatible"
  | numberTooLong digits =>
      "Exceeds the limit (4300 digits) for integer string conversion: value has " ++
        toString digits ++ " digits; use sys.set_int_max_str_digits() to increase the limit"

end Signpost.Regex

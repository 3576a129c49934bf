import Signpost.Regex.Flags
import Signpost.Text.Case
import Signpost.Text.Digit
import Signpost.Text.Space
import Signpost.Text.Word

namespace Signpost.Regex

open Signpost.Text

inductive Category
  | digit
  | space
  | word
deriving DecidableEq, Repr

inductive SetItem
  | single (code : Nat)
  | range (low high : Nat)
  | category (kind : Category) (negated : Bool)
deriving DecidableEq, Repr

inductive Atom
  | literal (code : Nat)
  | other (code : Nat)
  | any
  | set (negated : Bool) (items : List SetItem)
deriving DecidableEq, Repr

def Category.holds (ascii : Bool) (c : Char) : Category → Bool
  | .digit => if ascii then c.isDigit else isDigit c
  | .space => if ascii then isAsciiSpace c else isSpace c
  | .word => if ascii then isAsciiWord c else isWord c

-- The last code point of the basic plane. Sets treat the code points beyond it as written.
def lastBasic : Nat := 0xffff

def foldCode (ascii : Bool) (code : Nat) : Nat :=
  if ascii then asciiLower code else lowerCode code

def hasCase (ascii : Bool) (code : Nat) : Bool :=
  if ascii then isAsciiCased code else isCased code

-- The small forms that count as the same letter as the small form `code`.
def sameLetter (ascii : Bool) (code : Nat) : List Nat :=
  if ascii then [code] else code :: variantCodes code

-- The code points whose small form is `code`.
def unfoldCode (ascii : Bool) (code : Nat) : List Nat :=
  let capital := if 0x61 ≤ code && code ≤ 0x7a then [code - 0x20] else []
  let beyond := lowerRuns.toList.filterMap fun run =>
    let source := ((code : Int) - run.shift).toNat
    if run.holds source then some source else none
  code :: (if ascii then capital else capital ++ beyond)

-- Whether a run of letters has a member between two code points.
def runMeets (run : CaseRun) (low high : Nat) : Bool :=
  let start := max low run.first
  let next := run.first + (start - run.first + run.stride - 1) / run.stride * run.stride
  next ≤ min high run.last

def rangeHasCase (ascii : Bool) (low high : Nat) : Bool :=
  let meets (first last : Nat) : Bool := low ≤ last && first ≤ high
  meets 0x41 0x5a || meets 0x61 0x7a ||
    (!ascii && (lowerRuns.any (runMeets · low high) || upperRuns.any (runMeets · low high) ||
      upperSpellings.any fun entry => meets entry.1 entry.1))

def SetItem.hasCase (ascii : Bool) : SetItem → Bool
  | .single code => lastBasic < code || Regex.hasCase ascii code
  | .range low high => lastBasic < high || rangeHasCase ascii low high
  | .category _ _ => false

def SetItem.holds (ascii : Bool) (c : Char) : SetItem → Bool
  | .single code => c.toNat == code
  | .range low high => low ≤ c.toNat && c.toNat ≤ high
  | .category kind negated => kind.holds ascii c != negated

-- As `holds`, for a character that is given by its small form.
def SetItem.holdsFolded (ascii : Bool) (small : Char) : SetItem → Bool
  | .single code =>
      if lastBasic < code then small.toNat == code
      else (sameLetter ascii (foldCode ascii code)).contains small.toNat
  | .range low high =>
      let inBasic := (sameLetter ascii small.toNat).any fun code =>
        (unfoldCode ascii code).any fun source => low ≤ source && source ≤ min high lastBasic
      let inRange (code : Nat) : Bool := low ≤ code && code ≤ high
      inBasic || (lastBasic < high && (inRange small.toNat || inRange (upperCode small.toNat)))
  | .category kind negated => kind.holds ascii small != negated

def acceptsLiteral (mode : Flags) (code : Nat) (c : Char) : Bool :=
  if mode.ignoreCase && hasCase mode.ascii code then
    (sameLetter mode.ascii (foldCode mode.ascii code)).contains (foldCode mode.ascii c.toNat)
  else c.toNat == code

-- When case is ignored, a set compares small forms only if it mentions a letter of two cases.
def acceptsItems (mode : Flags) (items : List SetItem) (c : Char) : Bool :=
  if mode.ignoreCase && items.any (·.hasCase mode.ascii) then
    items.any (·.holdsFolded mode.ascii (Char.ofNat (foldCode mode.ascii c.toNat)))
  else items.any (·.holds mode.ascii c)

def Atom.accepts (mode : Flags) (c : Char) : Atom → Bool
  | .literal code => acceptsLiteral mode code c
  | .other code => !acceptsLiteral mode code c
  | .any => mode.dotAll || c != '\n'
  | .set negated items => acceptsItems mode items c != negated

end Signpost.Regex

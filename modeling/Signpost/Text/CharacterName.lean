import Signpost.Text.CharacterName.Aliases
import Signpost.Text.CharacterName.Alphabets
import Signpost.Text.CharacterName.Ancient
import Signpost.Text.CharacterName.Pictures
import Signpost.Text.CharacterName.Scripts
import Signpost.Text.CharacterName.Signs
import Signpost.Text.CharacterName.Syllables
import Signpost.Text.CharacterName.Symbols
import Signpost.Text.Cut
import Signpost.Text.Numeral

namespace Signpost.Text

namespace CharacterName

-- A name that is listed, in words.
structure Entry where
  code : Nat
  words : List (List Char)

-- An entry is written with the code, unless it follows the entry before, and with the number of
-- words that it takes over from there.
def Entry.next (before : Entry) (text : List Char) : Entry :=
  let cut := cut? ['='] text
  let code := (cut.map fun (code, _) => readBase 16 code).getD (before.code + 1)
  match (cut.map (·.2)).getD text with
  | [] => ⟨code, []⟩
  | count :: rest =>
      let words := if rest.isEmpty then [] else split ' ' rest
      ⟨code, before.words.take (hexValue count) ++ words⟩

def findIn (words : List (List Char)) (before : Entry) : List (List Char) → Option Nat
  | [] => none
  | text :: texts =>
      let entry := before.next text
      if entry.words = words then some entry.code else findIn words entry texts

def rows : List String :=
  alphabets ++ scripts ++ symbols ++ syllables ++ ancient ++ signs ++ pictures ++ aliases

-- Listed names may be written in letters of any case.
def listed? (name : List Char) : Option Nat :=
  let words := split ' ' (name.map Char.toUpper)
  rows.findSome? fun row => findIn words ⟨0, []⟩ (split ';' row.toList)

-- The names in a range of codes that hold the code itself.
structure CodeNames where
  stem : String
  first : Nat
  last : Nat

def unifiedIdeographs : List CodeNames :=
  [ (0x3400, 0x4dbf), (0x4e00, 0x9fff), (0x20000, 0x2a6df), (0x2a700, 0x2b739),
    (0x2b740, 0x2b81d), (0x2b820, 0x2cea1), (0x2ceb0, 0x2ebe0), (0x30000, 0x3134a),
    (0x31350, 0x323af) ].map fun (first, last) => ⟨"CJK UNIFIED IDEOGRAPH-", first, last⟩

def otherCodeNames : List CodeNames :=
  [ ⟨"CJK COMPATIBILITY IDEOGRAPH-", 0xf900, 0xfa6d⟩,
    ⟨"CJK COMPATIBILITY IDEOGRAPH-", 0xfa70, 0xfad9⟩,
    ⟨"CJK COMPATIBILITY IDEOGRAPH-", 0x2f800, 0x2fa1d⟩,
    ⟨"KHITAN SMALL SCRIPT CHARACTER-", 0x18b00, 0x18cd5⟩,
    ⟨"NUSHU CHARACTER-", 0x1b170, 0x1b2fb⟩ ]

def isUpperHex (c : Char) : Bool :=
  isHexDigit c && !c.isLower

def codeNamed? (name : List Char) (names : CodeNames) : Option Nat := do
  let digits ← after? names.stem.toList name
  let code := readBase 16 digits
  if digits.all isUpperHex && names.first ≤ code && code ≤ names.last then some code else none

-- A unified ideograph may be written with one digit too many, but in capitals only.
def ideograph? (name : List Char) : Option Nat :=
  unifiedIdeographs.findSome? fun names =>
    if name.length ≤ names.stem.length + 5 then codeNamed? name names else none

-- The other names of this kind have as many digits as the code needs.
def otherCode? (name : List Char) : Option Nat :=
  let name := name.map Char.toUpper
  otherCodeNames.findSome? fun names => do
    let code ← codeNamed? name names
    if (Nat.toDigits 16 code).length + names.stem.length = name.length then some code else none

def initials : List String :=
  ["G", "GG", "N", "D", "DD", "R", "M", "B", "BB", "S", "SS", "", "J", "JJ", "C", "K", "T", "P",
   "H"]

def vowels : List String :=
  ["A", "AE", "YA", "YAE", "EO", "E", "YEO", "YE", "O", "WA", "WAE", "OE", "YO", "U", "WEO", "WE",
   "WI", "YU", "EU", "YI", "I"]

def finals : List String :=
  ["", "G", "GG", "GS", "N", "NJ", "NH", "D", "L", "LG", "LM", "LB", "LS", "LT", "LP", "LH", "M",
   "B", "BS", "S", "SS", "NG", "J", "C", "K", "T", "P", "H"]

-- The longest sound that a text begins with: its number, and the text behind it.
def sound? (sounds : List String) (cs : List Char) : Option (Nat × List Char) :=
  let found := (List.range sounds.length).filter fun i =>
    (sounds.getD i "").toList.isPrefixOf cs
  let longest := found.foldl
    (fun best i =>
      match best with
      | none => some i
      | some j => if (sounds.getD j "").length < (sounds.getD i "").length then some i else some j)
    none
  longest.map fun i => (i, cs.drop (sounds.getD i "").length)

def syllable? (name : List Char) : Option Nat := do
  let sounds ← after? "HANGUL SYLLABLE ".toList name
  let (initial, rest) ← sound? initials sounds
  let (vowel, rest) ← sound? vowels rest
  let (final, rest) ← sound? finals rest
  if rest.isEmpty then some (0xac00 + (initial * 21 + vowel) * 28 + final) else none

end CharacterName

def characterNamed? (name : List Char) : Option Nat :=
  (CharacterName.syllable? name).orElse fun _ =>
    (CharacterName.ideograph? name).orElse fun _ =>
      (CharacterName.otherCode? name).orElse fun _ => CharacterName.listed? name

end Signpost.Text

import Signpost.Text.Printable

namespace Signpost.Text

def hexDigits (width code : Nat) : List Char :=
  let digits := Nat.toDigits 16 code
  List.replicate (width - digits.length) '0' ++ digits

-- An apostrophe inside a text makes double quotes the better frame, unless both occur.
def quoteMark (cs : List Char) : Char :=
  if cs.contains '\'' && !cs.contains '"' then '"' else '\''

def spellCode (code : Nat) : List Char :=
  if code ≤ 0xff then '\\' :: 'x' :: hexDigits 2 code
  else if code ≤ 0xffff then '\\' :: 'u' :: hexDigits 4 code
  else '\\' :: 'U' :: hexDigits 8 code

def spell (mark c : Char) : List Char :=
  if c == mark || c == '\\' then ['\\', c]
  else if c == '\t' then ['\\', 't']
  else if c == '\n' then ['\\', 'n']
  else if c == '\r' then ['\\', 'r']
  else if isPrintable c then [c]
  else spellCode c.toNat

def quotedChars (cs : List Char) : List Char :=
  let mark := quoteMark cs
  mark :: cs.flatMap (spell mark) ++ [mark]

def quoted (text : String) : String :=
  String.ofList (quotedChars text.toList)

-- JSON has four digits for a code unit; a character above them takes two units.
def jsonUnits (code : Nat) : List Char :=
  if code ≤ 0xffff then '\\' :: 'u' :: hexDigits 4 code
  else
    let rest := code - 0x10000
    '\\' :: 'u' :: hexDigits 4 (0xd800 + rest / 0x400) ++
      '\\' :: 'u' :: hexDigits 4 (0xdc00 + rest % 0x400)

def jsonSpell (c : Char) : List Char :=
  match c with
  | '"' => ['\\', '"']
  | '\\' => ['\\', '\\']
  | '\n' => ['\\', 'n']
  | '\r' => ['\\', 'r']
  | '\t' => ['\\', 't']
  | '\x08' => ['\\', 'b']
  | '\x0c' => ['\\', 'f']
  | _ => if 0x20 ≤ c.val && c.val < 0x7f then [c] else jsonUnits c.toNat

def jsonQuoted (text : String) : String :=
  String.ofList ('"' :: text.toList.flatMap jsonSpell ++ ['"'])

end Signpost.Text

import Signpost.Regex.Node
import Signpost.Regex.Token
import Signpost.Text.CharacterName
import Signpost.Text.Identifier
import Signpost.Text.Letter
import Signpost.Text.Numeral
import Signpost.Text.Space

namespace Signpost.Regex

open Signpost.Text

-- Why reading stopped. `back` is the distance of the reported place from the end of the
-- pattern, and `left` how much of the pattern had not been taken yet.
inductive Refusal
  | fault (cause : Cause) (back left : Nat)
  | countTooLarge (left : Nat)
  | numberTooLong (digits left : Nat)
  | alphabetsClash (left : Nat)
deriving Repr

def Refusal.left : Refusal → Nat
  | fault _ _ left => left
  | countTooLarge left => left
  | numberTooLong _ left => left
  | alphabetsClash left => left

-- What a conditional group asks about: a group by its name, or by a number that was written
-- with so many characters.
inductive Condition
  | named (name : String)
  | numbered (index length : Nat)
deriving DecidableEq, Repr

inductive Opening
  | capture (name : Option String)
  | bare
  | flagged (added removed : Flags)
  | atomic
  | look (behind negated : Bool)
  | choose (condition : Condition)
deriving DecidableEq, Repr

inductive Lexeme
  | atom (atom : Atom)
  | anchor (kind : Anchor)
  | backref (index digits : Nat)
  | namedBackref (name : String)
  | quantifier (greed : Greed) (least : Nat) (most : Option Nat)
  | opening (opening : Opening)
  | bar
  | closing
  | flags (added : Flags)
  | blank
deriving DecidableEq, Repr

-- Something read, and the tokens after it.
abbrev Scanned (α : Type) := α × List Token

-- A fault `offset` characters before the tokens that are left.
def refuse (cause : Cause) (rest : List Token) (offset : Nat) : Except Refusal α :=
  .error (.fault cause (size rest + offset) (size rest))

-- A name and the token that closes it. It has at least one character.
def scanName (closer : Char) (what : String) (ts : List Token) :
    Except Refusal (Scanned (List Char)) :=
  match cutAt closer ts with
  | ([], none) => refuse (.missingName what) [] 0
  | (name, none) => refuse (.unterminatedName (closer.toString)) [] name.length
  | ([], some rest) => refuse (.missingName what) rest 1
  | (name, some rest) => .ok (name, rest)

def scanGroupName (closer : Char) (ts : List Token) : Except Refusal (Scanned String) := do
  let (name, rest) ← scanName closer "group name" ts
  let text := String.ofList name
  if isIdentifier name then pure (text, rest)
  else refuse (.badGroupName text) rest (name.length + 1)

def largestCode : Nat := 0x10ffff

-- The character that `\x`, `\u` and `\U` give by `count` hexadecimal digits.
def scanHex (letter : Char) (count : Nat) (ts : List Token) : Except Refusal (Scanned Nat) :=
  let (digits, rest) := takePlain isHexDigit count ts
  let escape := '\\' :: letter :: digits
  let code := readBase 16 digits
  if digits.length ≠ count then
    refuse (.incompleteEscape (String.ofList escape)) rest escape.length
  else if largestCode < code then refuse (.badEscape (String.ofList escape)) rest escape.length
  else .ok (code, rest)

-- The character that `\N` gives by its name.
def scanCharacterName (ts : List Token) : Except Refusal (Scanned Nat) :=
  match ts with
  | .plain '\x7b' :: ts => do
      let (name, rest) ← scanName '\x7d' "character name" ts
      match characterNamed? name with
      | some code => pure (code, rest)
      | none => refuse (.unknownCharacter (String.ofList name)) rest (name.length + 4)
  | _ => refuse .missingBrace ts 0

-- An octal escape that begins with the digits `digits`.
def octal (digits : List Char) (rest : List Token) : Except Refusal (Scanned Nat) :=
  let code := readBase 8 digits
  let escape := '\\' :: digits
  if 0o377 < code then refuse (.octalTooLarge (String.ofList escape)) rest escape.length
  else .ok (code, rest)

def controlCode? : Char → Option Nat
  | 'a' => some 0x07
  | 'b' => some 0x08
  | 'f' => some 0x0c
  | 'n' => some 0x0a
  | 'r' => some 0x0d
  | 't' => some 0x09
  | 'v' => some 0x0b
  | _ => none

def category? : Char → Option SetItem
  | 'd' => some (.category .digit false)
  | 'D' => some (.category .digit true)
  | 's' => some (.category .space false)
  | 'S' => some (.category .space true)
  | 'w' => some (.category .word false)
  | 'W' => some (.category .word true)
  | _ => none

-- The escapes that mean the same character inside and outside a set.
def scanCode (c : Char) (ts : List Token) : Except Refusal (Scanned Nat) :=
  match c with
  | 'x' => scanHex c 2 ts
  | 'u' => scanHex c 4 ts
  | 'U' => scanHex c 8 ts
  | 'N' => scanCharacterName ts
  | _ =>
      if c.isAlphanum then refuse (.badEscape (String.ofList ['\\', c])) ts 2
      else .ok (c.toNat, ts)

-- A member of a set: one character, or a category.
def scanMember (t : Token) (ts : List Token) : Except Refusal (Scanned SetItem) :=
  match t with
  | .plain c => .ok (.single c.toNat, ts)
  | .escaped c =>
      match controlCode? c, category? c with
      | some code, _ => .ok (.single code, ts)
      | none, some item => .ok (item, ts)
      | none, none =>
          if isOctalDigit c then do
            let (digits, rest) := takePlain isOctalDigit 2 ts
            let (code, rest) ← octal (c :: digits) rest
            pure (.single code, rest)
          else do
            let (code, rest) ← scanCode c ts
            pure (.single code, rest)

-- The last member of a set may still become the lower end of a range.
inductive Pending
  | idle
  | member (item : SetItem) (text : List Char)
  | hyphen (item : SetItem) (text : List Char)

def Pending.items : Pending → List SetItem
  | idle => []
  | member item _ => [item]
  | hyphen item _ => [item, .single '-'.toNat]

def range (low high : SetItem) (first last : List Char) (rest : List Token) :
    Except Refusal SetItem :=
  let bad := refuse (.badRange (String.ofList first) (String.ofList last)) rest
    (first.length + 1 + last.length)
  match low, high with
  | .single a, .single b => if b < a then bad else .ok (.range a b)
  | _, _ => bad

-- The members of a set up to the bracket that closes it, which cannot be its first member.
-- `mark` is the place of the bracket that opens it, and `skip` counts the tokens that belong
-- to the member read last.
def scanItems (mark : Nat) :
    List SetItem → Pending → Nat → List Token → Except Refusal (Scanned (List SetItem))
  | _, _, _, [] => .error (.fault .unterminatedSet mark 0)
  | items, pending, skip + 1, _ :: ts => scanItems mark items pending skip ts
  | items, pending, 0, t :: ts =>
      match pending with
      | .hyphen low first =>
          if t = .plain ']' then .ok (items ++ pending.items, ts)
          else do
            let (high, rest) ← scanMember t ts
            let item ← range low high first t.chars rest
            scanItems mark (items ++ [item]) .idle (ts.length - rest.length) ts
      | _ =>
          let sofar := items ++ pending.items
          if t = .plain ']' ∧ sofar ≠ [] then .ok (sofar, ts)
          else
            match pending, t with
            | .member item text, .plain '-' => scanItems mark items (.hyphen item text) 0 ts
            | _, _ => do
                let (item, rest) ← scanMember t ts
                scanItems mark sofar (.member item t.chars) (ts.length - rest.length) ts

-- A set of one character is that character.
def setAtom (negated : Bool) (items : List SetItem) : Atom :=
  match items.eraseDups with
  | [.single code] => if negated then .other code else .literal code
  | items => .set negated items

def scanSet (mark : Nat) (ts : List Token) : Except Refusal (Scanned Lexeme) := do
  let (negated, ts) :=
    match ts with
    | .plain '^' :: rest => (true, rest)
    | _ => (false, ts)
  let (items, rest) ← scanItems mark [] .idle 0 ts
  pure (.atom (setAtom negated items), rest)

-- An escape outside a set. Digits give an octal code if there are three of them, or else the
-- number of a group.
def scanEscape (c : Char) (ts : List Token) : Except Refusal (Scanned Lexeme) :=
  match c with
  | 'A' => .ok (.anchor .textStart, ts)
  | 'b' => .ok (.anchor .boundary, ts)
  | 'B' => .ok (.anchor .notBoundary, ts)
  | 'Z' => .ok (.anchor .textEnd, ts)
  | _ =>
      match category? c, controlCode? c with
      | some item, _ => .ok (.atom (.set false [item]), ts)
      | none, some code => .ok (.atom (.literal code), ts)
      | none, none =>
          if c = '0' then
            let (digits, rest) := takePlain isOctalDigit 2 ts
            .ok (.atom (.literal (readBase 8 digits)), rest)
          else if c.isDigit then
            match takePlain Char.isDigit 1 ts with
            | ([d], rest) =>
                match takePlain isOctalDigit 1 rest with
                | ([e], rest') =>
                    if isOctalDigit c && isOctalDigit d then do
                      let (code, rest) ← octal [c, d, e] rest'
                      pure (.atom (.literal code), rest)
                    else .ok (.backref (readBase 10 [c, d]) 2, rest)
                | _ => .ok (.backref (readBase 10 [c, d]) 2, rest)
            | _ => .ok (.backref (hexValue c) 1, ts)
          else do
            let (code, rest) ← scanCode c ts
            pure (.atom (.literal code), rest)

-- A number written in decimal digits.
def readNumber (digits : List Char) (rest : List Token) : Except Refusal Nat :=
  if digitLimit < digits.length then .error (.numberTooLong digits.length (size rest))
  else .ok (readBase 10 digits)

-- Counts from here on cannot be held.
def countLimit : Nat := 0xffffffff

def readCount (digits : List Char) (rest : List Token) : Except Refusal Nat := do
  let count ← readNumber digits rest
  if countLimit ≤ count then .error (.countTooLarge (size rest)) else pure count

-- A repetition, lazy before a question mark and possessive before a plus sign.
def scanGreed (least : Nat) (most : Option Nat) (ts : List Token) : Lexeme × List Token :=
  match ts with
  | .plain '?' :: rest => (.quantifier .lazy least most, rest)
  | .plain '+' :: rest => (.quantifier .possessive least most, rest)
  | _ => (.quantifier .greedy least most, ts)

-- A bound without digits is no bound.
def readLeast (digits : List Char) (rest : List Token) : Except Refusal Nat :=
  if digits = [] then .ok 0 else readCount digits rest

def readMost (digits : List Char) (rest : List Token) : Except Refusal (Option Nat) :=
  if digits = [] then .ok none else some <$> readCount digits rest

-- The digits of the upper bound. Without a comma the lower bound is the upper one too.
def scanUpper (low : List Char) : List Token → List Char × List Token
  | .plain ',' :: rest => takePlain Char.isDigit rest.length rest
  | afterLow => (low, afterLow)

-- A repetition with the bounds `low` and `high`. `inside` is the place of the first of them.
def scanCounts (inside : Nat) (low high : List Char) (rest : List Token) :
    Except Refusal (Scanned Lexeme) := do
  let least ← readLeast low rest
  let most ← readMost high rest
  if most.any (· < least) then .error (.fault .leastAboveMost inside (size rest))
  else pure (scanGreed least most rest)

-- Bounds between braces. A brace that no bounds follow is a literal.
def scanBounds (ts : List Token) : Except Refusal (Scanned Lexeme) :=
  let literal : Except Refusal (Scanned Lexeme) := .ok (.atom (.literal '\x7b'.toNat), ts)
  if ts.head? = some (.plain '\x7d') then literal
  else
    let (low, afterLow) := takePlain Char.isDigit ts.length ts
    let (high, afterHigh) := scanUpper low afterLow
    match afterHigh with
    | .plain '\x7d' :: rest => scanCounts (size ts) low high rest
    | _ => literal

-- One more flag that a group takes away.
def removeFlag (removed flag : Flags) (rest : List Token) : Except Refusal Flags :=
  if flag.alphabet.isEmpty then .ok (removed.union flag) else refuse .alphabetOff rest 0

-- The flags that a group takes away, after the first of them.
def scanRemoved (added removed : Flags) : List Token → Except Refusal (Scanned Lexeme)
  | [] => refuse .flagsWithoutColon [] 0
  | .escaped _ :: rest => refuse .flagsWithoutColon rest 2
  | .plain c :: rest =>
      if c = ':' then
        if removed.template then refuse .globalFlagOff rest 1
        else if !(added.inter removed).isEmpty then refuse .flagOnAndOff rest 1
        else .ok (.opening (.flagged added removed), rest)
      else
        match Flags.ofLetter? c with
        | some flag => do
            let removed ← removeFlag removed flag rest
            scanRemoved added removed rest
        | none => refuse (if isLetter c then .flagUnknown else .flagsWithoutColon) rest 1

def scanMinus (added : Flags) (ts : List Token) : Except Refusal (Scanned Lexeme) :=
  if added.template then refuse .globalFlagOn ts 1
  else
    match ts with
    | [] => refuse .flagMissing [] 0
    | .escaped _ :: rest => refuse .flagMissing rest 2
    | .plain c :: rest =>
        match Flags.ofLetter? c with
        | some flag => do
            let removed ← removeFlag {} flag rest
            scanRemoved added removed rest
        | none => refuse (if isLetter c then .flagUnknown else .flagMissing) rest 1

-- One more flag that a group or the whole pattern adds.
def addFlag (added flag : Flags) (rest : List Token) : Except Refusal Flags :=
  let added := added.union flag
  if flag.locale then refuse .localeFlag rest 0
  else if !flag.alphabet.isEmpty && added.alphabet != flag then refuse .alphabetClash rest 0
  else .ok added

-- The flags that a group or the whole pattern adds, after the first of them.
def scanFlags (added : Flags) : List Token → Except Refusal (Scanned Lexeme)
  | [] => refuse .flagsUnended [] 0
  | .escaped _ :: rest => refuse .flagsUnended rest 2
  | .plain c :: rest =>
      if c = ')' then .ok (.flags added, rest)
      else if c = ':' then
        if added.template then refuse .globalFlagOn rest 1
        else .ok (.opening (.flagged added {}), rest)
      else if c = '-' then scanMinus added rest
      else
        match Flags.ofLetter? c with
        | some flag => do
            let added ← addFlag added flag rest
            scanFlags added rest
        | none => refuse (if isLetter c then .flagUnknown else .flagsUnended) rest 1

-- No pattern has as many groups as this.
def groupLimit : Nat := 0x3fffffff

-- A group is asked for by its number if there are only digits, and by its name otherwise.
def scanCondition (ts : List Token) : Except Refusal (Scanned Lexeme) := do
  let (name, rest) ← scanName ')' "group name" ts
  let text := String.ofList name
  if name.all Char.isDigit then do
    let index ← readNumber name rest
    if index = 0 then refuse .badGroupNumber rest (name.length + 1)
    else if groupLimit ≤ index then refuse (.unknownGroup index) rest (name.length + 1)
    else pure (.opening (.choose (.numbered index name.length)), rest)
  else if isIdentifier name then pure (.opening (.choose (.named text)), rest)
  else refuse (.badGroupName text) rest (name.length + 1)

def unknownExtension (before : String) (t : Token) (rest : List Token) :
    Except Refusal (Scanned Lexeme) :=
  refuse (.unknownExtension (before ++ t.text)) rest (before.length + t.chars.length)

-- What follows an opening parenthesis, whose place is `mark`.
def scanOpening (mark : Nat) (ts : List Token) : Except Refusal (Scanned Lexeme) :=
  match ts with
  | .plain '?' :: [] => refuse .unexpectedEnd [] 0
  | .plain '?' :: .plain 'P' :: ts =>
      match ts with
      | [] => refuse .unexpectedEnd [] 0
      | .plain '<' :: ts => do
          let (name, rest) ← scanGroupName '>' ts
          pure (.opening (.capture (some name)), rest)
      | .plain '=' :: ts => do
          let (name, rest) ← scanGroupName ')' ts
          pure (.namedBackref name, rest)
      | t :: rest => unknownExtension "?P" t rest
  | .plain '?' :: .plain '#' :: ts =>
      match cutAt ')' ts with
      | (_, some rest) => .ok (.blank, rest)
      | (_, none) => .error (.fault .unterminatedComment mark 0)
  | .plain '?' :: .plain '<' :: ts =>
      match ts with
      | [] => refuse .unexpectedEnd [] 0
      | .plain '=' :: rest => .ok (.opening (.look true false), rest)
      | .plain '!' :: rest => .ok (.opening (.look true true), rest)
      | t :: rest => unknownExtension "?<" t rest
  | .plain '?' :: .plain ':' :: rest => .ok (.opening .bare, rest)
  | .plain '?' :: .plain '>' :: rest => .ok (.opening .atomic, rest)
  | .plain '?' :: .plain '=' :: rest => .ok (.opening (.look false false), rest)
  | .plain '?' :: .plain '!' :: rest => .ok (.opening (.look false true), rest)
  | .plain '?' :: .plain '(' :: rest => scanCondition rest
  | .plain '?' :: .plain '-' :: rest => scanMinus {} rest
  | .plain '?' :: .plain c :: rest =>
      match Flags.ofLetter? c with
      | some flag => do
          let added ← addFlag {} flag rest
          scanFlags added rest
      | none => unknownExtension "?" (.plain c) rest
  | .plain '?' :: t :: rest => unknownExtension "?" t rest
  | ts => .ok (.opening (.capture none), ts)

-- A comment in a verbose pattern goes to the end of the line.
def afterLine : List Token → List Token
  | [] => []
  | t :: ts => if t = .plain '\n' then ts else afterLine ts

def scanPlain (verbose : Bool) (c : Char) (ts : List Token) : Except Refusal (Scanned Lexeme) :=
  if verbose && isAsciiSpace c then .ok (.blank, ts)
  else if verbose && c == '#' then .ok (.blank, afterLine ts)
  else
    match c with
    | '.' => .ok (.atom .any, ts)
    | '^' => .ok (.anchor .lineStart, ts)
    | '$' => .ok (.anchor .lineEnd, ts)
    | '|' => .ok (.bar, ts)
    | ')' => .ok (.closing, ts)
    | '[' => scanSet (size ts + 1) ts
    | '(' => scanOpening (size ts + 1) ts
    | '*' => .ok (scanGreed 0 none ts)
    | '+' => .ok (scanGreed 1 none ts)
    | '?' => .ok (scanGreed 0 (some 1) ts)
    | '\x7b' => scanBounds ts
    | _ => .ok (.atom (.literal c.toNat), ts)

def scan (verbose : Bool) (t : Token) (ts : List Token) : Except Refusal (Scanned Lexeme) :=
  match t with
  | .plain c => scanPlain verbose c ts
  | .escaped c => scanEscape c ts

end Signpost.Regex

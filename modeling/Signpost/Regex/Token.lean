namespace Signpost.Regex

inductive Token
  | plain (c : Char)
  | escaped (c : Char)
deriving DecidableEq, Repr

def Token.chars : Token → List Char
  | plain c => [c]
  | escaped c => ['\\', c]

def Token.text (token : Token) : String :=
  String.ofList token.chars

-- A backslash takes the character after it, whatever that is. One at the very end is left out
-- here and told by `dangles`.
def tokens : List Char → List Token
  | [] => []
  | c :: cs =>
      if c = '\\' then
        match cs with
        | [] => []
        | d :: rest => .escaped d :: tokens rest
      else .plain c :: tokens cs

def dangles : List Char → Bool
  | [] => false
  | c :: cs =>
      if c = '\\' then
        match cs with
        | [] => true
        | _ :: rest => dangles rest
      else dangles cs

-- How many characters the tokens were cut from.
def size (ts : List Token) : Nat :=
  (ts.flatMap Token.chars).length

-- The plain characters in `p` that come first, at most `count` of them.
def takePlain (p : Char → Bool) : Nat → List Token → List Char × List Token
  | count + 1, .plain c :: ts =>
      if p c then
        let (cs, rest) := takePlain p count ts
        (c :: cs, rest)
      else ([], .plain c :: ts)
  | _, ts => ([], ts)

-- The text before the first plain `closer`, and the tokens after it if there is one.
def cutAt (closer : Char) : List Token → List Char × Option (List Token)
  | [] => ([], none)
  | t :: ts =>
      if t = .plain closer then ([], some ts)
      else
        let (cs, rest) := cutAt closer ts
        (t.chars ++ cs, rest)

end Signpost.Regex

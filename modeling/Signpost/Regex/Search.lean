import Signpost.Regex.Node

namespace Signpost.Regex

-- A spot in the subject: what lies behind it, nearest first, what lies ahead, and where groups
-- began and ended, latest first.
structure Spot where
  behind : List Char
  ahead : List Char
  begun : List (Nat × Nat) := []
  ended : List (Nat × Nat) := []
deriving Inhabited

abbrev Next := Spot → Option Spot

namespace Spot

def start (subject : List Char) : Spot where
  behind := []
  ahead := subject

def offset (s : Spot) : Nat := s.behind.length

def subject (s : Spot) : List Char := s.behind.reverse ++ s.ahead

def begin (s : Spot) (index : Nat) : Spot :=
  { s with begun := (index, s.offset) :: s.begun }

def finish (s : Spot) (index : Nat) : Spot :=
  { s with ended := (index, s.offset) :: s.ended }

-- Where a group began and ended last. A group that began again past its last end has no span.
def span? (s : Spot) (index : Nat) : Option (Nat × Nat) :=
  match s.begun.lookup index, s.ended.lookup index with
  | some first, some last => if first ≤ last then some (first, last) else none
  | _, _ => none

def captured? (s : Spot) (index : Nat) : Option (List Char) :=
  (s.span? index).map fun (first, last) => (s.subject.drop first).take (last - first)

-- The spot `count` characters earlier, if there is one.
def back? (s : Spot) (count : Nat) : Option Spot :=
  if count ≤ s.offset then
    some { s with behind := s.behind.drop count
                  ahead := (s.behind.take count).reverse ++ s.ahead }
  else none

end Spot

def isWordChar (mode : Flags) (c : Option Char) : Bool :=
  c.any (Category.holds mode.ascii · .word)

-- An empty subject has neither word boundaries nor places that are not word boundaries.
def Anchor.holds (mode : Flags) (s : Spot) : Anchor → Bool
  | .textStart => s.behind.isEmpty
  | .textEnd => s.ahead.isEmpty
  | .lineStart => s.behind.isEmpty || (mode.multiline && s.behind.head? == some '\n')
  | .lineEnd =>
      s.ahead.isEmpty || s.ahead == ['\n'] || (mode.multiline && s.ahead.head? == some '\n')
  | .boundary =>
      !(s.behind.isEmpty && s.ahead.isEmpty) &&
        isWordChar mode s.behind.head? != isWordChar mode s.ahead.head?
  | .notBoundary =>
      !(s.behind.isEmpty && s.ahead.isEmpty) &&
        isWordChar mode s.behind.head? == isWordChar mode s.ahead.head?

def sameChar (mode : Flags) (a b : Char) : Bool :=
  if mode.ignoreCase then foldCode mode.ascii a.toNat == foldCode mode.ascii b.toNat else a == b

def Spot.step? (s : Spot) (accepts : Char → Bool) : Option Spot :=
  match s.ahead with
  | [] => none
  | c :: ahead => if accepts c then some { s with behind := c :: s.behind, ahead } else none

-- The text `cs` from here on, letter by letter.
def Spot.follow? (s : Spot) (mode : Flags) : List Char → Option Spot
  | [] => some s
  | c :: cs => (s.step? (sameChar mode c)).bind (·.follow? mode cs)

-- Exactly `count` times.
def exactly (body : Next → Next) : Nat → Next → Next
  | 0, next => next
  | count + 1, next => body (exactly body count next)

-- At most `count` times. After a round that takes nothing there is no other.
def upTo (greedy : Bool) (body : Next → Next) : Nat → Next → Next
  | 0, next => next
  | count + 1, next => fun s =>
      let more (_ : Unit) : Option Spot :=
        body (fun s' => if s'.offset = s.offset then next s' else upTo greedy body count next s') s
      if greedy then
        match more () with
        | some found => some found
        | none => next s
      else
        match next s with
        | some found => some found
        | none => more ()

-- At most `count` rounds, each the first way that the body matches.
def upToFirst (body : Next → Next) : Nat → Spot → Spot
  | 0, s => s
  | count + 1, s =>
      match body some s with
      | none => s
      | some s' => if s'.offset = s.offset then s' else upToFirst body count s'

-- Every further round but the last takes a character, so more rounds than this make no
-- difference.
def rounds (least : Nat) (most : Option Nat) (s : Spot) : Nat :=
  let enough := s.ahead.length + 1
  match most with
  | none => enough
  | some most => min (most - least) enough

def exactlyFirst (body : Next → Next) : Nat → Next
  | 0, s => some s
  | count + 1, s =>
      match body some s with
      | none => none
      | some s' => exactlyFirst body count s'

-- The marks that a look around leaves behind hold on at the spot it was made from.
def Spot.withMarksOf (s s' : Spot) : Spot :=
  { s with begun := s'.begun, ended := s'.ended }

def Node.run : Node → Next → Next
  | .empty, next => next
  | .one mode atom, next => fun s => (s.step? (atom.accepts mode ·)).bind next
  | .anchor mode kind, next => fun s => if kind.holds mode s then next s else none
  | .backref mode index _, next => fun s =>
      match s.captured? index with
      | none => none
      | some cs => (s.follow? mode cs).bind next
  | .seq first second, next => first.run (second.run next)
  | .alt first second, next => fun s =>
      match first.run next s with
      | some found => some found
      | none => second.run next s
  | .flagged body, next => body.run next
  | .capture index body, next => fun s =>
      body.run (fun s' => next (s'.finish index)) (s.begin index)
  | .atomic body, next => fun s => (body.run some s).bind next
  | .repeats greed least most body, next =>
      match greed with
      | .greedy =>
          exactly body.run least fun s => upTo true body.run (rounds least most s) next s
      | .lazy =>
          exactly body.run least fun s => upTo false body.run (rounds least most s) next s
      | .possessive => fun s =>
          (exactlyFirst body.run least s).bind fun s' =>
            next (upToFirst body.run (rounds least most s') s')
  | .look behind negated body, next => fun s =>
      let found := (s.back? (if behind then body.width.least else 0)).bind (body.run some)
      if negated then
        match found with
        | some _ => none
        | none => next s
      else found.bind fun s' => next (s.withMarksOf s')
  | .choose index present absent, next => fun s =>
      match s.span? index with
      | some _ => present.run next s
      | none => absent.run next s

end Signpost.Regex

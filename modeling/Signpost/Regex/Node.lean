import Signpost.Regex.Atom
import Signpost.Regex.Fault

namespace Signpost.Regex

-- How many characters a part of a pattern takes, at least and at most. Both ends stop at
-- `Width.limit`, which stands for no bound.
structure Width where
  least : Nat
  most : Nat
deriving DecidableEq, Repr, Inhabited

def Width.limit : Nat := 1 <<< 64

def Width.cap (width : Width) : Width :=
  ⟨min width.least limit, min width.most limit⟩

inductive Anchor
  | textStart
  | textEnd
  | lineStart
  | lineEnd
  | boundary
  | notBoundary
deriving DecidableEq, Repr

inductive Greed
  | greedy
  | lazy
  | possessive
deriving DecidableEq, Repr

inductive Node
  | empty
  | one (mode : Flags) (atom : Atom)
  | anchor (mode : Flags) (kind : Anchor)
  | backref (mode : Flags) (index : Nat) (width : Width)
  | seq (first second : Node)
  | alt (first second : Node)
  -- A group that is read with flags of its own.
  | flagged (body : Node)
  | capture (index : Nat) (body : Node)
  | atomic (body : Node)
  | repeats (greed : Greed) (least : Nat) (most : Option Nat) (body : Node)
  | look (behind negated : Bool) (body : Node)
  | choose (index : Nat) (present absent : Node)
deriving DecidableEq, Repr, Inhabited

namespace Node

def ofRow : List Node → Node
  | [] => .empty
  | node :: row => .seq node (ofRow row)

def ofChoices : List Node → Node
  | [] => .empty
  | [node] => node
  | node :: nodes => .alt node (ofChoices nodes)

-- The same single step: only parts that can match in one way are ever compared.
def sameStep : Node → Node → Bool
  | .one mode atom, .one mode' atom' => mode == mode' && atom == atom'
  | .anchor mode kind, .anchor mode' kind' => mode == mode' && kind == kind'
  | .backref mode index _, .backref mode' index' _ => mode == mode' && index == index'
  | _, _ => false

-- The steps that all rows start with, and what is left of each row.
def commonSteps : List Node → List (List Node) → List Node × List (List Node)
  | [], rows => ([], [] :: rows)
  | node :: row, rows =>
      if rows.all fun other => other.head?.any (sameStep node) then
        let (shared, rest) := commonSteps row (rows.map List.tail)
        (node :: shared, rest)
      else ([], (node :: row) :: rows)

-- What a row contributes to a set, if it is a literal or a plain set and nothing else.
def setItems? : List Node → Option (List SetItem)
  | [.one _ (.literal code)] => some [.single code]
  | [.one _ (.set false items)] => some items
  | _ => none

-- Several rows in order of preference. Rows of one character each make a set.
def ofRows (mode : Flags) (rows : List (List Node)) : List Node :=
  match rows with
  | [] => []
  | [row] => row
  | row :: rows =>
      let (shared, rest) := commonSteps row rows
      match rest.mapM setItems? with
      | some items => shared ++ [.one mode (.set false items.flatten.eraseDups)]
      | none => shared ++ [ofChoices (rest.map ofRow)]

def width : Node → Width
  | .empty => ⟨0, 0⟩
  | .one _ _ => ⟨1, 1⟩
  | .anchor _ _ => ⟨0, 0⟩
  | .backref _ _ width => width
  | .seq first second =>
      let a := first.width
      let b := second.width
      Width.cap ⟨a.least + b.least, a.most + b.most⟩
  | .alt first second =>
      let a := first.width
      let b := second.width
      ⟨min a.least b.least, max a.most b.most⟩
  | .flagged body => body.width
  | .capture _ body => body.width
  | .atomic body => body.width
  | .repeats _ least most body =>
      let w := body.width
      let upper :=
        match most with
        | some most => w.most * most
        | none => if w.most = 0 then 0 else Width.limit
      Width.cap ⟨w.least * least, upper⟩
  | .look _ _ _ => ⟨0, 0⟩
  | .choose _ present absent =>
      let a := present.width
      let b := absent.width
      ⟨min a.least b.least, max a.most b.most⟩

def repeatName : Greed → String
  | .greedy => "MAX_REPEAT"
  | .lazy => "MIN_REPEAT"
  | .possessive => "POSSESSIVE_REPEAT"

-- The faults of a pattern that was read in full. A template pattern has no repetitions; what
-- looks back must know how far.
def check (template : Bool) : Node → Except Cause Unit
  | .empty | .one _ _ | .anchor _ _ | .backref _ _ _ => pure ()
  | .seq first second => do
      first.check template
      second.check template
  | .alt first second => do
      first.check template
      second.check template
  | .flagged body => body.check template
  | .capture _ body => body.check template
  | .atomic body => body.check template
  | .repeats greed _ _ body =>
      if template then throw (.repeatInTemplate (repeatName greed)) else body.check template
  | .look behind _ body =>
      if behind then
        let w := body.width
        if 0xffffffff < w.least then throw .lookbehindTooFar
        else if w.least ≠ w.most then throw .lookbehindVaries
        else body.check template
      else body.check template
  | .choose _ present absent => do
      present.check template
      absent.check template

end Node

end Signpost.Regex

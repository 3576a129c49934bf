import Signpost.Regex.Lexeme

namespace Signpost.Regex

-- The last part of a row, which a quantifier may still follow.
inductive Piece
  | fixed (node : Node)
  | part (node : Node)
  | counted (node : Node)
  -- A group that only brackets its row.
  | bare (row : List Node)
deriving Inhabited

def Piece.nodes : Piece → List Node
  | fixed node => [node]
  | part node => [node]
  | counted node => [node]
  | bare row => row

structure Row where
  done : List Node := []
  last : Option Piece := none
deriving Inhabited

namespace Row

def nodes (row : Row) : List Node :=
  row.done ++ (row.last.map Piece.nodes).getD []

def push (row : Row) (piece : Piece) : Row :=
  { done := row.nodes, last := some piece }

def isEmpty (row : Row) : Bool := row.last.isNone

end Row

inductive Scope
  | whole
  | capture (index : Nat)
  | bare
  | flagged
  | atomic
  -- `outermost`: no other group that looks back is open around it.
  | look (behind negated outermost : Bool)
  | choose (index : Nat)
deriving DecidableEq, Repr

-- An open group: the flags inside it, the place of its parenthesis, the alternatives that are
-- complete, and the one being read.
structure Level where
  scope : Scope
  mode : Flags
  mark : Nat
  choices : List (List Node) := []
  row : Row := {}

structure Reading where
  level : Level
  outer : List Level := []
  -- The flags of the whole pattern.
  flags : Flags
  -- One entry for each group that was opened, with its width once it is closed.
  widths : List (Option Width) := []
  names : List (String × Nat) := []
  -- How many groups were open or closed when the outermost group that looks back began.
  behind : Option Nat := none
  -- The groups that conditions ask for by number, each with the place where it is first asked.
  asked : List (Nat × Nat) := []

namespace Level

def rows (level : Level) : List (List Node) :=
  level.choices ++ [level.row.nodes]

def push (level : Level) (piece : Piece) : Level :=
  { level with row := level.row.push piece }

-- What a complete group adds to the row around it.
def piece (level : Level) : Piece :=
  let nodes := Node.ofRows level.mode level.rows
  match level.scope with
  | .whole | .bare => .bare nodes
  | .capture index => .part (.capture index (Node.ofRow nodes))
  | .flagged => .part (.flagged (Node.ofRow nodes))
  | .atomic => .part (.atomic (Node.ofRow nodes))
  | .look behind negated _ => .part (.look behind negated (Node.ofRow nodes))
  | .choose index =>
      match level.rows with
      | present :: absent :: _ =>
          .part (.choose index (Node.ofRow present) (Node.ofRow absent))
      | rows => .part (.choose index (Node.ofRow rows.flatten) .empty)

end Level

namespace Reading

def start (flags : Flags) : Reading where
  level := { scope := .whole, mode := flags, mark := 0 }
  flags

def push (r : Reading) (piece : Piece) : Reading :=
  { r with level := r.level.push piece }

-- The width of a group that is closed. Inside it stands `some none`, and a group that was never
-- opened has none.
def width? (r : Reading) (index : Nat) : Option (Option Width) :=
  if index = 0 then none else r.widths[index - 1]?

def index? (r : Reading) (name : String) : Option Nat :=
  (r.names.find? (·.1 == name)).map (·.2)

-- What looks back can only refer to groups that were complete before it began.
def checkBehind (r : Reading) (index after : Nat) : Except Refusal Unit :=
  match r.behind with
  | none => .ok ()
  | some before =>
      match r.width? index with
      | some (some _) =>
          if before < index then .error (.fault .lookbehindGroup after after) else .ok ()
      | _ => .error (.fault .openGroup after after)

def pushBackref (r : Reading) (index after offset : Nat) : Except Refusal Reading :=
  match r.width? index with
  | some (some width) => do
      r.checkBehind index after
      pure (r.push (.part (.backref r.level.mode index width)))
  | _ => .error (.fault .openGroup (after + offset) after)

def pushQuantifier (r : Reading) (greed : Greed) (least : Nat) (most : Option Nat)
    (before after : Nat) : Except Refusal Reading :=
  -- The mark of a lazy or possessive repetition is taken after the repetition is accepted.
  let left := if greed = .greedy then after else after + 1
  let repeated (body : Node) : Reading :=
    let row := { r.level.row with last := some (.counted (.repeats greed least most body)) }
    { r with level := { r.level with row } }
  match r.level.row.last with
  | none | some (.fixed _) => .error (.fault .nothingToRepeat before left)
  | some (.counted _) => .error (.fault .multipleRepeat before left)
  | some (.part node) => .ok (repeated node)
  | some (.bare row) => .ok (repeated (Node.ofRow row))

def enter (r : Reading) (scope : Scope) (mode : Flags) (mark : Nat) : Reading :=
  { r with level := { scope, mode, mark }, outer := r.level :: r.outer }

def openCapture (r : Reading) (name : Option String) (before after : Nat) :
    Except Refusal Reading :=
  let index := r.widths.length + 1
  let opened := { r with widths := r.widths ++ [none] }.enter (.capture index) r.level.mode before
  match name with
  | none => .ok opened
  | some name =>
      match r.index? name with
      | some earlier =>
          .error (.fault (.groupRedefined name index earlier) (after + name.length + 1) after)
      | none => .ok { opened with names := r.names ++ [(name, index)] }

def openChoice (r : Reading) (condition : Condition) (before after : Nat) :
    Except Refusal Reading :=
  match condition with
  | .named name =>
      match r.index? name with
      | none => .error (.fault (.unknownGroupName name) (after + name.length + 1) after)
      | some index => do
          r.checkBehind index after
          pure (r.enter (.choose index) r.level.mode before)
  | .numbered index length => do
      r.checkBehind index after
      let asked :=
        if r.asked.any (·.1 == index) then r.asked
        else r.asked ++ [(index, after + length + 1)]
      pure ({ r with asked }.enter (.choose index) r.level.mode before)

def openGroup (r : Reading) (opening : Opening) (before after : Nat) : Except Refusal Reading :=
  let mode := r.level.mode
  match opening with
  | .capture name => r.openCapture name before after
  | .bare => .ok (r.enter .bare mode before)
  | .flagged added removed => .ok (r.enter .flagged (mode.adjust added removed) before)
  | .atomic => .ok (r.enter .atomic mode before)
  | .look behind negated =>
      let outermost := behind && r.behind.isNone
      let r := if outermost then { r with behind := some r.widths.length } else r
      .ok (r.enter (.look behind negated outermost) mode before)
  | .choose condition => r.openChoice condition before after

-- A condition has a row for each of its two outcomes. Elsewhere any number of rows may follow.
def bar (r : Reading) (before : Nat) : Except Refusal Reading :=
  match r.level.scope, r.level.choices with
  | .choose _, _ :: _ => .error (.fault .tooManyBranches before before)
  | _, _ => .ok { r with level := { r.level with choices := r.level.rows, row := {} } }

-- Two alphabets for the whole pattern cannot both hold.
def checkAlphabet (r : Reading) (left : Nat) : Except Refusal Unit :=
  if r.flags.ascii && r.flags.unicode then .error (.alphabetsClash left) else .ok ()

def close (r : Reading) (before : Nat) : Except Refusal Reading :=
  match r.outer with
  | [] => do
      r.checkAlphabet before
      .error (.fault .unbalanced before before)
  | parent :: outer =>
      let piece := r.level.piece
      let r' := { r with level := parent.push piece, outer }
      match r.level.scope with
      | .capture index =>
          let width := (Node.ofRow piece.nodes).width
          .ok { r' with widths := r.widths.set (index - 1) (some width) }
      | .look _ _ true => .ok { r' with behind := none }
      | _ => .ok r'

-- Flags for the whole pattern stand before anything else.
def setFlags (r : Reading) (added : Flags) (before after : Nat) : Except Refusal Reading :=
  if r.outer.isEmpty && r.level.choices.isEmpty && r.level.row.isEmpty then
    let flags := r.flags.union added
    .ok { r with flags, level := { r.level with mode := flags } }
  else .error (.fault .flagsMisplaced before after)

-- One lexeme. `before` and `after` measure what is left of the pattern on its two sides.
def step (r : Reading) (lexeme : Lexeme) (before after : Nat) : Except Refusal Reading :=
  match lexeme with
  | .blank => .ok r
  | .atom atom => .ok (r.push (.part (.one r.level.mode atom)))
  | .anchor kind => .ok (r.push (.fixed (.anchor r.level.mode kind)))
  | .backref index digits =>
      if index ≤ r.widths.length then r.pushBackref index after (digits + 1)
      else .error (.fault (.unknownGroup index) (after + digits) after)
  | .namedBackref name =>
      match r.index? name with
      | some index => r.pushBackref index after (name.length + 1)
      | none => .error (.fault (.unknownGroupName name) (after + name.length + 1) after)
  | .quantifier greed least most => r.pushQuantifier greed least most before after
  | .opening opening => r.openGroup opening before after
  | .bar => r.bar before
  | .closing => r.close before
  | .flags added => r.setFlags added before after

-- All lexemes of the tokens. `skip` counts the tokens that belong to the lexeme read last.
def read : Reading → Nat → List Token → Except Refusal Reading
  | r, _, [] => .ok r
  | r, skip + 1, _ :: ts => read r skip ts
  | r, 0, t :: ts => do
      let (lexeme, rest) ← scan r.level.mode.verbose t ts
      let r ← r.step lexeme (size (t :: ts)) (size rest)
      read r (ts.length - rest.length) ts

-- At the end every group is closed and every group asked for exists.
def finish (r : Reading) : Except Refusal (List Node) :=
  match r.outer with
  | _ :: _ => .error (.fault .unterminatedGroup r.level.mark 0)
  | [] => do
      r.checkAlphabet 0
      match r.asked.find? (r.widths.length < ·.1) with
      | some (index, place) => .error (.fault (.unknownGroup index) place 0)
      | none => pure (Node.ofRows r.level.mode r.level.rows)

end Reading

end Signpost.Regex

import Signpost.Regex.Reading
import Signpost.Regex.Search

namespace Signpost

structure Regex where
  text : String
  flags : Regex.Flags
  node : Regex.Node
  -- How many groups capture, and those among them that have names, in order.
  groups : Nat
  names : List (String × Nat)
deriving Inhabited

namespace Regex

def Refusal.error (pattern : List Char) : Refusal → Error
  | .fault cause back _ =>
      .malformed cause (some (.ofOffset pattern (size (tokens pattern) - back)))
  | .countTooLarge _ => .countTooLarge
  | .numberTooLong digits _ => .numberTooLong digits
  | .alphabetsClash _ => .alphabetsClash

-- A backslash at the very end is noticed as soon as the reader takes what stands before it, so
-- only a fault that shows earlier is told instead.
def readTokens (pattern : List Char) (flags : Flags) : Except Error (Reading × List Node) :=
  let result := do
    let r ← (Reading.start flags).read 0 (tokens pattern)
    let nodes ← r.finish
    pure (r, nodes)
  let dangling : Except Error (Reading × List Node) :=
    .error (.malformed .danglingBackslash (some (.ofOffset pattern (pattern.length - 1))))
  match result with
  | .error refusal =>
      if dangles pattern && refusal.left == 0 then dangling else .error (refusal.error pattern)
  | .ok found => if dangles pattern then dangling else .ok found

def compile (text : String) (flags : Flags) : Except Error Regex := do
  let (r, nodes) ← readTokens text.toList flags
  let node := Node.ofRow nodes
  match node.check r.flags.template with
  | .error cause => .error (.malformed cause none)
  | .ok () =>
      pure
        { text, node
          flags := if r.flags.ascii then r.flags else r.flags.union { unicode := true }
          groups := r.widths.length
          names := r.names }

-- The first match at the start of `subject`, told by the spot where it ends.
def match? (regex : Regex) (subject : String) : Option Spot :=
  regex.node.run some (.start subject.toList)

def index? (regex : Regex) (name : String) : Option Nat :=
  regex.names.lookup name

end Regex

end Signpost

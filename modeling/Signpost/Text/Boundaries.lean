namespace Signpost.Text

-- A set of characters by the code points at which membership changes, in ascending order. The
-- first begins the set, the second ends it, and so on.
structure Boundaries where
  changes : Array Nat

-- The number of changes at or below `code`, sought between the bounds `low` and `high`.
def Boundaries.rankBetween (b : Boundaries) (code low high : Nat) : Nat :=
  if low < high then
    let middle := (low + high) / 2
    if b.changes.getD middle 0 ≤ code then b.rankBetween code (middle + 1) high
    else b.rankBetween code low middle
  else low
termination_by high - low

def Boundaries.rank (b : Boundaries) (code : Nat) : Nat :=
  b.rankBetween code 0 b.changes.size

-- An odd number of changes leaves the code point inside.
def Boundaries.contains (b : Boundaries) (code : Nat) : Bool :=
  b.rank code % 2 == 1

end Signpost.Text

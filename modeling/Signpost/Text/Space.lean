import Signpost.Text.Boundaries

namespace Signpost.Text

-- Where the white space beyond ASCII begins and ends.
def spaceBounds : Boundaries where
  changes := #[
    0x85, 0x86, 0xa0, 0xa1, 0x1680, 0x1681, 0x2000, 0x200b, 0x2028, 0x202a, 0x202f, 0x2030,
    0x205f, 0x2060, 0x3000, 0x3001]

-- The six ASCII blanks: space, tab, line feed, vertical tab, form feed, carriage return.
def isAsciiSpace (c : Char) : Bool :=
  c == ' ' || (0x09 ≤ c.val && c.val ≤ 0x0d)

-- The four ASCII information separators count as white space too.
def isSpace (c : Char) : Bool :=
  if c.val < 0x80 then isAsciiSpace c || (0x1c ≤ c.val && c.val ≤ 0x1f)
  else spaceBounds.contains c.toNat

-- Text without the white space at its two ends.
def trim (cs : List Char) : List Char :=
  ((cs.dropWhile isSpace).reverse.dropWhile isSpace).reverse

end Signpost.Text

import Signpost.Number.Double

namespace Signpost.Number

-- A grid of decimals and the numbers that round to a double, brought to whole numbers: the
-- decimal `k` is `k * unit`, the double is `value`, and the numbers that round to it lie from
-- `low` to `high`, the ends included if `closed`.
structure Grid where
  unit : Nat
  value : Nat
  low : Nat
  high : Nat
  closed : Bool

namespace Grid

-- The decimals that are multiples of `10 ^ scale`.
def ofFinite (x : FiniteDouble) (scale : Int) : Grid :=
  let power := x.exponent - 2
  let unit := Nat.pow 10 scale.toNat <<< (-power).toNat
  let factor := Nat.pow 10 (-scale).toNat <<< power.toNat
  let below := if x.mantissa = leadingBit ∧ -1074 < x.exponent then 1 else 2
  { unit
    value := 4 * x.mantissa * factor
    low := (4 * x.mantissa - below) * factor
    high := (4 * x.mantissa + 2) * factor
    closed := x.mantissa % 2 = 0 }

def reaches (g : Grid) (k : Nat) : Bool :=
  if g.closed then g.low ≤ k * g.unit && k * g.unit ≤ g.high
  else g.low < k * g.unit && k * g.unit < g.high

-- Of the two neighbours of the value on the grid, one that reads back, the nearer if both do.
def nearest? (g : Grid) : Option Nat :=
  let below := g.value / g.unit
  let above := below + 1
  match g.reaches below, g.reaches above with
  | false, false => none
  | true, false => some below
  | false, true => some above
  | true, true =>
      let down := g.value - below * g.unit
      let up := above * g.unit - g.value
      if down < up then some below
      else if up < down then some above
      else if below % 2 = 0 then some below else some above

end Grid

-- Whether `10 ^ power` is at most the magnitude of the number.
def atLeastTenTo (x : FiniteDouble) (power : Int) : Bool :=
  let g := Grid.ofFinite x power
  g.unit ≤ g.value

-- The decimal exponent of the leading digit, sought upward from `power`.
def leadingFrom (x : FiniteDouble) (power : Int) : Nat → Int
  | 0 => power
  | steps + 1 => if atLeastTenTo x (power + 1) then leadingFrom x (power + 1) steps else power

def leadingPower (x : FiniteDouble) : Int :=
  leadingFrom x ((x.mantissa.log2 + x.exponent) * 30103 / 100000 - 2) 5

-- The digits of a double that is not zero, tried with `count` digits and then with more.
def digitsFrom (x : FiniteDouble) (leading : Int) (count : Nat) : Nat → Nat × Int
  | 0 =>
      let g := Grid.ofFinite x (leading - 16)
      (g.value / g.unit, leading - 16)
  | more + 1 =>
      let scale := leading - count + 1
      match (Grid.ofFinite x scale).nearest? with
      | some k => (k, scale)
      | none => digitsFrom x leading (count + 1) more

-- The digits as a whole number and the power of ten it is to be multiplied by.
def shortest (x : FiniteDouble) : Nat × Int :=
  digitsFrom x (leadingPower x) 1 17

-- Digits without the zeros at their end, and the position of the decimal point among them.
def placed (digits : Nat) (scale : Int) : List Char × Int :=
  let cs := Nat.toDigits 10 digits
  let kept := (cs.reverse.dropWhile (· == '0')).reverse
  (kept, cs.length + scale)

-- How decimals are written: positional if the point falls from `first` to `last` places right
-- of the first digit, with an exponent of at least `exponentDigits` digits otherwise.
structure Format where
  first : Int
  last : Int
  exponentDigits : Nat

def Format.standard : Format := ⟨-3, 16, 2⟩

def Format.write (format : Format) (cs : List Char) (point : Int) : List Char :=
  if format.first ≤ point ∧ point ≤ format.last then
    if point ≤ 0 then '0' :: '.' :: List.replicate (-point).toNat '0' ++ cs
    else
      let whole := cs.take point.toNat ++ List.replicate (point.toNat - cs.length) '0'
      let fraction := cs.drop point.toNat
      whole ++ '.' :: (if fraction.isEmpty then ['0'] else fraction)
  else
    let power := point - 1
    let sign := if power < 0 then '-' else '+'
    let digits := Nat.toDigits 10 power.natAbs
    let padding := List.replicate (format.exponentDigits - digits.length) '0'
    let exponent := 'e' :: sign :: padding ++ digits
    match cs with
    | [] => exponent
    | [c] => c :: exponent
    | c :: rest => c :: '.' :: rest ++ exponent

def FiniteDouble.text (x : FiniteDouble) : String :=
  let body :=
    if x.mantissa = 0 then ['0', '.', '0']
    else
      let (digits, scale) := shortest x
      let (cs, point) := placed digits scale
      Format.standard.write cs point
  String.ofList (if x.negative then '-' :: body else body)

def Double.text : Double → String
  | finite x => x.text
  | infinite negative => if negative then "-inf" else "inf"

end Signpost.Number

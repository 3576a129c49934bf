namespace Signpost.Number

-- The highest bit of a mantissa of 53 bits.
def leadingBit : Nat := 0x10000000000000

-- The finite number `mantissa * 2 ^ exponent`, with a sign that zero has too. The mantissa has 53
-- bits, or fewer if the exponent is the smallest.
structure FiniteDouble where
  negative : Bool
  mantissa : Nat
  exponent : Int
  mantissa_lt : mantissa < 2 * leadingBit
  exponent_le : exponent ≤ 971
  full_or_smallest : (leadingBit ≤ mantissa ∧ -1074 ≤ exponent) ∨ exponent = -1074
deriving DecidableEq, Repr

-- A binary floating-point number of 64 bits.
inductive Double
  | finite (x : FiniteDouble)
  | infinite (negative : Bool)
deriving DecidableEq, Repr

-- A place among the numbers, or beyond all of them on one side.
inductive Magnitude
  | finite (x : Dyadic)
  | infinite (negative : Bool)
deriving DecidableEq

namespace Double

-- The number that 64 bits encode, if they encode one: a sign, eleven bits of exponent, and 52 of
-- the mantissa, whose leading one is left out unless the exponent is the smallest.
def ofBits? (bits : Nat) : Option Double :=
  let negative := bits.testBit 63
  let field : Nat := (bits >>> 52) % 0x800
  let fraction : Nat := bits % leadingBit
  have hfield : field < 0x800 := Nat.mod_lt _ (by decide)
  have hfraction : fraction < leadingBit := Nat.mod_lt _ (by decide)
  if hlargest : field = 2047 then if fraction = 0 then some (.infinite negative) else none
  else if hsmallest : field = 0 then
    some (.finite ⟨negative, fraction, -1074, by omega, by omega, .inr rfl⟩)
  else
    some (.finite ⟨negative, leadingBit + fraction, (field : Int) - 1075, by omega, by omega,
      .inl (by omega)⟩)

def isZero : Double → Bool
  | finite x => x.mantissa == 0
  | infinite _ => false

-- The number itself, without the sign of zero.
def magnitude : Double → Magnitude
  | finite x =>
      .finite (.ofIntWithPrec (if x.negative then -(x.mantissa : Int) else x.mantissa)
        (-x.exponent))
  | infinite negative => .infinite negative

end Double

end Signpost.Number

/-!
# Doubles as exact fractions

A finite double is a whole number times a power of two. `Dyadic.ofFloat` reads both off its bits, and
everything that is written about the double is then computed exactly, in natural numbers.
-/

namespace Gamebook.Decimal

/-- The size of a finite double: `mantissa * 2 ^ exponent`. -/
structure Dyadic where
  mantissa : Nat
  exponent : Int
deriving DecidableEq, Repr

namespace Dyadic

/-- The highest bit of a mantissa, which is not among the bits of the double unless that is very
small. -/
def hiddenBit : Nat := 0x10000000000000

/-- The size that the bits of a finite double stand for. -/
def ofBits (bits : UInt64) : Dyadic :=
  let field := ((bits >>> 52) &&& 0x7FF).toNat
  let fraction := (bits &&& 0xFFFFFFFFFFFFF).toNat
  if field = 0 then ⟨fraction, -1074⟩ else ⟨fraction + hiddenBit, (field : Int) - 1075⟩

/-- The size of a finite double. -/
def ofFloat (x : Float) : Dyadic := ofBits x.toBits

/-- The numerator and denominator of a size. -/
def fraction (x : Dyadic) : Nat × Nat :=
  if 0 ≤ x.exponent then (x.mantissa * Nat.pow 2 x.exponent.toNat, 1)
  else (x.mantissa, Nat.pow 2 (-x.exponent).toNat)

end Dyadic

/-- Whether the bits of a double carry the sign. -/
def isNegative (x : Float) : Bool := x.toBits >>> 63 == 1

end Gamebook.Decimal

import Gamebook.Decimal.Dyadic

/-!
# A fixed number of decimal places

`fixed` writes a double that is not negative with a given number of places. The exact value of the
double is rounded to the nearest such decimal, and a value halfway between two goes to the even one.
-/

namespace Gamebook.Decimal

/-- A quotient rounded to the nearest whole number; a half goes to the even neighbour. -/
def roundHalfEven (numerator denominator : Nat) : Nat :=
  let quotient := numerator / denominator
  let remainder := numerator % denominator
  if denominator < 2 * remainder then quotient + 1
  else if 2 * remainder = denominator && quotient % 2 = 1 then quotient + 1
  else quotient

/-- A text filled up with a character at its front. -/
def padLeft (width : Nat) (fill : Char) (s : String) : String :=
  String.ofList (List.replicate (width - s.length) fill) ++ s

/-- A text filled up with blanks at its end. -/
def padRight (width : Nat) (s : String) : String :=
  s ++ String.ofList (List.replicate (width - s.length) ' ')

/-- A count of units of the last place, with a point before the places. -/
def placePoint (places units : Nat) : String :=
  toString (units / Nat.pow 10 places) ++ "." ++ padLeft places '0' (toString (units % Nat.pow 10 places))

/-- A double that is not negative, with a fixed number of places, at least one. -/
def fixed (places : Nat) (x : Float) : String :=
  let (numerator, denominator) := (Dyadic.ofFloat x).fraction
  placePoint places (roundHalfEven (numerator * Nat.pow 10 places) denominator)

end Gamebook.Decimal

import Gamebook.Decimal.Dyadic

/-!
# The shortest decimal of a double

The doubles cut the real numbers into intervals: each double stands for the reals that are closer to
it than to its neighbours, and for the two ends of the interval if its mantissa is even. The shortest
decimal is the one with the fewest digits inside that interval and, among those, the nearest to the
double. A grid of decimals has a point in the interval only if one of the two grid points around the
double is in it, so it is enough to look at those, grid by grid from coarse to fine; seventeen digits
always suffice.

`Layout` says how the digits become a text: in place up to a size, with an exponent beyond it.
-/

namespace Gamebook.Decimal

/-- A decimal number `digits * 10 ^ exponent`. -/
structure Digits where
  digits : Nat
  exponent : Int
deriving DecidableEq, Repr

/-- Four times a size and the ends of its interval, as numerators over a common denominator. -/
structure Interval where
  low : Nat
  value : Nat
  high : Nat
  denominator : Nat
  closed : Bool
deriving DecidableEq, Repr

namespace Interval

/-- The reals that round to a size. Below a power of two the doubles lie twice as close, so there the
lower half of the interval is shorter. -/
def ofDyadic (x : Dyadic) : Interval :=
  let below := if x.mantissa = Dyadic.hiddenBit ∧ -1074 < x.exponent then 1 else 2
  let (scale, denominator) := (Dyadic.mk 1 (x.exponent - 2)).fraction
  { low := (4 * x.mantissa - below) * scale
    value := 4 * x.mantissa * scale
    high := (4 * x.mantissa + 2) * scale
    denominator
    closed := x.mantissa % 2 = 0 }

/-- The interval measured in units of a power of ten. -/
def inUnits (i : Interval) (exponent : Int) : Interval :=
  if 0 ≤ exponent then { i with denominator := i.denominator * Nat.pow 10 exponent.toNat }
  else
    let factor := Nat.pow 10 (-exponent).toNat
    { i with low := i.low * factor, value := i.value * factor, high := i.high * factor }

/-- Whether a whole number of units lies in the interval. -/
def has (i : Interval) (n : Nat) : Bool :=
  let n := n * i.denominator
  if i.closed then i.low ≤ n && n ≤ i.high else i.low < n && n < i.high

/-- The whole number of units in the interval that is nearest to the value; of two that are equally
near the even one. -/
def nearest? (i : Interval) : Option Nat :=
  let below := i.value / i.denominator
  let above := below + 1
  match i.has below, i.has above with
  | false, false => none
  | true, false => some below
  | false, true => some above
  | true, true =>
    let down := i.value - below * i.denominator
    let up := above * i.denominator - i.value
    if down < up then some below
    else if up < down then some above
    else some (if below % 2 = 0 then below else above)

/-- The place of the first digit of the value: the largest exponent of a power of ten that does not
exceed it. -/
def leadingPlace (i : Interval) : Int :=
  if i.denominator ≤ i.value then
    ((Nat.toDigits 10 (i.value / i.denominator)).length : Int) - 1
  else go 400 1 i.value
where
  /-- Multiplies by ten until the value reaches one. -/
  go : Nat → Int → Nat → Int
    | 0, place, _ => -place
    | fuel + 1, place, value =>
      if i.denominator ≤ value * 10 then -place else go fuel (place + 1) (value * 10)

end Interval

/-- The first grid, from the given number of digits on, that has a point in the interval. -/
def firstHit (i : Interval) (place : Int) (count : Nat) : (more : Nat) → Digits
  | 0 => ⟨i.value / i.denominator, 0⟩
  | more + 1 =>
    let exponent := place - (count : Int)
    match (i.inUnits exponent).nearest? with
    | some digits => ⟨digits, exponent⟩
    | none => firstHit i place (count + 1) more

/-- The digits of a decimal without the zeros at their end. -/
def Digits.trimmed (x : Digits) : (fuel : Nat) → Digits
  | 0 => x
  | fuel + 1 =>
    if x.digits % 10 = 0 ∧ x.digits ≠ 0 then
      Digits.trimmed ⟨x.digits / 10, x.exponent + 1⟩ fuel
    else x

/-- The shortest decimal of a size other than zero. -/
def shortest (x : Dyadic) : Digits :=
  let interval := Interval.ofDyadic x
  (firstHit interval interval.leadingPlace 0 18).trimmed 400

/-- Which numbers are written in place. -/
structure Layout where
  /-- The least place of the first digit that is written in place. -/
  least : Int
  /-- The greatest place of the first digit that is written in place. -/
  greatest : Int
  /-- The sign of an exponent that is not negative. -/
  plus : String
deriving DecidableEq, Repr

/-- A text of zeros. -/
def zeros (count : Nat) : String := String.ofList (List.replicate count '0')

/-- Digits as a text. In place, a whole number ends in a point and a zero. -/
def Layout.render (layout : Layout) (x : Digits) : String :=
  let digits := Nat.toDigits 10 x.digits
  let count := digits.length
  let place := x.exponent + (count : Int) - 1
  let text := String.ofList digits
  if layout.least ≤ place ∧ place ≤ layout.greatest then
    if 0 ≤ x.exponent then text ++ zeros x.exponent.toNat ++ ".0"
    else if 0 ≤ place then
      let whole := place.toNat + 1
      String.ofList (digits.take whole) ++ "." ++ String.ofList (digits.drop whole)
    else "0." ++ zeros (-place - 1).toNat ++ text
  else
    let mantissa :=
      if count = 1 then text
      else String.ofList (digits.take 1) ++ "." ++ String.ofList (digits.drop 1)
    let sign := if 0 ≤ place then layout.plus else "-"
    mantissa ++ "e" ++ sign ++ toString place.natAbs

/-- The shortest decimal of a finite double as a text. -/
def Layout.ofFloat (layout : Layout) (x : Float) : String :=
  let size := Dyadic.ofFloat x
  let text := if size.mantissa = 0 then "0.0" else layout.render (shortest size)
  if isNegative x then "-" ++ text else text

end Gamebook.Decimal

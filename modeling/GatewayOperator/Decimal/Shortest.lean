/-
This file finds the shortest decimal of a binary floating-point number: the fewest digits that
read back as the same number, and of those the nearest. A number is taken from its bits as
`significand * 2 ^ exponent`; the reals that round to it form an interval, and for one digit,
two digits and so on up to seventeen the two neighbours of the number on the decimal grid of
that many digits are tested against the interval in exact arithmetic.
-/

namespace GatewayOperator.Decimal

/-- A non-negative decimal: `digits * 10 ^ exponent`. -/
structure Scaled where
  digits : Nat
  exponent : Int
  deriving DecidableEq

/-- A positive binary number `significand * 2 ^ exponent`, and whether the number below it is
only half as far away as the number above it. -/
structure Binary where
  significand : Nat
  exponent : Int
  closeBelow : Bool

/-- The magnitude of a finite number of 64 bits. -/
def Binary.ofBits (bits : UInt64) : Binary :=
  let field : Nat := (bits.toNat / Nat.pow 2 52) % Nat.pow 2 11
  let fraction : Nat := bits.toNat % Nat.pow 2 52
  if field = 0 then ⟨fraction, -1074, false⟩
  else ⟨Nat.pow 2 52 + fraction, (field : Int) - 1075, decide (fraction = 0 ∧ 1 < field)⟩

/-- The bounds of the reals that round to a number, and the number itself, over a common
denominator. The bounds belong to the interval when the significand is even. -/
structure Interval where
  lower : Nat
  middle : Nat
  upper : Nat
  denominator : Nat
  closed : Bool

/-- The interval of a number, in quarters of its last place. -/
def Interval.ofBinary (number : Binary) : Interval :=
  let scale := number.exponent - 2
  let up := Nat.pow 2 scale.toNat
  { lower := (4 * number.significand - if number.closeBelow then 1 else 2) * up
    middle := 4 * number.significand * up
    upper := (4 * number.significand + 2) * up
    denominator := Nat.pow 2 (-scale).toNat
    closed := number.significand % 2 = 0 }

/-- The interval in units of a power of ten. -/
def Interval.rescale (interval : Interval) (exponent : Int) : Interval :=
  let up := Nat.pow 10 (-exponent).toNat
  { interval with
    lower := interval.lower * up
    middle := interval.middle * up
    upper := interval.upper * up
    denominator := interval.denominator * Nat.pow 10 exponent.toNat }

/-- Whether a whole number lies in the interval. -/
def Interval.contains (interval : Interval) (point : Nat) : Bool :=
  let scaled := point * interval.denominator
  if interval.closed then interval.lower ≤ scaled && scaled ≤ interval.upper
  else interval.lower < scaled && scaled < interval.upper

/-- The whole number in the interval that is next to the middle, if one of the two neighbours
of the middle lies in it; the lower one of two that are equally near when it is even. -/
def Interval.neighbour? (interval : Interval) : Option Nat :=
  let below := interval.middle / interval.denominator
  let above := below + 1
  let downward := interval.middle - below * interval.denominator
  let upward := above * interval.denominator - interval.middle
  match interval.contains below, interval.contains above with
  | false, false => none
  | true, false => some below
  | false, true => some above
  | true, true =>
    if downward < upward then some below
    else if upward < downward then some above
    else if below % 2 = 0 then some below
    else some above

/-- The number of decimal digits of a positive number, at most `fuel`. -/
def digitCount : Nat → Nat → Nat
  | 0, _ => 0
  | fuel + 1, number => if number = 0 then 0 else digitCount fuel (number / 10) + 1

/-- The position of the first digit of a quotient: the least `p` with the quotient below
`10 ^ p`. -/
def magnitude (numerator denominator : Nat) : Int :=
  if denominator ≤ numerator then digitCount 400 (numerator / denominator)
  else
    -- Below one the first digit is as far behind the point as the inverse is large.
    let inverse := digitCount 400 ((denominator - 1) / numerator)
    1 - (inverse : Int)

/-- Tries grids of more and more digits. -/
def search (interval : Interval) (position : Int) : Nat → Nat → Option Scaled
  | 0, _ => none
  | fuel + 1, count =>
    let exponent := position - count
    match (interval.rescale exponent).neighbour? with
    | some digits => if digits = 0 then search interval position fuel (count + 1)
      else some ⟨digits, exponent⟩
    | none => search interval position fuel (count + 1)

/-- Drops the trailing zeros of the digits. -/
def stripZeros : Nat → Scaled → Scaled
  | 0, decimal => decimal
  | fuel + 1, decimal =>
    if decimal.digits % 10 = 0 ∧ decimal.digits ≠ 0 then
      stripZeros fuel ⟨decimal.digits / 10, decimal.exponent + 1⟩
    else decimal

/-- The shortest decimal that reads back as the magnitude of a finite number of 64 bits. -/
def shortest (bits : UInt64) : Scaled :=
  let number := Binary.ofBits bits
  if number.significand = 0 then ⟨0, 0⟩
  else
    let interval := Interval.ofBinary number
    let position := magnitude interval.middle interval.denominator
    match search interval position 20 1 with
    | some decimal => stripZeros 20 decimal
    | none => ⟨0, 0⟩

end GatewayOperator.Decimal

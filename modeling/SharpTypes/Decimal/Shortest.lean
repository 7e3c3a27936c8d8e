/-
The shortest decimal that reads back as a given double. A double is `mantissa · 2 ^ exponent`, and
the numbers that round to it form an interval around it, ends included if the mantissa is even. On
the grids of one, two, … up to seventeen digits, the neighbours of the double are tried in turn: the
first grid with a neighbour inside the interval wins, and of two such neighbours the nearer one.
All of this is done on natural numbers.
-/

namespace SharpTypes.Decimal

/-- The decimal `digits · 10 ^ exponent`. -/
structure Scaled where
  digits : Nat
  exponent : Int
  deriving DecidableEq, Repr

/-- A positive fraction. -/
structure Fraction where
  numerator : Nat
  denominator : Nat

namespace Fraction

/-- `value · base ^ exponent` as a fraction. -/
def power (value base : Nat) (exponent : Int) : Fraction :=
  if 0 ≤ exponent then ⟨value * Nat.pow base exponent.toNat, 1⟩
  else ⟨value, Nat.pow base (-exponent).toNat⟩

/-- Whether the left fraction is below the right one. -/
def below (left right : Fraction) : Bool :=
  left.numerator * right.denominator < right.numerator * left.denominator

/-- The whole number of times that the unit fits into the fraction. -/
def quotient (fraction unit : Fraction) : Nat :=
  fraction.numerator * unit.denominator / (fraction.denominator * unit.numerator)

/-- The distance of two fractions. -/
def distance (left right : Fraction) : Fraction :=
  let here := left.numerator * right.denominator
  let there := right.numerator * left.denominator
  ⟨(here - there) + (there - here), left.denominator * right.denominator⟩

end Fraction

/-- A positive double in full: what it is, and the ends of the interval that rounds to it. -/
structure Interval where
  value : Fraction
  lower : Fraction
  upper : Fraction
  closed : Bool

namespace Interval

/-- The leading bit of the mantissa of a normal double, which its bits leave out. -/
def hiddenBit : Nat := 0x10000000000000

/-- The interval of the double `mantissa · 2 ^ exponent`. Below a power of two the next double lies
only half as far, unless it is the smallest normal one. -/
def ofParts (mantissa : Nat) (exponent : Int) : Interval where
  value := .power (4 * mantissa) 2 (exponent - 2)
  lower :=
    let gap := if mantissa = hiddenBit ∧ exponent > -1074 then 1 else 2
    .power (4 * mantissa - gap) 2 (exponent - 2)
  upper := .power (4 * mantissa + 2) 2 (exponent - 2)
  closed := mantissa % 2 == 0

/-- The interval of the double with the given bits, which are those of a positive finite one. -/
def ofBits (bits : Nat) : Interval :=
  let mantissa := bits % hiddenBit
  let exponent : Nat := bits / hiddenBit % 2048
  if exponent = 0 then ofParts mantissa (-1074)
  else ofParts (hiddenBit + mantissa) ((exponent : Int) - 1075)

/-- Whether a number rounds to the double. -/
def contains (interval : Interval) (number : Fraction) : Bool :=
  if interval.closed then !number.below interval.lower && !interval.upper.below number
  else interval.lower.below number && number.below interval.upper

/-- The neighbour of the double on the grid of the given unit that rounds to it. -/
def neighbour? (interval : Interval) (unitExponent : Int) : Option Nat :=
  let below := interval.value.quotient (.power 1 10 unitExponent)
  let lower : Fraction := .power below 10 unitExponent
  let upper : Fraction := .power (below + 1) 10 unitExponent
  match interval.contains lower && below != 0, interval.contains upper with
  | true, true =>
    if (interval.value.distance upper).below (interval.value.distance lower) then some (below + 1)
    else some below
  | true, false => some below
  | false, true => some (below + 1)
  | false, false => none

/-- The power of ten of the first digit of a fraction. -/
def leadingExponent (value : Fraction) : Int :=
  if value.denominator ≤ value.numerator then
    ((Nat.repr (value.numerator / value.denominator)).length : Int) - 1
  else
    match (List.range 400).find? fun places =>
        value.denominator ≤ value.numerator * Nat.pow 10 places with
    | some places => -(places : Int)
    | none => 0

/-- The shortest decimal in the interval. -/
def shortest (interval : Interval) : Scaled :=
  let leading := leadingExponent interval.value
  match (List.range 17).findSome? fun (further : Nat) =>
      (interval.neighbour? (leading - further)).map fun digits =>
        (⟨digits, leading - further⟩ : Scaled) with
  | some scaled => scaled
  | none => ⟨0, 0⟩

end Interval

namespace Scaled

/-- The digits without the zeros at their end, and the power of ten of the first digit. -/
def normal (scaled : Scaled) : List Char × Int :=
  let digits := (Nat.repr scaled.digits).toList
  let kept := (digits.reverse.dropWhile (· = '0')).reverse
  (kept, scaled.exponent + digits.length - 1)

end Scaled

end SharpTypes.Decimal

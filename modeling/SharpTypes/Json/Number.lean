/-
The value of a JSON number. Without point and exponent it is an integer if it fits 64 bits, and else
a double. A double is computed from the leading digits that fit 64 bits: they are taken as a whole
number, digits that do not fit count as zeros, and one multiplication or division by a power of ten
puts the point where it belongs. That is not always the nearest double. A number beyond the range of
doubles has no value.
-/

import SharpTypes.Decimal.FloatText
import SharpTypes.Json.Basic

namespace SharpTypes.Json.Number

/-- A number with a value. -/
inductive Value where
  | integer (value : Int)
  | float (value : Float)

/-- The value of a digit. -/
def digitValue (c : Char) : Nat :=
  c.toNat - '0'.toNat

/-- Appends digits to a number as long as it fits 64 bits; also returns the digits left over. -/
def appendDigits (significand : Nat) : List Char → Nat × List Char
  | [] => (significand, [])
  | c :: rest =>
    let next := significand * 10 + digitValue c
    if next < UInt64.size then appendDigits next rest else (significand, c :: rest)

/-- The double `value · 10 ^ exponent`, by one rounding operation where the power of ten is a
double, or by dividing first by the greatest one. -/
def scale (value : Float) (exponent : Int) : Option Float :=
  if 0 ≤ exponent then
    if exponent ≤ 308 then
      let scaled := value * Float.ofScientific 1 false exponent.toNat
      if scaled.isInf then none else some scaled
    else if value == 0.0 then some value
    else none
  else if -308 ≤ exponent then some (value / Float.ofScientific 1 false (-exponent).toNat)
  else if value == 0.0 then some value
  else scale (value / Float.ofScientific 1 false 308) (exponent + 308)
termination_by exponent.natAbs
decreasing_by omega

/-- The double nearest to the leading digits, scaled. -/
def float? (number : Number) : Option Float :=
  let (significand, left) := appendDigits 0 number.whole
  let (significand', left') := appendDigits significand number.fraction
  let places : Int := (left.length : Int) - (number.fraction.length - left'.length : Nat)
  let exponent := number.exponent.getD 0
  let sign (magnitude : Float) : Float := if number.isNegative then -magnitude else magnitude
  if significand' = 0 then some (sign 0.0)
  else (scale (UInt64.ofNat significand').toFloat (places + exponent)).map sign

/-- The whole number that the digits before the point write. -/
def natural (digits : List Char) : Nat :=
  digits.foldl (fun value c => value * 10 + digitValue c) 0

/-- The value of a number. A negative zero is a double. -/
def value? (number : Number) : Option Value :=
  let magnitude := natural number.whole
  if number.fraction.isEmpty && number.exponent.isNone then
    if number.isNegative then
      if 0 < magnitude ∧ magnitude ≤ UInt64.size / 2 then some (.integer (-magnitude))
      else number.float?.map .float
    else if magnitude < UInt64.size then some (.integer magnitude)
    else number.float?.map .float
  else number.float?.map .float

/-- How doubles are written in messages. -/
def messageFormat : Decimal.FloatFormat :=
  ⟨-5, 15, 2⟩

/-- The written form of a value in a message. -/
def Value.describe : Value → List Char
  | .integer value => "integer `".toList ++ value.repr.toList ++ "`".toList
  | .float value => "floating point `".toList ++ messageFormat.render value ++ "`".toList

end SharpTypes.Json.Number

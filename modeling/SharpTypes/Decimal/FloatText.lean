/-
The text of a double: its shortest digits, written positionally in a middle range of sizes and with
an exponent elsewhere. The format's choices are the fields of one record.
-/

import SharpTypes.Decimal.Shortest

namespace SharpTypes.Decimal

/-- The choices of a text format for doubles. -/
structure FloatFormat where
  /-- The least power of ten of the first digit that is written positionally. -/
  positionalFrom : Int
  /-- The greatest such power. -/
  positionalTo : Int
  /-- The least number of digits of an exponent. -/
  exponentDigits : Nat

namespace FloatFormat

/-- Positional text, with a point and at least one digit on either side of it. -/
def positional (digits : List Char) (leading : Int) : List Char :=
  if leading < 0 then
    "0.".toList ++ List.replicate (-leading - 1).toNat '0' ++ digits
  else
    let whole := leading.toNat + 1
    let fraction := digits.drop whole
    digits.take whole ++ List.replicate (whole - digits.length) '0' ++ '.' ::
      if fraction.isEmpty then ['0'] else fraction

/-- Text with an exponent, which always has a sign. -/
def scientific (format : FloatFormat) (digits : List Char) (leading : Int) : List Char :=
  let size := (Nat.repr leading.natAbs).toList
  digits.take 1 ++ (if digits.length ≤ 1 then [] else '.' :: digits.drop 1) ++
    ['e', if leading < 0 then '-' else '+'] ++
    List.replicate (format.exponentDigits - size.length) '0' ++ size

/-- The text of a finite double. -/
def render (format : FloatFormat) (value : Float) : List Char :=
  let bits := value.toBits.toNat
  let magnitude := bits % (UInt64.size / 2)
  (if magnitude = bits then [] else ['-']) ++
    if magnitude = 0 then "0.0".toList
    else
      let (digits, leading) := (Interval.ofBits magnitude).shortest.normal
      if format.positionalFrom ≤ leading ∧ leading ≤ format.positionalTo then
        positional digits leading
      else format.scientific digits leading

end FloatFormat

end SharpTypes.Decimal

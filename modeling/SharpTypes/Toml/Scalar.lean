/-
Words as TOML values: truth values, whole numbers, decimal numbers, and points in time. Where JSON
has no form for a value, it is an object whose one member says what it is.
-/

import SharpTypes.Json.Token

namespace SharpTypes.Toml

open Text

/-! ### Numbers -/

/-- A sign, if there is one, as whether it is a minus; and what follows. -/
def sign? : List Char → Option Bool × List Char
  | '-' :: rest => (some true, rest)
  | '+' :: rest => (some false, rest)
  | text => (none, text)

/-- The digits of a row in which single underscores may stand between digits. -/
def spacedDigits? (isDigit : Char → Bool) (text : List Char) : Option (List Char) :=
  let pieces := splitOn '_' text
  if pieces.all fun piece => !piece.isEmpty && piece.all isDigit then some pieces.flatten else none

/-- The digits of a whole number without needless zeros in front. -/
def wholeDigits? (text : List Char) : Option (List Char) :=
  match spacedDigits? isDigit text with
  | some ('0' :: _ :: _) => none
  | found => found

/-- The number that digits write in a base. -/
def numberIn (base : Nat) (digits : List Char) : Nat :=
  digits.foldl (fun value c => value * base + (Json.hexValue? c).getD 0) 0

/-- A number that fits the signed or the unsigned numbers of 64 bits. -/
def inWord? (value : Int) : Option Json :=
  if -(UInt64.size / 2 : Nat) ≤ value ∧ value < UInt64.size then some (Json.ofInt value) else none

/-- A whole number whose base is given in front of its digits. -/
def basedInteger? : List Char → Option Json
  | '0' :: 'x' :: rest =>
    (spacedDigits? (fun c => (Json.hexValue? c).isSome) rest).bind fun digits =>
      inWord? (numberIn 16 digits)
  | '0' :: 'o' :: rest =>
    (spacedDigits? (fun c => '0' ≤ c && c ≤ '7') rest).bind fun digits =>
      inWord? (numberIn 8 digits)
  | '0' :: 'b' :: rest =>
    (spacedDigits? (fun c => c == '0' || c == '1') rest).bind fun digits =>
      inWord? (numberIn 2 digits)
  | _ => none

/-- A whole number in decimal digits. -/
def integer? (text : List Char) : Option Json :=
  let (isNegative, rest) := sign? text
  (wholeDigits? rest).bind fun digits =>
    let magnitude : Int := numberIn 10 digits
    inWord? (if isNegative = some true then -magnitude else magnitude)

/-- The least number that is too great for a double: half a step beyond the greatest one. -/
def beyondDoubles : Nat := Nat.pow 2 1024 - Nat.pow 2 970

/-- Whether `significand · 10 ^ exponent` rounds to a double. Of numbers whose first digit is far
from the greatest one of doubles only the count of digits matters. -/
def isDouble (significand : Nat) (exponent : Int) : Bool :=
  let digits : Int := (Nat.repr significand).length
  if significand = 0 ∨ digits + exponent ≤ 308 then true
  else if 310 ≤ digits + exponent then false
  else if 0 ≤ exponent then significand * Nat.pow 10 exponent.toNat < beyondDoubles
  else significand < beyondDoubles * Nat.pow 10 (-exponent).toNat

/-- The exponent of a decimal number, which may have zeros in front. -/
def exponent? (text : List Char) : Option Int :=
  let (isNegative, rest) := sign? text
  (spacedDigits? isDigit rest).map fun digits =>
    let magnitude : Int := numberIn 10 digits
    if isNegative = some true then -magnitude else magnitude

/-- The digits after a point, of which there has to be one. -/
def fraction? : List Char → Option (List Char)
  | [] => some []
  | '.' :: rest => spacedDigits? isDigit rest
  | _ => none

/-- A decimal number: with a point, an exponent, or both. -/
def decimal? (text : List Char) : Option Json := do
  let (isNegative, rest) := sign? text
  let isMark (c : Char) : Bool := c == 'e' || c == 'E'
  let mantissa := rest.takeWhile (!isMark ·)
  let whole ← wholeDigits? (mantissa.takeWhile (· ≠ '.'))
  let fraction ← fraction? (mantissa.dropWhile (· ≠ '.'))
  let exponent ←
    match rest.dropWhile (!isMark ·) with
    | _ :: digits => (exponent? digits).map some
    | [] => some none
  let significand := numberIn 10 (whole ++ fraction)
  if fraction.isEmpty && exponent.isNone then none
  else if isDouble significand (exponent.getD 0 - fraction.length) then
    some (.number ⟨isNegative == some true, whole, fraction, exponent⟩)
  else none

/-- A decimal number without digits. -/
def special? (text : List Char) : Option Json :=
  let name := (sign? text).2
  if name = "inf".toList ∨ name = "nan".toList then
    some (.object [("number".toList, .string text)])
  else none

/-! ### Points in time -/

/-- The number that exactly so many digits write. -/
def digitsOf? (count : Nat) (text : List Char) : Option Nat :=
  if text.length = count ∧ text.all isDigit then some (numberIn 10 text) else none

/-- Whether a year has a leap day. -/
def isLeapYear (year : Nat) : Bool :=
  year % 4 == 0 && (year % 100 ≠ 0 || year % 400 == 0)

/-- How many days a month has. -/
def daysIn (year month : Nat) : Nat :=
  if month = 2 then if isLeapYear year then 29 else 28
  else if month = 4 ∨ month = 6 ∨ month = 9 ∨ month = 11 then 30
  else 31

/-- Whether the text is a date. -/
def isDate (text : List Char) : Bool :=
  match (splitOn '-' text) with
  | [year, month, day] =>
    match digitsOf? 4 year, digitsOf? 2 month, digitsOf? 2 day with
    | some year, some month, some day =>
      1 ≤ month && month ≤ 12 && 1 ≤ day && day ≤ daysIn year month
    | _, _, _ => false
  | _ => false

/-- Whether the text is a number with two digits up to the given one. -/
def isClockNumber (greatest : Nat) (text : List Char) : Bool :=
  (digitsOf? 2 text).any (· ≤ greatest)

/-- Whether the text is a number of seconds, with or without a fraction. -/
def isSeconds (text : List Char) : Bool :=
  isClockNumber 60 (text.take 2) &&
    match text.drop 2 with
    | [] => true
    | '.' :: digits => !digits.isEmpty && digits.all isDigit
    | _ => false

/-- Whether the text is a time of day. The seconds may be left out. -/
def isTime (text : List Char) : Bool :=
  match splitOn ':' text with
  | [hour, minute] => isClockNumber 23 hour && isClockNumber 59 minute
  | [hour, minute, second] => isClockNumber 23 hour && isClockNumber 59 minute && isSeconds second
  | _ => false

/-- Whether the text is the distance from universal time. -/
def isOffset (text : List Char) : Bool :=
  match text with
  | [] => true
  | ['Z'] => true
  | ['z'] => true
  | c :: rest =>
    (c == '+' || c == '-') &&
      match splitOn ':' rest with
      | [hour, minute] => isClockNumber 23 hour && isClockNumber 59 minute
      | _ => false

/-- Whether the character may stand in a time of day. -/
def isTimeCharacter (c : Char) : Bool :=
  isDigit c || c == ':' || c == '.'

/-- Whether the text is a date, a time, or both, and then maybe with the distance from universal
time. -/
def isMoment (text : List Char) : Bool :=
  isTime text || isDate text ||
    (isDate (text.take 10) &&
      match text.drop 10 with
      | c :: rest =>
        (c == 'T' || c == 't' || c == ' ') && isTime (rest.takeWhile isTimeCharacter) &&
          isOffset (rest.dropWhile isTimeCharacter)
      | [] => false)

/-- A point in time. -/
def moment? (text : List Char) : Option Json :=
  if isMoment text then some (.object [("moment".toList, .string text)]) else none

/-! ### Values -/

/-- A truth value. -/
def truth? (text : List Char) : Option Json :=
  if text = "true".toList then some (.boolean true)
  else if text = "false".toList then some (.boolean false)
  else none

/-- The value that a word stands for. -/
def scalar? (text : List Char) : Option Json :=
  (truth? text).orElse fun _ => (moment? text).orElse fun _ => (basedInteger? text).orElse fun _ =>
    (integer? text).orElse fun _ => (special? text).orElse fun _ => decimal? text

end SharpTypes.Toml

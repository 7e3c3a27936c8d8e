/-
Points in time, as seconds and nanoseconds since the start of 1970, and their written form in
universal time. A leap second is the second after the last one of a minute, so it is given by that
last second and a billion nanoseconds or more.
-/

namespace SharpTypes

/-- A point in time. -/
structure Timestamp where
  seconds : Int
  nanoseconds : Nat
  deriving DecidableEq, Repr

namespace Timestamp

/-- A day of the Gregorian calendar, which is carried on before its introduction. -/
structure Date where
  year : Int
  month : Nat
  day : Nat
  deriving DecidableEq, Repr

/-- The date of a day, counted from the start of 1970. The count is moved to the first of March of
the year 0, so that a leap day is the last day of its year, and cut into spans of 400 years. -/
def Date.ofDays (days : Int) : Date :=
  let shifted := days + 719468
  let era := shifted.fdiv 146097
  let dayOfEra := (shifted.fmod 146097).toNat
  let yearOfEra := (dayOfEra - dayOfEra / 1460 + dayOfEra / 36524 - dayOfEra / 146096) / 365
  let dayOfYear := dayOfEra - (365 * yearOfEra + yearOfEra / 4 - yearOfEra / 100)
  let monthFromMarch := (5 * dayOfYear + 2) / 153
  let month := if monthFromMarch < 10 then monthFromMarch + 3 else monthFromMarch - 9
  { year := yearOfEra + era * 400 + (if month ≤ 2 then 1 else 0)
    month := month
    day := dayOfYear - (153 * monthFromMarch + 2) / 5 + 1 }

/-- The first year that has a date. -/
def firstYear : Int := -262143

/-- The last year that has a date. -/
def lastYear : Int := 262142

/-- Whether the point in time exists: its year is in range, and a billion nanoseconds or more come
only after the last second of a minute. -/
def isValid (time : Timestamp) : Bool :=
  let year := (Date.ofDays (time.seconds.fdiv 86400)).year
  firstYear ≤ year && year ≤ lastYear && time.nanoseconds < 2000000000 &&
    (time.nanoseconds < 1000000000 || time.seconds.fmod 60 == 59)

/-- A number with zeros in front up to the given width. -/
def padded (width value : Nat) : List Char :=
  let digits := (Nat.repr value).toList
  List.replicate (width - digits.length) '0' ++ digits

/-- A year: four digits from 0 to 9999, else with a sign before at least four digits. -/
def renderYear (year : Int) : List Char :=
  if 0 ≤ year ∧ year ≤ 9999 then padded 4 year.toNat
  else (if year < 0 then '-' else '+') :: padded 4 year.natAbs

/-- The written form of a point in time, to the millisecond. -/
def render (time : Timestamp) : List Char :=
  let date := Date.ofDays (time.seconds.fdiv 86400)
  let secondOfDay := (time.seconds.fmod 86400).toNat
  let isLeap := 1000000000 ≤ time.nanoseconds
  let second := secondOfDay % 60 + (if isLeap then 1 else 0)
  let millisecond := time.nanoseconds % 1000000000 / 1000000
  renderYear date.year ++ '-' :: padded 2 date.month ++ '-' :: padded 2 date.day ++
    'T' :: padded 2 (secondOfDay / 3600) ++ ':' :: padded 2 (secondOfDay / 60 % 60) ++
    ':' :: padded 2 second ++ '.' :: padded 3 millisecond ++ ['Z']

end Timestamp

end SharpTypes

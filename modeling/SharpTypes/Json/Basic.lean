/-
JSON values. Objects keep their members in the order in which they were written, repeated names
included; numbers keep their digits, so that nothing is lost before someone asks for a value.
-/

namespace SharpTypes

/-- A number as it is written. -/
structure Json.Number where
  isNegative : Bool
  /-- The digits before the point. -/
  whole : List Char
  /-- The digits after the point, if there is one. -/
  fraction : List Char
  /-- The exponent, if there is one. -/
  exponent : Option Int
  deriving DecidableEq, Repr

/-- A JSON value. -/
inductive Json where
  | null
  | boolean (value : Bool)
  | number (value : Json.Number)
  | string (text : List Char)
  | array (items : List Json)
  | object (members : List (List Char × Json))
  deriving Repr, Inhabited

namespace Json

/-- The number that is written for an integer. -/
def Number.ofInt (value : Int) : Number :=
  ⟨value < 0, (Nat.repr value.natAbs).toList, [], none⟩

/-- The integer as a JSON value. -/
def ofInt (value : Int) : Json :=
  .number (.ofInt value)

/-- The value of the last member of a name. -/
def member? (name : List Char) : Json → Option Json
  | .object members => (members.reverse.find? fun entry => entry.1 == name).map Prod.snd
  | _ => none

end Json

end SharpTypes

/-
Writing JSON values, on one line and without blanks. Quotes, backslashes and control characters in a
string are escaped, with the short escapes where there are any; all other characters stand as they
are.
-/

import SharpTypes.Json.Basic

namespace SharpTypes.Json

/-- The hexadecimal digit of a number below sixteen. -/
def hexDigit (value : Nat) : Char :=
  if value < 10 then Char.ofNat ('0'.toNat + value) else Char.ofNat ('a'.toNat + value - 10)

/-- A character as it is written in a string. -/
def escape : Char → List Char
  | '"' => ['\\', '"']
  | '\\' => ['\\', '\\']
  | '\x08' => ['\\', 'b']
  | '\x0c' => ['\\', 'f']
  | '\n' => ['\\', 'n']
  | '\r' => ['\\', 'r']
  | '\t' => ['\\', 't']
  | c =>
    if c.toNat < 0x20 then
      "\\u00".toList ++ [hexDigit (c.toNat / 16), hexDigit (c.toNat % 16)]
    else [c]

/-- A text as a string in quotes. -/
def quote (text : List Char) : List Char :=
  '"' :: text.flatMap escape ++ ['"']

/-- A number with the digits that it was given. -/
def Number.render (number : Number) : List Char :=
  (if number.isNegative then ['-'] else []) ++ number.whole ++
    (if number.fraction.isEmpty then [] else '.' :: number.fraction) ++
    match number.exponent with
    | some exponent => 'e' :: exponent.repr.toList
    | none => []

mutual

/-- The written form of a value. -/
def render : Json → List Char
  | .null => "null".toList
  | .boolean true => "true".toList
  | .boolean false => "false".toList
  | .number value => value.render
  | .string text => quote text
  | .array [] => "[]".toList
  | .array (first :: rest) => '[' :: render first ++ renderItems rest ++ [']']
  | .object [] => ['{', '}']
  | .object ((name, value) :: rest) =>
    '{' :: quote name ++ ':' :: render value ++ renderMembers rest ++ ['}']

/-- The items after the first, each behind a comma. -/
def renderItems : List Json → List Char
  | [] => []
  | item :: rest => ',' :: render item ++ renderItems rest

/-- The members after the first, each behind a comma. -/
def renderMembers : List (List Char × Json) → List Char
  | [] => []
  | (name, value) :: rest => ',' :: quote name ++ ':' :: render value ++ renderMembers rest

end

end SharpTypes.Json

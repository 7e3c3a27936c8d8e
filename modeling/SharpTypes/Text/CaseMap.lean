/-
Changing the case of text. A single character maps to one or several characters, whatever stands
around it. A whole text is put into lower case character by character, but for the capital sigma,
which takes its final form at the end of a word.
-/

import SharpTypes.Text.Class
import SharpTypes.Text.Shifts

namespace SharpTypes.Text

/-- The other case of a character: its expansion if it has one, else the character it shifts to,
else itself. -/
def recase (expansions : List (Nat × List Nat)) (shifts : List Shift) (c : Char) : List Char :=
  match expansions.lookup c.toNat with
  | some codes => codes.map Char.ofNat
  | none =>
    match Shift.target? shifts c.toNat with
    | some target => [Char.ofNat target]
    | none => [c]

/-- The upper case of one character. -/
def upperOf (c : Char) : List Char :=
  recase upperExpansions upperShifts c

/-- The lower case of one character. -/
def lowerOf (c : Char) : List Char :=
  recase lowerExpansions lowerShifts c

/-- Whether the first character that is not passed over has a case. -/
def leadsToCased (text : List Char) : Bool :=
  match text.dropWhile isCaseIgnorable with
  | [] => false
  | c :: _ => isCased c

/-- The lower case of a capital sigma between two pieces of text, the first of them reversed: the
final form `ς` where a cased character precedes and none follows. -/
def lowerSigma (before after : List Char) : Char :=
  if leadsToCased before && !leadsToCased after then 'ς' else 'σ'

/-- The lower case of the text after `before`, which is given reversed. -/
def lowercaseAfter (before : List Char) : List Char → List Char
  | [] => []
  | c :: rest =>
    (if c == 'Σ' then [lowerSigma before rest] else lowerOf c) ++ lowercaseAfter (c :: before) rest

/-- A text in lower case. -/
def lowercase (text : List Char) : List Char :=
  lowercaseAfter [] text

/-- A text whose first character is put into upper case. -/
def capitalize : List Char → List Char
  | [] => []
  | first :: rest => upperOf first ++ rest

/-- A text whose first character is put into lower case. -/
def uncapitalize : List Char → List Char
  | [] => []
  | first :: rest => lowerOf first ++ rest

end SharpTypes.Text

/-
Classes of characters. Blank characters separate, word characters make up names in source code,
alphabetic and alphanumeric characters make up identifiers, and the upper and the lower case decide
where an identifier breaks into words. All of them cover the whole of Unicode.
-/

import SharpTypes.Text.Cased
import SharpTypes.Text.Letter
import SharpTypes.Text.Mark
import SharpTypes.Text.Numeral

namespace SharpTypes.Text

/-- White space, line ends and the no-break spaces included. -/
def blanks : List Run := [
  ⟨0x9, 0xD, 1⟩, ⟨0x20, 0x20, 1⟩, ⟨0x85, 0x85, 1⟩, ⟨0xA0, 0xA0, 1⟩, ⟨0x1680, 0x1680, 1⟩,
  ⟨0x2000, 0x200A, 1⟩, ⟨0x2028, 0x2029, 1⟩, ⟨0x202F, 0x202F, 1⟩, ⟨0x205F, 0x205F, 1⟩,
  ⟨0x3000, 0x3000, 1⟩]

/-- Whether the character is white space. -/
def isBlank (c : Char) : Bool :=
  Run.cover blanks c.toNat

/-- Whether the character is a letter. -/
def isLetter (c : Char) : Bool :=
  Run.cover letters c.toNat

/-- Whether the character counts as alphabetic: a letter, a letter-like numeral or symbol, or a
vowel sign. -/
def isAlphabetic (c : Char) : Bool :=
  isLetter c || Run.cover otherAlphabetics c.toNat || Run.cover alphabeticMarks c.toNat

/-- Whether the character is a decimal digit of some script. -/
def isDecimalDigit (c : Char) : Bool :=
  Run.cover decimalDigits c.toNat

/-- Whether the character is alphabetic or any kind of numeral. -/
def isAlphanumeric (c : Char) : Bool :=
  isAlphabetic c || isDecimalDigit c || Run.cover otherNumbers c.toNat

/-- Whether the character belongs to a word: alphabetic characters, all marks, decimal digits,
connectors such as `_`, and the zero-width joiners. -/
def isWord (c : Char) : Bool :=
  isAlphabetic c || Run.cover marks c.toNat || isDecimalDigit c ||
    Run.cover connectors c.toNat || Run.cover joiners c.toNat

/-- Whether the character is upper case. -/
def isUpper (c : Char) : Bool :=
  Run.cover upperCharacters c.toNat

/-- Whether the character is lower case. -/
def isLower (c : Char) : Bool :=
  Run.cover lowerCharacters c.toNat

/-- Whether the character is upper, lower or title case. -/
def isCased (c : Char) : Bool :=
  isUpper c || isLower c || Run.cover titleCharacters c.toNat

/-- Whether a search for a cased neighbour passes over the character. -/
def isCaseIgnorable (c : Char) : Bool :=
  Run.cover caseIgnorable c.toNat

/-- Whether the character is one of `0` to `9`. -/
def isDigit (c : Char) : Bool :=
  '0' ≤ c && c ≤ '9'

/-- An alphabetic character belongs to a word. -/
theorem isWord_of_isAlphabetic {c : Char} (alphabetic : isAlphabetic c = true) :
    isWord c = true := by
  simp [isWord, alphabetic]

/-- A letter is alphabetic. -/
theorem isAlphabetic_of_isLetter {c : Char} (letter : isLetter c = true) :
    isAlphabetic c = true := by
  simp [isAlphabetic, letter]

/-! ### Identifiers -/

/-- Whether the text is a plain identifier: an alphabetic character or `_`, then alphanumeric
characters and `_`. -/
def isIdentifier : List Char → Bool
  | [] => false
  | first :: rest =>
    (isAlphabetic first || first == '_') && rest.all fun c => isAlphanumeric c || c == '_'

/-! ### Trimming -/

/-- The text without the blanks in front. -/
def trimStart (text : List Char) : List Char :=
  text.dropWhile isBlank

/-- The text without the blanks at its end. -/
def trimEnd (text : List Char) : List Char :=
  (text.reverse.dropWhile isBlank).reverse

/-- The text without the blanks around it. -/
def trim (text : List Char) : List Char :=
  trimEnd (trimStart text)

theorem length_trimStart_le (text : List Char) : (trimStart text).length ≤ text.length :=
  (List.dropWhile_sublist _).length_le

theorem length_trimEnd_le (text : List Char) : (trimEnd text).length ≤ text.length := by
  simpa [trimEnd] using (List.dropWhile_sublist (p := isBlank) (l := text.reverse)).length_le

theorem length_trim_le (text : List Char) : (trim text).length ≤ text.length :=
  Nat.le_trans (length_trimEnd_le _) (length_trimStart_le _)

end SharpTypes.Text

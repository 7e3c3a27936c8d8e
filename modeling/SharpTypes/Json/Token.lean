/-
The tokens of JSON text. Blanks are dropped. A text that cannot be cut into tokens to its end yields
the tokens up to the flaw and then one that stands for the flaw, so that whoever stops reading
before it never learns of it.
-/

import SharpTypes.Json.Basic
import SharpTypes.Text.Class
import SharpTypes.Text.Pieces

namespace SharpTypes.Json

open Text

/-- A token of JSON text. -/
inductive Token where
  | beginArray
  | endArray
  | beginObject
  | endObject
  | colon
  | comma
  | null
  | boolean (value : Bool)
  | number (value : Number)
  /-- A string; no text if an escape in it names half of a character. -/
  | string (text : Option (List Char))
  /-- Something that is no token. -/
  | flaw
  deriving DecidableEq, Repr

/-! ### Strings -/

/-- What one place in a string stands for: a character, or one half of a pair of escapes. -/
inductive Piece where
  | character (c : Char)
  | half (unit : Nat)
  deriving DecidableEq, Repr

/-- The value of a hexadecimal digit. -/
def hexValue? (c : Char) : Option Nat :=
  if '0' ≤ c ∧ c ≤ '9' then some (c.toNat - '0'.toNat)
  else if 'a' ≤ c ∧ c ≤ 'f' then some (c.toNat - 'a'.toNat + 10)
  else if 'A' ≤ c ∧ c ≤ 'F' then some (c.toNat - 'A'.toNat + 10)
  else none

/-- The piece that four hexadecimal digits name. -/
def unitPiece? (a b c d : Char) : Option Piece := do
  let unit :=
    (← hexValue? a) * 4096 + (← hexValue? b) * 256 + (← hexValue? c) * 16 + (← hexValue? d)
  return if 0xD800 ≤ unit ∧ unit < 0xE000 then .half unit else .character (Char.ofNat unit)

/-- The character that a backslash and the given character stand for. -/
def escaped? : Char → Option Char
  | '"' => some '"'
  | '\\' => some '\\'
  | '/' => some '/'
  | 'b' => some '\x08'
  | 'f' => some '\x0c'
  | 'n' => some '\n'
  | 'r' => some '\r'
  | 't' => some '\t'
  | _ => none

/-- The pieces of a string up to its closing quote, and what follows. -/
def stringPieces? : List Char → Option (List Piece × List Char)
  | [] => none
  | '"' :: rest => some ([], rest)
  | '\\' :: 'u' :: a :: b :: c :: d :: rest =>
    (unitPiece? a b c d).bind fun piece =>
      (stringPieces? rest).map fun found => (piece :: found.1, found.2)
  | '\\' :: c :: rest =>
    (escaped? c).bind fun meant =>
      (stringPieces? rest).map fun found => (.character meant :: found.1, found.2)
  | c :: rest =>
    if c.toNat < 0x20 ∨ c = '\\' then none
    else (stringPieces? rest).map fun found => (.character c :: found.1, found.2)

/-- The text of a row of pieces. A half counts only as one of a pair, the high one first. -/
def pieceText? : List Piece → Option (List Char)
  | [] => some []
  | .character c :: rest => (pieceText? rest).map (c :: ·)
  | .half high :: .half low :: rest =>
    if high < 0xDC00 ∧ 0xDC00 ≤ low then
      let code := 0x10000 + (high - 0xD800) * 0x400 + (low - 0xDC00)
      (pieceText? rest).map (Char.ofNat code :: ·)
    else none
  | .half _ :: _ => none

theorem length_stringPieces?_lt {text rest : List Char} {pieces : List Piece}
    (found : stringPieces? text = some (pieces, rest)) : rest.length < text.length := by
  fun_induction stringPieces? text generalizing pieces with
  | case1 => simp at found
  | case2 => simp_all
  | case3 a b c d later inductionHypothesis =>
    obtain ⟨piece, _, found⟩ := Option.bind_eq_some_iff.1 found
    obtain ⟨⟨others, after⟩, given, same⟩ := Option.map_eq_some_iff.1 found
    obtain ⟨_, rfl⟩ : _ ∧ after = rest := by simpa using same
    have := inductionHypothesis given
    simp only [List.length_cons]
    omega
  | case4 c later _ inductionHypothesis =>
    obtain ⟨meant, _, found⟩ := Option.bind_eq_some_iff.1 found
    obtain ⟨⟨others, after⟩, given, same⟩ := Option.map_eq_some_iff.1 found
    obtain ⟨_, rfl⟩ : _ ∧ after = rest := by simpa using same
    have := inductionHypothesis given
    simp only [List.length_cons]
    omega
  | case5 => simp at found
  | case6 c later _ _ _ _ inductionHypothesis =>
    obtain ⟨⟨others, after⟩, given, same⟩ := Option.map_eq_some_iff.1 found
    obtain ⟨_, rfl⟩ : _ ∧ after = rest := by simpa using same
    have := inductionHypothesis given
    simp only [List.length_cons]
    omega

/-! ### Numbers -/

/-- The longest row of digits at the start, and what follows. -/
def digits (text : List Char) : List Char × List Char :=
  (text.takeWhile isDigit, text.dropWhile isDigit)

/-- The digits before the point: a zero alone, or digits that do not start with one. -/
def wholeDigits? (text : List Char) : Option (List Char × List Char) :=
  match digits text with
  | ([], _) => none
  | ('0' :: _ :: _, _) => none
  | found => some found

/-- The digits behind a point, of which there is at least one; none if there is no point. -/
def fractionDigits? : List Char → Option (List Char × List Char)
  | '.' :: rest =>
    match digits rest with
    | ([], _) => none
    | found => some found
  | text => some ([], text)

/-- The number that a row of digits writes. -/
def exponentOf (isNegative : Bool) (text : List Char) : Int :=
  let size : Int := text.foldl (fun value c => value * 10 + (c.toNat - '0'.toNat : Nat)) 0
  if isNegative then -size else size

/-- The sign of an exponent, and what follows. -/
def exponentSign : List Char → Bool × List Char
  | '-' :: rest => (true, rest)
  | '+' :: rest => (false, rest)
  | text => (false, text)

/-- The exponent, if there is one. -/
def exponent? : List Char → Option (Option Int × List Char)
  | [] => some (none, [])
  | c :: rest =>
    if c = 'e' ∨ c = 'E' then
      let (isNegative, unsigned) := exponentSign rest
      match digits unsigned with
      | ([], _) => none
      | (found, after) => some (some (exponentOf isNegative found), after)
    else some (none, c :: rest)

/-- The number that the text starts with, its sign aside. -/
def number? (isNegative : Bool) (text : List Char) : Option (Number × List Char) := do
  let (whole, rest) ← wholeDigits? text
  let (fraction, rest) ← fractionDigits? rest
  let (exponent, rest) ← exponent? rest
  return (⟨isNegative, whole, fraction, exponent⟩, rest)

/-! ### Tokens -/

/-- Whether the character may stand between tokens. -/
def isJsonBlank (c : Char) : Bool :=
  c == ' ' || c == '\n' || c == '\t' || c == '\r'

/-- The words of JSON. -/
def keywords : List (List Char × Token) :=
  [("null".toList, .null), ("true".toList, .boolean true), ("false".toList, .boolean false)]

/-- The token that starts with the given character, and what follows it. -/
def token? (c : Char) (rest : List Char) : Option (Token × List Char) :=
  match c with
  | '[' => some (.beginArray, rest)
  | ']' => some (.endArray, rest)
  | '{' => some (.beginObject, rest)
  | '}' => some (.endObject, rest)
  | ':' => some (.colon, rest)
  | ',' => some (.comma, rest)
  | '"' => (stringPieces? rest).map fun (pieces, after) => (.string (pieceText? pieces), after)
  | '-' => (number? true rest).map fun (value, after) => (.number value, after)
  | _ =>
    if isDigit c then (number? false (c :: rest)).map fun (value, after) => (.number value, after)
    else
      keywords.findSome? fun (word, token) =>
        (dropStart? word (c :: rest)).map fun after => (token, after)

theorem length_digits_le (text : List Char) : (digits text).2.length ≤ text.length :=
  (List.dropWhile_sublist _).length_le

theorem length_wholeDigits?_le {text whole rest : List Char}
    (found : wholeDigits? text = some (whole, rest)) : rest.length ≤ text.length := by
  have bound := length_digits_le text
  unfold wholeDigits? at found
  split at found
  · simp at found
  · simp at found
  · rw [Option.some.inj found] at bound
    exact bound

theorem length_wholeDigits?_lt {c : Char} {text whole rest : List Char} (digit : isDigit c = true)
    (found : wholeDigits? (c :: text) = some (whole, rest)) : rest.length < (c :: text).length := by
  have bound : (digits (c :: text)).2.length < (c :: text).length := by
    simpa [digits, digit] using Nat.lt_succ_of_le (length_digits_le text)
  unfold wholeDigits? at found
  split at found
  · simp at found
  · simp at found
  · rw [Option.some.inj found] at bound
    exact bound

theorem length_fractionDigits?_le {text fraction rest : List Char}
    (found : fractionDigits? text = some (fraction, rest)) : rest.length ≤ text.length := by
  unfold fractionDigits? at found
  split at found
  · next inside =>
    have bound := length_digits_le inside
    split at found
    · simp at found
    · next same => simp_all; omega
  · simp_all

theorem length_exponentSign_le (text : List Char) : (exponentSign text).2.length ≤ text.length := by
  unfold exponentSign
  split <;> simp

theorem length_exponent?_le {text rest : List Char} {exponent : Option Int}
    (found : exponent? text = some (exponent, rest)) : rest.length ≤ text.length := by
  cases text with
  | nil => simp_all [exponent?]
  | cons c later =>
    have signed := length_exponentSign_le later
    have bound := length_digits_le (exponentSign later).2
    rw [exponent?] at found
    split at found
    · simp only at found
      split at found
      · simp at found
      · next same =>
        rw [same] at bound
        obtain ⟨_, rfl⟩ := Prod.mk.inj (Option.some.inj found)
        simp only [List.length_cons] at *
        omega
    · simp_all

theorem length_number?_le {isNegative : Bool} {text rest : List Char} {number : Number}
    (found : number? isNegative text = some (number, rest)) : rest.length ≤ text.length := by
  obtain ⟨⟨whole, first⟩, wholeFound, found⟩ := Option.bind_eq_some_iff.1 found
  obtain ⟨⟨fraction, second⟩, fractionFound, found⟩ := Option.bind_eq_some_iff.1 found
  obtain ⟨⟨exponent, third⟩, exponentFound, found⟩ := Option.bind_eq_some_iff.1 found
  have := length_wholeDigits?_le wholeFound
  have := length_fractionDigits?_le fractionFound
  have := length_exponent?_le exponentFound
  obtain ⟨_, rfl⟩ := Prod.mk.inj (Option.some.inj found)
  omega

theorem length_number?_lt {isNegative : Bool} {c : Char} {text rest : List Char} {number : Number}
    (digit : isDigit c = true) (found : number? isNegative (c :: text) = some (number, rest)) :
    rest.length < (c :: text).length := by
  obtain ⟨⟨whole, first⟩, wholeFound, found⟩ := Option.bind_eq_some_iff.1 found
  obtain ⟨⟨fraction, second⟩, fractionFound, found⟩ := Option.bind_eq_some_iff.1 found
  obtain ⟨⟨exponent, third⟩, exponentFound, found⟩ := Option.bind_eq_some_iff.1 found
  have := length_wholeDigits?_lt digit wholeFound
  have := length_fractionDigits?_le fractionFound
  have := length_exponent?_le exponentFound
  obtain ⟨_, rfl⟩ := Prod.mk.inj (Option.some.inj found)
  omega

theorem length_token?_lt {c : Char} {rest after : List Char} {token : Token}
    (found : token? c rest = some (token, after)) : after.length < (c :: rest).length := by
  have bracket {single : Token} (same : some (single, rest) = some (token, after)) :
      after.length < (c :: rest).length := by
    obtain ⟨_, rfl⟩ := Prod.mk.inj (Option.some.inj same)
    simp
  unfold token? at found
  split at found
  iterate 6 exact bracket found
  · obtain ⟨⟨pieces, later⟩, given, same⟩ := Option.map_eq_some_iff.1 found
    obtain ⟨_, rfl⟩ := Prod.mk.inj same
    exact Nat.lt_succ_of_lt (length_stringPieces?_lt given)
  · obtain ⟨⟨number, later⟩, given, same⟩ := Option.map_eq_some_iff.1 found
    obtain ⟨_, rfl⟩ := Prod.mk.inj same
    exact Nat.lt_succ_of_le (length_number?_le given)
  · split at found
    · next digit =>
      obtain ⟨⟨number, later⟩, given, same⟩ := Option.map_eq_some_iff.1 found
      obtain ⟨_, rfl⟩ := Prod.mk.inj same
      exact length_number?_lt digit given
    · obtain ⟨⟨word, keyword⟩, member, found⟩ := List.exists_of_findSome?_eq_some found
      obtain ⟨later, given, same⟩ := Option.map_eq_some_iff.1 found
      obtain ⟨_, rfl⟩ := Prod.mk.inj same
      have sizes := congrArg List.length (dropStart?_eq_some_iff.1 given)
      have positive : 0 < word.length := by
        rcases List.mem_cons.1 member with same | member
        · simp [(Prod.mk.inj same).1]
        · rcases List.mem_cons.1 member with same | member
          · simp [(Prod.mk.inj same).1]
          · simp [(Prod.mk.inj (List.mem_singleton.1 member)).1]
      simp only [List.length_append] at sizes
      omega

/-- The tokens of a text. -/
def tokens (text : List Char) : List Token :=
  match text with
  | [] => []
  | c :: rest =>
    if isJsonBlank c then tokens rest
    else
      match _found : token? c rest with
      | some (token, after) => token :: tokens after
      | none => [.flaw]
termination_by text.length
decreasing_by
  · simp
  · exact length_token?_lt (by assumption)

end SharpTypes.Json

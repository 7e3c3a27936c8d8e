/-
Words. No blank belongs to a word, so a word ends where blanks or punctuation begin, and a reader
that takes the longest word takes exactly the one that was written. An identifier is a word of
letters, digits and `_` that starts with no digit.
-/

import Mathlib.Data.List.Basic
import Mathlib.Data.List.TakeWhile
import Mathlib.Tactic.Common
import SharpTypes.Proofs.Text.Blank
import SharpTypes.Source.Header

namespace SharpTypes.Text

/-! ### Blanks and words -/

/-- Whether a code point belongs to a word. -/
def isWordCode (code : Nat) : Bool :=
  Run.cover letters code || Run.cover otherAlphabetics code || Run.cover alphabeticMarks code ||
    Run.cover marks code || Run.cover decimalDigits code || Run.cover connectors code ||
    Run.cover joiners code

theorem isWordCode_of_mem_blanks :
    ∀ run ∈ blanks, ∀ offset < run.last - run.first + 1,
      isWordCode (run.first + offset) = false := by
  decide +kernel

theorem isWord_of_isBlank {c : Char} (blank : isBlank c = true) : isWord c = false := by
  obtain ⟨run, isRun, contained⟩ := Run.exists_contains_of_cover blank
  simp only [Run.contains, Bool.and_eq_true, decide_eq_true_eq] at contained
  have noWord := isWordCode_of_mem_blanks run isRun (c.toNat - run.first) (by omega)
  rwa [Nat.add_sub_cancel' contained.1.1] at noWord

theorem isBlank_of_isWord {c : Char} (word : isWord c = true) : isBlank c = false := by
  by_contra blank
  rw [isWord_of_isBlank (by simpa using blank)] at word
  cases word

theorem isWord_of_isLetter {c : Char} (letter : isLetter c = true) : isWord c = true :=
  isWord_of_isAlphabetic (isAlphabetic_of_isLetter letter)

theorem isWord_of_isDecimalDigit {c : Char} (digit : isDecimalDigit c = true) :
    isWord c = true := by
  simp [isWord, digit]

/-! ### The end of a word -/

/-- The text does not go on with a character of the given kind. -/
def Stops (kind : Char → Bool) (text : List Char) : Prop :=
  ∀ c ∈ text.head?, kind c = false

theorem stops_nil (kind : Char → Bool) : Stops kind [] := by
  intro c member
  cases member

theorem stops_cons {kind : Char → Bool} {c : Char} (stop : kind c = false) (rest : List Char) :
    Stops kind (c :: rest) := by
  intro other member
  obtain rfl : c = other := Option.some.inj member
  exact stop

theorem stops_append {kind : Char → Bool} {text : List Char} (stops : Stops kind text)
    (notEmpty : text ≠ []) (rest : List Char) : Stops kind (text ++ rest) := by
  cases text with
  | nil => exact absurd rfl notEmpty
  | cons c later => exact stops

theorem stops_of_append {kind : Char → Bool} {text rest : List Char}
    (stops : Stops kind (text ++ rest)) : Stops kind text := by
  cases text with
  | nil => exact stops_nil kind
  | cons c later => exact stops

theorem takeWhile_append_of_stops {kind : Char → Bool} {word rest : List Char}
    (inside : ∀ c ∈ word, kind c = true) (stops : Stops kind rest) :
    (word ++ rest).takeWhile kind = word := by
  have nothing : rest.takeWhile kind = [] := by
    cases rest with
    | nil => rfl
    | cons c later => exact List.takeWhile_cons_of_neg (by simp [stops c rfl])
  rw [List.takeWhile_append_of_pos inside, nothing, List.append_nil]

theorem dropWhile_append_of_stops {kind : Char → Bool} {word rest : List Char}
    (inside : ∀ c ∈ word, kind c = true) (stops : Stops kind rest) :
    (word ++ rest).dropWhile kind = rest := by
  rw [List.dropWhile_append_of_pos inside]
  cases rest with
  | nil => rfl
  | cons c later => exact List.dropWhile_cons_of_neg (by simp [stops c rfl])

/-- Blanks stop a word, whatever comes after them if that stops it too. -/
theorem stops_blank_append {blank rest : List Char} (isBlanks : Blank blank)
    (stops : Stops isWord rest) : Stops isWord (blank ++ rest) := by
  cases blank with
  | nil => exact stops
  | cons c later => exact stops_cons (isWord_of_isBlank (isBlanks c List.mem_cons_self)) _

theorem stops_gap_append {gap : List Char} (isBlanks : Blank gap) (notEmpty : gap ≠ [])
    (rest : List Char) : Stops isWord (gap ++ rest) := by
  obtain ⟨c, later, rfl⟩ := List.exists_cons_of_ne_nil notEmpty
  exact stops_cons (isWord_of_isBlank (isBlanks c List.mem_cons_self)) _

/-- Whether a text is made of word characters only. -/
def IsWordText (text : List Char) : Prop :=
  ∀ c ∈ text, isWord c = true

instance (text : List Char) : Decidable (IsWordText text) :=
  inferInstanceAs (Decidable (∀ c ∈ text, isWord c = true))

/-- The word at the start of a text is determined by the text. -/
theorem word_eq_of_append_eq {left right leftRest rightRest : List Char}
    (leftWord : IsWordText left) (rightWord : IsWordText right) (leftStops : Stops isWord leftRest)
    (rightStops : Stops isWord rightRest) (same : left ++ leftRest = right ++ rightRest) :
    left = right := by
  have words := congrArg (List.takeWhile isWord) same
  rwa [takeWhile_append_of_stops leftWord leftStops,
    takeWhile_append_of_stops rightWord rightStops] at words

/-- Trimming stops at the first character that is no blank. -/
theorem trimStart_of_stops {text : List Char} (stops : Stops isBlank text) :
    trimStart text = text := by
  cases text with
  | nil => rfl
  | cons c rest => exact trimStart_cons (stops c rfl) rest

theorem trimStart_append_of_stops {blank text : List Char} (isBlanks : Blank blank)
    (stops : Stops isBlank text) : trimStart (blank ++ text) = text := by
  rw [trimStart_blank_append isBlanks, trimStart_of_stops stops]

theorem stops_isBlank_trimStart (text : List Char) : Stops isBlank (trimStart text) := by
  intro c first
  have ink := List.head?_dropWhile_not isBlank text
  rw [show (text.dropWhile isBlank).head? = some c from first] at ink
  simpa using ink

theorem trimStart_trimStart (text : List Char) : trimStart (trimStart text) = trimStart text :=
  trimStart_of_stops (stops_isBlank_trimStart text)

/-- A trimmed text starts with ink. -/
theorem stops_isBlank_trim (text : List Char) : Stops isBlank (trim text) := by
  intro c first
  rw [trim] at first
  cases kept : trimStart text with
  | nil =>
    rw [kept] at first
    cases first
  | cons other rest =>
    have notBlank : isBlank other = false :=
      stops_isBlank_trimStart text other (kept ▸ rfl)
    obtain ⟨later, same⟩ := exists_trimEnd_cons notBlank rest
    rw [kept, same] at first
    obtain rfl : other = c := Option.some.inj first
    exact notBlank

/-- A word that is read is the longest one. -/
theorem eq_of_word? {text word rest : List Char} (found : Source.word? text = some (word, rest)) :
    text = word ++ rest ∧ IsWordText word := by
  unfold Source.word? at found
  split at found
  · cases found
  · next isWord =>
    obtain ⟨rfl, rfl⟩ := Prod.mk.inj (Option.some.inj found)
    exact ⟨List.takeWhile_append_dropWhile.symm, fun c member => List.mem_takeWhile_imp member⟩

/-- The text ends in a word. -/
def endsInWord (text : List Char) : Bool :=
  text.getLast?.any isWord

theorem endsInWord_append {text : List Char} (notEmpty : text ≠ []) (front : List Char) :
    endsInWord (front ++ text) = endsInWord text := by
  rw [endsInWord, endsInWord, List.getLast?_append_of_ne_nil _ notEmpty]

theorem endsInWord_of_blank {text : List Char} (blank : Blank text) : endsInWord text = false := by
  rcases List.eq_nil_or_concat text with rfl | ⟨front, last, rfl⟩
  · rfl
  · rw [List.concat_eq_append] at blank ⊢
    rw [endsInWord, List.getLast?_concat, Option.any_some]
    exact isWord_of_isBlank (blank last (by simp))

/-! ### Identifiers -/

/-- Only letters and numerals and `_` stand in an identifier. -/
theorem not_mem_of_isIdentifier {text : List Char} (identifier : isIdentifier text = true)
    {c : Char} (other : (isAlphanumeric c || c == '_') = false) : c ∉ text := by
  cases text with
  | nil => exact List.not_mem_nil
  | cons first rest =>
    rw [isIdentifier, Bool.and_eq_true, List.all_eq_true] at identifier
    obtain ⟨start, inside⟩ := identifier
    intro member
    rcases List.mem_cons.mp member with rfl | inRest
    · have alphabetic : (isAlphanumeric c || c == '_') = true := by
        rw [Bool.or_eq_true] at start ⊢
        exact start.imp_left fun letter => by simp [isAlphanumeric, letter]
      rw [other] at alphabetic
      cases alphabetic
    · rw [inside c inRest] at other
      cases other

/-- An identifier starts with a word character. -/
theorem isWord_of_isIdentifier {first : Char} {rest : List Char}
    (identifier : isIdentifier (first :: rest) = true) : isWord first = true := by
  rw [isIdentifier, Bool.and_eq_true, Bool.or_eq_true, beq_iff_eq] at identifier
  rcases identifier.1 with letter | rfl
  · exact isWord_of_isAlphabetic letter
  · decide

/-- Whether a character may stand in an identifier. -/
def isIdentifierCharacter (c : Char) : Bool :=
  isLetter c || isDecimalDigit c || c == '_'

theorem isWord_of_isIdentifierCharacter {c : Char} (inside : isIdentifierCharacter c = true) :
    isWord c = true := by
  rw [isIdentifierCharacter, Bool.or_eq_true, Bool.or_eq_true, beq_iff_eq] at inside
  rcases inside with (letter | digit) | rfl
  · exact isWord_of_isLetter letter
  · exact isWord_of_isDecimalDigit digit
  · decide

/-- A word of letters, digits and `_` that starts with no digit. -/
structure Identifier where
  first : Char
  rest : List Char
  start : isLetter first || first == '_'
  plain : ∀ c ∈ rest, isIdentifierCharacter c = true

namespace Identifier

/-- The text of an identifier. -/
def text (identifier : Identifier) : List Char :=
  identifier.first :: identifier.rest

variable (identifier : Identifier)

theorem isIdentifierCharacter_of_mem {c : Char} (member : c ∈ identifier.text) :
    isIdentifierCharacter c = true := by
  rcases List.mem_cons.mp member with rfl | inRest
  · have start := identifier.start
    rw [Bool.or_eq_true] at start
    rcases start with letter | underscore
    · simp [isIdentifierCharacter, letter]
    · simp [isIdentifierCharacter, underscore]
  · exact identifier.plain c inRest

theorem isWord_of_mem {c : Char} (member : c ∈ identifier.text) : isWord c = true :=
  isWord_of_isIdentifierCharacter (identifier.isIdentifierCharacter_of_mem member)

theorem not_mem {c : Char} (noWord : isWord c = false) : c ∉ identifier.text := by
  intro member
  rw [identifier.isWord_of_mem member] at noWord
  cases noWord

theorem stops_isBlank (behind : List Char) : Stops isBlank (identifier.text ++ behind) :=
  stops_cons (isBlank_of_isWord (identifier.isWord_of_mem List.mem_cons_self)) _

/-- The longest word at the start of a text is the identifier that stands there. -/
theorem word?_append {behind : List Char} (stops : Stops isWord behind) :
    Source.word? (identifier.text ++ behind) = some (identifier.text, behind) := by
  have inside : IsWordText identifier.text := fun _ => identifier.isWord_of_mem
  rw [Source.word?, takeWhile_append_of_stops inside stops, dropWhile_append_of_stops inside stops]
  rfl

theorem isIdentifier_text : isIdentifier identifier.text = true := by
  have start := identifier.start
  rw [Bool.or_eq_true] at start
  rw [text, isIdentifier, Bool.and_eq_true, Bool.or_eq_true, List.all_eq_true]
  refine ⟨start.imp_left isAlphabetic_of_isLetter, fun c member => ?_⟩
  have inside := identifier.plain c member
  rw [isIdentifierCharacter, Bool.or_eq_true, Bool.or_eq_true] at inside
  rcases inside with (letter | digit) | underscore
  · simp [isAlphanumeric, isAlphabetic_of_isLetter letter]
  · simp [isAlphanumeric, digit]
  · simp [underscore]

/-- An identifier has no blanks to trim. -/
theorem trim_padded {before after : List Char} (blankBefore : Blank before)
    (blankAfter : Blank after) : trim (before ++ identifier.text ++ after) = identifier.text := by
  rw [trim_append_blank blankAfter, trim_blank_append blankBefore]
  refine trim_of_ends (fun c first => ?_) fun c last => ?_
  · exact isBlank_of_isWord (identifier.isWord_of_mem (List.mem_of_mem_head? first))
  · exact isBlank_of_isWord (identifier.isWord_of_mem (List.mem_of_mem_getLast? last))

/-- An identifier with blanks around it holds nothing else. -/
theorem not_mem_padded {before after : List Char} (blankBefore : Blank before)
    (blankAfter : Blank after) {c : Char} (notBlank : isBlank c = false)
    (noWord : isWord c = false) : c ∉ before ++ identifier.text ++ after := by
  simp only [List.mem_append, not_or]
  exact ⟨⟨not_mem_of_blank blankBefore notBlank, identifier.not_mem noWord⟩,
    not_mem_of_blank blankAfter notBlank⟩

theorem inked_padded (before after : List Char) : Inked (before ++ identifier.text ++ after) :=
  ((inked_cons (identifier.stops_isBlank [] _ rfl) _).append_right before).append_left after

end Identifier

end SharpTypes.Text

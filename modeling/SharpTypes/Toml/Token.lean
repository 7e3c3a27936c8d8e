/-
The tokens of TOML text. What a token is does not depend on where it stands: quoted texts are read,
comments are checked and dropped, and everything between delimiters is a word, whatever it may mean.
A text that cannot be cut into tokens to its end yields a token that stands for the flaw.
-/

import SharpTypes.Json.Token

namespace SharpTypes.Toml

open Text

/-- A token of TOML text. -/
inductive Token where
  | equals
  | comma
  | dot
  | beginBracket
  | endBracket
  | beginBrace
  | endBrace
  | blank
  | newline
  /-- Characters between delimiters. -/
  | word (text : List Char)
  /-- A quoted text on one line, which may be a name. -/
  | string (text : List Char)
  /-- A quoted text in triple quotes. -/
  | paragraph (text : List Char)
  /-- Something that is no token. -/
  | flaw
  deriving DecidableEq, Repr

/-- Whether the character may stand in a comment or unescaped in a text: no control character but
the tab. -/
def isPlain (c : Char) : Bool :=
  c == '\t' || (0x20 ≤ c.toNat && c.toNat ≠ 0x7F)

/-- Whether the character is a blank inside a line. -/
def isLineBlank (c : Char) : Bool :=
  c == ' ' || c == '\t'

/-! ### Quoted texts -/

/-- The value of a row of hexadecimal digits. -/
def hexNumber? (digits : List Char) : Option Nat :=
  digits.foldlM (fun value c => (Json.hexValue? c).map (value * 16 + ·)) 0

/-- The character that hexadecimal digits name. -/
def namedCharacter? (digits : List Char) : Option Char :=
  (hexNumber? digits).bind fun code =>
    if code < 0xD800 ∨ 0xE000 ≤ code ∧ code < 0x110000 then some (Char.ofNat code) else none

/-- The character that a backslash and one more character stand for. -/
def escaped? : Char → Option Char
  | '"' => some '"'
  | '\\' => some '\\'
  | 'b' => some '\x08'
  | 'e' => some '\x1b'
  | 'f' => some '\x0c'
  | 'n' => some '\n'
  | 'r' => some '\r'
  | 't' => some '\t'
  | _ => none

/-- The character that an escape stands for, given what follows its backslash, and what follows the
escape. -/
def escape? : List Char → Option (Char × List Char)
  | 'x' :: rest => (namedCharacter? (rest.take 2)).bind (named 2 rest)
  | 'u' :: rest => (namedCharacter? (rest.take 4)).bind (named 4 rest)
  | 'U' :: rest => (namedCharacter? (rest.take 8)).bind (named 8 rest)
  | c :: rest => (escaped? c).map fun meant => (meant, rest)
  | [] => none
where
  /-- The character with what follows its digits, of which there have to be enough. -/
  named (count : Nat) (rest : List Char) (c : Char) : Option (Char × List Char) :=
    if count ≤ rest.length then some (c, rest.drop count) else none

theorem length_named_le {count : Nat} {rest after : List Char} {c meant : Char}
    (found : escape?.named count rest c = some (meant, after)) : after.length ≤ rest.length := by
  unfold escape?.named at found
  split at found
  · obtain ⟨_, rfl⟩ := Prod.mk.inj (Option.some.inj found)
    simp
  · simp at found

theorem length_escape?_le {text after : List Char} {meant : Char}
    (found : escape? text = some (meant, after)) : after.length < text.length := by
  unfold escape? at found
  split at found
  iterate 3
    obtain ⟨c, _, found⟩ := Option.bind_eq_some_iff.1 found
    exact Nat.lt_succ_of_le (length_named_le found)
  · obtain ⟨c, _, same⟩ := Option.map_eq_some_iff.1 found
    obtain ⟨_, rfl⟩ := Prod.mk.inj same
    simp
  · simp at found

/-- A text in single quotes up to its closing quote, and what follows. -/
def literal? : List Char → Option (List Char × List Char)
  | [] => none
  | c :: rest =>
    if c = '\'' then some ([], rest)
    else if isPlain c then (literal? rest).map fun found => (c :: found.1, found.2)
    else none

/-- A text in double quotes up to its closing quote, and what follows. -/
def basic? (text : List Char) : Option (List Char × List Char) :=
  match text with
  | [] => none
  | '"' :: rest => some ([], rest)
  | '\\' :: rest =>
    match _found : escape? rest with
    | some (c, after) => (basic? after).map fun found => (c :: found.1, found.2)
    | none => none
  | c :: rest =>
    if isPlain c then (basic? rest).map fun found => (c :: found.1, found.2) else none
termination_by text.length
decreasing_by
  · exact Nat.lt_succ_of_lt (length_escape?_le (by assumption))
  · simp

/-- What a triple quote leaves of the quotes that directly follow it: two of them may still belong
to the text. -/
def lateQuotes (quote : Char) (rest : List Char) : List Char × List Char :=
  match rest with
  | a :: b :: later =>
    if a = quote then if b = quote then ([a, b], later) else ([a], b :: later) else ([], rest)
  | [a] => if a = quote then ([a], []) else ([], rest)
  | [] => ([], [])

/-- The text after a line break, if there is one in front. -/
def afterBreak? : List Char → Option (List Char)
  | '\n' :: rest => some rest
  | '\r' :: '\n' :: rest => some rest
  | _ => none

/-- A text in triple single quotes up to its closing quotes, and what follows. -/
def longLiteral? : List Char → Option (List Char × List Char)
  | '\'' :: '\'' :: '\'' :: rest => some (lateQuotes '\'' rest)
  | '\r' :: '\n' :: rest => (longLiteral? rest).map fun found => ('\r' :: '\n' :: found.1, found.2)
  | c :: rest =>
    if isPlain c ∨ c = '\n' then (longLiteral? rest).map fun found => (c :: found.1, found.2)
    else none
  | [] => none

/-- Whether there is nothing but blanks before the next line break. -/
def endsLine (text : List Char) : Bool :=
  (afterBreak? (text.dropWhile isLineBlank)).isSome

/-- The text from the first character that is neither a blank nor belongs to a line break. -/
def afterGap : List Char → List Char
  | '\r' :: '\n' :: rest => afterGap rest
  | c :: rest => if isLineBlank c ∨ c = '\n' then afterGap rest else c :: rest
  | [] => []

theorem length_afterGap_le (text : List Char) : (afterGap text).length ≤ text.length := by
  fun_induction afterGap text <;> simp_all <;> omega

theorem length_lateQuotes_le (quote : Char) (rest : List Char) :
    (lateQuotes quote rest).2.length ≤ rest.length := by
  unfold lateQuotes
  split
  · split
    · split <;> simp
      omega
    · simp
  · split <;> simp
  · simp

/-- A text in triple double quotes up to its closing quotes, and what follows. A backslash at the
end of a line takes the line break and all blanks and line breaks after it away. -/
def longBasic? (text : List Char) : Option (List Char × List Char) :=
  match text with
  | [] => none
  | '"' :: '"' :: '"' :: rest => some (lateQuotes '"' rest)
  | '\\' :: rest =>
    if endsLine rest then longBasic? (afterGap rest)
    else
      match _found : escape? rest with
      | some (c, after) => (longBasic? after).map fun found => (c :: found.1, found.2)
      | none => none
  | '\r' :: '\n' :: rest => (longBasic? rest).map fun found => ('\r' :: '\n' :: found.1, found.2)
  | c :: rest =>
    if isPlain c ∨ c = '\n' then (longBasic? rest).map fun found => (c :: found.1, found.2)
    else none
termination_by text.length
decreasing_by
  · exact Nat.lt_succ_of_le (length_afterGap_le rest)
  · exact Nat.lt_succ_of_lt (length_escape?_le (by assumption))
  · simp only [List.length_cons]
    omega
  · simp

/-- A line break at the start of a text in triple quotes is no part of it. -/
def withoutFirstBreak (text : List Char) : List Char :=
  (afterBreak? text).getD text

theorem length_withoutFirstBreak_le (text : List Char) :
    (withoutFirstBreak text).length ≤ text.length := by
  unfold withoutFirstBreak afterBreak?
  split <;> simp
  omega

theorem length_literal?_lt {text within after : List Char}
    (found : literal? text = some (within, after)) : after.length < text.length := by
  fun_induction literal? text generalizing within with
  | case1 => simp at found
  | case2 => simp_all
  | case3 _ _ _ _ inductionHypothesis =>
    obtain ⟨⟨_, later⟩, given, same⟩ := Option.map_eq_some_iff.1 found
    obtain ⟨_, rfl⟩ := Prod.mk.inj same
    exact Nat.lt_succ_of_lt (inductionHypothesis given)
  | case4 => simp at found

theorem length_basic?_lt {text within after : List Char}
    (found : basic? text = some (within, after)) : after.length < text.length := by
  fun_induction basic? text generalizing within with
  | case1 => simp at found
  | case2 => simp_all
  | case3 _ _ _ shorter inductionHypothesis =>
    obtain ⟨⟨_, later⟩, given, same⟩ := Option.map_eq_some_iff.1 found
    obtain ⟨_, rfl⟩ := Prod.mk.inj same
    exact Nat.lt_succ_of_lt (Nat.lt_trans (inductionHypothesis given) (length_escape?_le shorter))
  | case4 => simp at found
  | case5 _ _ _ _ _ inductionHypothesis =>
    obtain ⟨⟨_, later⟩, given, same⟩ := Option.map_eq_some_iff.1 found
    obtain ⟨_, rfl⟩ := Prod.mk.inj same
    exact Nat.lt_succ_of_lt (inductionHypothesis given)
  | case6 => simp at found

theorem length_longLiteral?_lt {text within after : List Char}
    (found : longLiteral? text = some (within, after)) : after.length < text.length := by
  fun_induction longLiteral? text generalizing within with
  | case1 rest =>
    have bound : after.length ≤ rest.length := by
      simpa [Option.some.inj found] using length_lateQuotes_le '\'' rest
    simp only [List.length_cons]
    omega
  | case2 _ inductionHypothesis =>
    obtain ⟨⟨_, later⟩, given, same⟩ := Option.map_eq_some_iff.1 found
    obtain ⟨_, rfl⟩ := Prod.mk.inj same
    exact Nat.lt_succ_of_lt (Nat.lt_succ_of_lt (inductionHypothesis given))
  | case3 _ _ _ _ _ inductionHypothesis =>
    obtain ⟨⟨_, later⟩, given, same⟩ := Option.map_eq_some_iff.1 found
    obtain ⟨_, rfl⟩ := Prod.mk.inj same
    exact Nat.lt_succ_of_lt (inductionHypothesis given)
  | case4 => simp at found
  | case5 => simp at found

theorem length_longBasic?_lt {text within after : List Char}
    (found : longBasic? text = some (within, after)) : after.length < text.length := by
  fun_induction longBasic? text generalizing within with
  | case1 => simp at found
  | case2 rest =>
    have bound : after.length ≤ rest.length := by
      simpa [Option.some.inj found] using length_lateQuotes_le '"' rest
    simp only [List.length_cons]
    omega
  | case3 rest _ inductionHypothesis =>
    have := inductionHypothesis found
    have := length_afterGap_le rest
    simp only [List.length_cons]
    omega
  | case4 _ _ _ _ shorter inductionHypothesis =>
    obtain ⟨⟨_, later⟩, given, same⟩ := Option.map_eq_some_iff.1 found
    obtain ⟨_, rfl⟩ := Prod.mk.inj same
    exact Nat.lt_succ_of_lt (Nat.lt_trans (inductionHypothesis given) (length_escape?_le shorter))
  | case5 => simp at found
  | case6 _ inductionHypothesis =>
    obtain ⟨⟨_, later⟩, given, same⟩ := Option.map_eq_some_iff.1 found
    obtain ⟨_, rfl⟩ := Prod.mk.inj same
    exact Nat.lt_succ_of_lt (Nat.lt_succ_of_lt (inductionHypothesis given))
  | case7 _ _ _ _ _ _ inductionHypothesis =>
    obtain ⟨⟨_, later⟩, given, same⟩ := Option.map_eq_some_iff.1 found
    obtain ⟨_, rfl⟩ := Prod.mk.inj same
    exact Nat.lt_succ_of_lt (inductionHypothesis given)
  | case8 => simp at found

/-! ### Comments and words -/

/-- What follows a comment, of which only the text after its number sign is given; nothing if there
is a character in it that may not be. -/
def afterComment? : List Char → Option (List Char)
  | [] => some []
  | '\n' :: rest => some ('\n' :: rest)
  | '\r' :: '\n' :: rest => some ('\r' :: '\n' :: rest)
  | c :: rest => if isPlain c then afterComment? rest else none

theorem length_afterComment?_le {text after : List Char} (found : afterComment? text = some after) :
    after.length ≤ text.length := by
  fun_induction afterComment? text with
  | case1 => simp_all
  | case2 => simp_all
  | case3 => simp_all
  | case4 _ _ _ _ _ inductionHypothesis => exact Nat.le_succ_of_le (inductionHypothesis found)
  | case5 => simp at found

/-- Whether the character ends a word. -/
def isDelimiter (c : Char) : Bool :=
  "=,.[]\x7b\x7d#\"' \t\r\n".toList.contains c

/-- Whether a word looks like a date. -/
def isDateShaped (word : List Char) : Bool :=
  word.length == 10 && word[4]? == some '-' && word[7]? == some '-' &&
    (word.take 4).all isDigit

/-- The word that starts with the given character, and what follows it. A time may follow its date
after one blank. -/
def wordFrom (c : Char) (rest : List Char) : List Char × List Char :=
  let word := c :: rest.takeWhile (!isDelimiter ·)
  let after := rest.dropWhile (!isDelimiter ·)
  match after with
  | ' ' :: d :: later =>
    if isDateShaped word && isDigit d then
      (word ++ ' ' :: d :: later.takeWhile (!isDelimiter ·), later.dropWhile (!isDelimiter ·))
    else (word, after)
  | _ => (word, after)

theorem length_wordFrom_le (c : Char) (rest : List Char) :
    (wordFrom c rest).2.length ≤ rest.length := by
  have bound : (rest.dropWhile (!isDelimiter ·)).length ≤ rest.length :=
    (List.dropWhile_sublist _).length_le
  simp only [wordFrom]
  split
  · next d later same =>
    rw [same] at bound
    have further : (later.dropWhile (!isDelimiter ·)).length ≤ later.length :=
      (List.dropWhile_sublist _).length_le
    simp only [List.length_cons] at bound
    split
    · simp only
      omega
    · simpa only [same, List.length_cons] using bound
  · exact bound

/-! ### Tokens -/

/-- The token that starts with the given character, if it is not a comment, and what follows it. -/
def token? (c : Char) (rest : List Char) : Option (Token × List Char) :=
  match c with
  | '=' => some (.equals, rest)
  | ',' => some (.comma, rest)
  | '.' => some (.dot, rest)
  | '[' => some (.beginBracket, rest)
  | ']' => some (.endBracket, rest)
  | '{' => some (.beginBrace, rest)
  | '}' => some (.endBrace, rest)
  | ' ' => some (.blank, rest)
  | '\t' => some (.blank, rest)
  | '\n' => some (.newline, rest)
  | '\r' => (dropStart? ['\n'] rest).map fun after => (.newline, after)
  | '\'' =>
    match dropStart? ['\'', '\''] rest with
    | some within =>
      (longLiteral? (withoutFirstBreak within)).map fun found => (.paragraph found.1, found.2)
    | none => (literal? rest).map fun found => (.string found.1, found.2)
  | '"' =>
    match dropStart? ['"', '"'] rest with
    | some within =>
      (longBasic? (withoutFirstBreak within)).map fun found => (.paragraph found.1, found.2)
    | none => (basic? rest).map fun found => (.string found.1, found.2)
  | c =>
    let found := wordFrom c rest
    some (.word found.1, found.2)

theorem length_token?_lt {c : Char} {rest after : List Char} {token : Token}
    (found : token? c rest = some (token, after)) : after.length < (c :: rest).length := by
  have single {given : Token} (same : some (given, rest) = some (token, after)) :
      after.length < (c :: rest).length := by
    obtain ⟨_, rfl⟩ := Prod.mk.inj (Option.some.inj same)
    simp
  apply Nat.lt_succ_of_le
  unfold token? at found
  split at found
  iterate 10 exact Nat.le_of_lt_succ (single found)
  · obtain ⟨later, given, same⟩ := Option.map_eq_some_iff.1 found
    obtain ⟨_, rfl⟩ := Prod.mk.inj same
    exact length_dropStart?_le given
  · split at found
    · next within opened =>
      obtain ⟨⟨_, later⟩, given, same⟩ := Option.map_eq_some_iff.1 found
      obtain ⟨_, rfl⟩ := Prod.mk.inj same
      have := length_longLiteral?_lt given
      have := length_withoutFirstBreak_le within
      have := length_dropStart?_le opened
      simp only
      omega
    · obtain ⟨⟨_, later⟩, given, same⟩ := Option.map_eq_some_iff.1 found
      obtain ⟨_, rfl⟩ := Prod.mk.inj same
      exact Nat.le_of_lt (length_literal?_lt given)
  · split at found
    · next within opened =>
      obtain ⟨⟨_, later⟩, given, same⟩ := Option.map_eq_some_iff.1 found
      obtain ⟨_, rfl⟩ := Prod.mk.inj same
      have := length_longBasic?_lt given
      have := length_withoutFirstBreak_le within
      have := length_dropStart?_le opened
      simp only
      omega
    · obtain ⟨⟨_, later⟩, given, same⟩ := Option.map_eq_some_iff.1 found
      obtain ⟨_, rfl⟩ := Prod.mk.inj same
      exact Nat.le_of_lt (length_basic?_lt given)
  · obtain ⟨_, rfl⟩ := Prod.mk.inj (Option.some.inj found)
    exact length_wordFrom_le _ rest

/-- The tokens of a text. -/
def tokens (text : List Char) : List Token :=
  match text with
  | [] => []
  | '#' :: rest =>
    match _found : afterComment? rest with
    | some after => tokens after
    | none => [.flaw]
  | c :: rest =>
    match _found : token? c rest with
    | some (token, after) => token :: tokens after
    | none => [.flaw]
termination_by text.length
decreasing_by
  · exact Nat.lt_succ_of_le (length_afterComment?_le (by assumption))
  · exact length_token?_lt (by assumption)

end SharpTypes.Toml

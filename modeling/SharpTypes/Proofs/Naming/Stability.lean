/-
Converting names again. In a name without separators every word but the first one starts with a
capital, so joining the words changes the first letter at most. Words in lower case are got back
from a name that has separators in between. So on ASCII names every convention leaves its own names
as they are, the two that join words with capitals take each other back, and so do the two that
separate them.
-/

import Mathlib.Data.Bool.AllAny
import Mathlib.Tactic.Common
import SharpTypes.Proofs.Naming.WordBoundary
import SharpTypes.Proofs.Text.Ascii

namespace SharpTypes.Naming

open Text

variable {name text : List Char}

/-! ### Separators in another case -/

theorem isSeparator_toLower {c : Char} (ascii : IsAscii c) :
    isSeparator c.toLower = isSeparator c :=
  IsAscii.of_forall_range (fun c => isSeparator c.toLower = isSeparator c) (by decide +kernel) ascii

theorem isSeparator_toUpper {c : Char} (ascii : IsAscii c) :
    isSeparator c.toUpper = isSeparator c :=
  IsAscii.of_forall_range (fun c => isSeparator c.toUpper = isSeparator c) (by decide +kernel) ascii

theorem isAscii_of_mem_words (ascii : ∀ c ∈ name, IsAscii c) {word : List Char}
    (isWord : word ∈ words name) : ∀ c ∈ word, IsAscii c :=
  fun c member => ascii c (mem_of_mem_words isWord member).1

/-! ### Names without separators -/

/-- The name holds no separators and nothing but ASCII. -/
def IsPlainAscii (text : List Char) : Prop :=
  ∀ c ∈ text, IsAscii c ∧ isSeparator c = false

theorem IsPlainAscii.isAscii (plain : IsPlainAscii text) : ∀ c ∈ text, IsAscii c :=
  fun c member => (plain c member).1

theorem isPlainAscii_of_mem_words (ascii : ∀ c ∈ name, IsAscii c) {word : List Char}
    (isWord : word ∈ words name) : IsPlainAscii word :=
  fun c member => ⟨isAscii_of_mem_words ascii isWord c member, (mem_of_mem_words isWord member).2⟩

/-- Another first letter changes nothing about it. -/
theorem IsPlainAscii.modifyHead {change : Char → Char}
    (kept : ∀ c, IsAscii c → IsAscii (change c) ∧ isSeparator (change c) = isSeparator c)
    (plain : IsPlainAscii text) : IsPlainAscii (text.modifyHead change) := by
  cases text with
  | nil => exact plain
  | cons first rest =>
    obtain ⟨⟨ascii, inWord⟩, others⟩ := List.forall_mem_cons.mp plain
    obtain ⟨stillAscii, same⟩ := kept first ascii
    exact List.forall_mem_cons.mpr ⟨⟨stillAscii, same.trans inWord⟩, others⟩

theorem IsPlainAscii.capitalize (plain : IsPlainAscii text) : IsPlainAscii (capitalize text) := by
  rw [capitalize_of_isAscii plain.isAscii]
  exact plain.modifyHead fun c ascii => ⟨ascii.toUpper, isSeparator_toUpper ascii⟩

theorem IsPlainAscii.uncapitalize (plain : IsPlainAscii text) :
    IsPlainAscii (uncapitalize text) := by
  rw [uncapitalize_of_isAscii plain.isAscii]
  exact plain.modifyHead fun c ascii => ⟨ascii.toLower, isSeparator_toLower ascii⟩

theorem isPlainAscii_pascal (ascii : ∀ c ∈ name, IsAscii c) : IsPlainAscii (pascal name) := by
  intro c member
  obtain ⟨word, isWord, inside⟩ := List.mem_flatMap.mp member
  exact (isPlainAscii_of_mem_words ascii isWord).capitalize c inside

/-- In a name without separators every word but the first starts with a capital. -/
theorem exists_capital_of_words (plain : ∀ c ∈ text, isSeparator c = false) {first : List Char}
    {others : List (List Char)} (given : words text = first :: others) :
    ∀ word ∈ others, ∃ c rest, word = c :: rest ∧ isUpper c = true := by
  induction text generalizing first others with
  | nil => cases given
  | cons c rest inductionHypothesis =>
    obtain ⟨inWord, plainRest⟩ := List.forall_mem_cons.mp plain
    cases rest with
    | nil =>
      rw [words_singleton inWord] at given
      obtain ⟨_, rfl⟩ := List.cons.inj given
      exact List.forall_mem_nil _
    | cons next later =>
      obtain ⟨nextInWord, _⟩ := List.forall_mem_cons.mp plainRest
      rw [words_cons_cons inWord, nextInWord, Bool.false_or] at given
      obtain ⟨second, more, ofRest⟩ := List.exists_cons_of_ne_nil (words_ne_nil nextInWord later)
      have capitals := inductionHypothesis plainRest ofRest
      rw [ofRest] at given
      by_cases starts : startsWord c next later = true
      · rw [if_pos starts] at given
        obtain ⟨_, rfl⟩ := List.cons.inj given
        -- The first word of the rest starts with the capital that was just found.
        refine List.forall_mem_cons.mpr ⟨?_, capitals⟩
        have capital := (startsWord_iff.mp starts).1
        rcases words_of_inWord nextInWord later with same | ⟨head, _, _, same⟩ <;>
          rw [same] at ofRest <;> obtain ⟨rfl, _⟩ := List.cons.inj ofRest
        · exact ⟨next, [], rfl, capital⟩
        · exact ⟨next, head, rfl, capital⟩
      · rw [if_neg starts] at given
        obtain ⟨_, rfl⟩ := List.cons.inj given
        exact capitals

theorem withoutSeparators_of_plain (plain : ∀ c ∈ text, isSeparator c = false) :
    withoutSeparators text = text := by
  rw [withoutSeparators, List.filter_eq_self]
  intro c member
  rw [plain c member]
  rfl

/-- Of a name without separators, only the first letter changes its case. -/
theorem pascal_of_isPlainAscii (plain : IsPlainAscii text) : pascal text = capitalize text := by
  have inWord : ∀ c ∈ text, isSeparator c = false := fun c member => (plain c member).2
  have whole := flatten_words text
  rw [withoutSeparators_of_plain inWord] at whole
  unfold pascal
  cases given : words text with
  | nil =>
    rw [given] at whole
    rw [← whole]
    rfl
  | cons first others =>
    have isWord : first ∈ words text := given ▸ List.mem_cons_self
    have stays : ∀ word ∈ others, Text.capitalize word = word := by
      intro word member
      obtain ⟨c, rest, rfl, capital⟩ := exists_capital_of_words inWord given word member
      have ascii := isAscii_of_mem_words plain.isAscii (given ▸ List.mem_cons_of_mem first member)
      rw [capitalize_of_isAscii ascii, List.modifyHead_cons,
        (ascii c List.mem_cons_self).toUpper_of_isUpper capital]
    rw [given, List.flatten_cons] at whole
    rw [List.flatMap_cons, List.flatMap_congr stays, List.flatMap_id', ← whole]
    obtain ⟨c, rest, rfl⟩ := List.exists_cons_of_ne_nil (ne_nil_of_mem_words isWord)
    exact List.append_assoc (upperOf c) rest others.flatten

/-! ### Words joined without separators -/

theorem capitalize_uncapitalize (ascii : ∀ c ∈ text, IsAscii c) :
    capitalize (uncapitalize text) = capitalize text := by
  cases text with
  | nil => rfl
  | cons first rest =>
    have isAscii := ascii first List.mem_cons_self
    show capitalize (lowerOf first ++ rest) = upperOf first ++ rest
    rw [isAscii.lowerOf_eq, isAscii.upperOf_eq, List.singleton_append, capitalize,
      isAscii.toLower.upperOf_eq, isAscii.recased.2.2]

/-- The first letter of the words put together is in upper case already. -/
theorem capitalize_pascal (ascii : ∀ c ∈ name, IsAscii c) :
    capitalize (pascal name) = pascal name := by
  unfold pascal
  cases given : words name with
  | nil => rfl
  | cons first others =>
    have isWord : first ∈ words name := given ▸ List.mem_cons_self
    have asciiFirst := isAscii_of_mem_words ascii isWord
    obtain ⟨c, rest, rfl⟩ := List.exists_cons_of_ne_nil (ne_nil_of_mem_words isWord)
    have isAscii := asciiFirst c List.mem_cons_self
    rw [List.flatMap_cons, capitalize, isAscii.upperOf_eq, List.singleton_append, List.cons_append,
      capitalize, isAscii.toUpper.upperOf_eq, isAscii.recased.2.1]
    rfl

theorem pascal_pascal (ascii : ∀ c ∈ name, IsAscii c) : pascal (pascal name) = pascal name := by
  rw [pascal_of_isPlainAscii (isPlainAscii_pascal ascii), capitalize_pascal ascii]

theorem pascal_camel (ascii : ∀ c ∈ name, IsAscii c) : pascal (camel name) = pascal name := by
  have plain := isPlainAscii_pascal ascii
  rw [camel, pascal_of_isPlainAscii plain.uncapitalize, capitalize_uncapitalize plain.isAscii,
    capitalize_pascal ascii]

theorem camel_pascal (ascii : ∀ c ∈ name, IsAscii c) : camel (pascal name) = camel name := by
  rw [camel, pascal_pascal ascii, camel]

theorem camel_camel (ascii : ∀ c ∈ name, IsAscii c) : camel (camel name) = camel name := by
  rw [camel, pascal_camel ascii, camel]

/-! ### Words joined with separators -/

/-- A text without separators and capitals is a single word. -/
theorem words_of_uncapped (notEmpty : text ≠ []) (plain : ∀ c ∈ text, isSeparator c = false)
    (uncapped : ∀ c ∈ text, isUpper c = false) : words text = [text] := by
  induction text with
  | nil => exact absurd rfl notEmpty
  | cons c rest inductionHypothesis =>
    obtain ⟨inWord, plainRest⟩ := List.forall_mem_cons.mp plain
    obtain ⟨_, uncappedRest⟩ := List.forall_mem_cons.mp uncapped
    cases rest with
    | nil => exact words_singleton inWord
    | cons next later =>
      have stays : (isSeparator next || startsWord c next later) = false := by
        rw [plainRest next List.mem_cons_self, startsWord, uncappedRest next List.mem_cons_self]
        rfl
      rw [words_cons_cons inWord, stays, if_neg Bool.false_ne_true,
        inductionHypothesis (List.cons_ne_nil _ _) plainRest uncappedRest]
      rfl

/-- Words without capitals are got back from their join. -/
theorem words_join {separator : Char} (separates : isSeparator separator = true)
    (notLower : isLower separator = false) {pieces : List (List Char)}
    (isWords : ∀ piece ∈ pieces, words piece = [piece]) :
    words (join [separator] pieces) = pieces := by
  induction pieces with
  | nil => rfl
  | cons first rest inductionHypothesis =>
    obtain ⟨isFirst, isRest⟩ := List.forall_mem_cons.mp isWords
    cases rest with
    | nil => rw [join_singleton, isFirst]
    | cons second others =>
      rw [join_cons_cons, List.append_assoc, List.singleton_append,
        words_append_separator separates notLower, isFirst, inductionHypothesis isRest]
      rfl

theorem words_lowercase (ascii : ∀ c ∈ name, IsAscii c) {word : List Char}
    (isWord : word ∈ words name) : words (lowercase word) = [lowercase word] := by
  have plain := isPlainAscii_of_mem_words ascii isWord
  rw [lowercase_of_isAscii plain.isAscii]
  refine words_of_uncapped ?_ (List.forall_mem_map.mpr fun c member => ?_)
    (List.forall_mem_map.mpr fun c member => (plain c member).1.isUpper_toLower)
  · simpa using ne_nil_of_mem_words isWord
  · rw [isSeparator_toLower (plain c member).1, (plain c member).2]

/-- The words of words in lower case with separators in between are these. -/
theorem words_separated {separator : Char} (separates : isSeparator separator = true)
    (notLower : isLower separator = false) (ascii : ∀ c ∈ name, IsAscii c) :
    words (separated separator name) = (words name).map lowercase :=
  words_join separates notLower
    (List.forall_mem_map.mpr fun _ isWord => words_lowercase ascii isWord)

/-- So a second separator replaces the first one. -/
theorem separated_separated {first : Char} (separates : isSeparator first = true)
    (notLower : isLower first = false) (ascii : ∀ c ∈ name, IsAscii c) (second : Char) :
    separated second (separated first name) = separated second name := by
  have again : ∀ word ∈ words name, (lowercase ∘ lowercase) word = lowercase word :=
    fun word isWord => lowercase_lowercase (isAscii_of_mem_words ascii isWord)
  rw [separated, words_separated separates notLower ascii, List.map_map,
    List.map_congr_left again, separated]

theorem separated_eq_iff {separator : Char} (separates : isSeparator separator = true)
    (notLower : isLower separator = false) {other : List Char} (ascii : ∀ c ∈ name, IsAscii c)
    (asciiOther : ∀ c ∈ other, IsAscii c) :
    separated separator name = separated separator other ↔
      (words name).map lowercase = (words other).map lowercase := by
  constructor
  · intro same
    rw [← words_separated separates notLower ascii, same,
      words_separated separates notLower asciiOther]
  · exact congrArg (join [separator])

/-! ### All conventions -/

theorem isLower_low : isLower '_' = false := by
  decide +kernel

theorem isLower_dash : isLower '-' = false := by
  decide +kernel

/-- Every convention leaves its own form of the name as it is. The two that join words with capitals
take each other back, and so do the two that separate them: those keep the words but for the case,
so that two names have one form exactly if their words are the same in lower case. -/
structure IsStable (name : List Char) : Prop where
  settled : ∀ convention : NamingConvention,
    convention.apply (convention.apply name) = convention.apply name
  pascalOfCamel : pascal (camel name) = pascal name
  camelOfPascal : camel (pascal name) = camel name
  wordsOfKebab : words (kebab name) = (words name).map lowercase
  wordsOfSnake : words (snake name) = (words name).map lowercase
  kebabOfSnake : kebab (snake name) = kebab name
  snakeOfKebab : snake (kebab name) = snake name
  kebabTells : ∀ other : List Char, (∀ c ∈ other, IsAscii c) →
    (kebab name = kebab other ↔ (words name).map lowercase = (words other).map lowercase)
  snakeTells : ∀ other : List Char, (∀ c ∈ other, IsAscii c) →
    (snake name = snake other ↔ (words name).map lowercase = (words other).map lowercase)

/-- On ASCII names all conventions are stable. -/
theorem conversions_stable (ascii : ∀ c ∈ name, IsAscii c) : IsStable name where
  settled convention := by
    cases convention with
    | camel => exact camel_camel ascii
    | pascal => exact pascal_pascal ascii
    | snake => exact separated_separated rfl isLower_low ascii '_'
    | kebab => exact separated_separated rfl isLower_dash ascii '-'
  pascalOfCamel := pascal_camel ascii
  camelOfPascal := camel_pascal ascii
  wordsOfKebab := words_separated rfl isLower_dash ascii
  wordsOfSnake := words_separated rfl isLower_low ascii
  kebabOfSnake := separated_separated rfl isLower_low ascii '-'
  snakeOfKebab := separated_separated rfl isLower_dash ascii '_'
  kebabTells _ asciiOther := separated_eq_iff rfl isLower_dash ascii asciiOther
  snakeTells _ asciiOther := separated_eq_iff rfl isLower_low ascii asciiOther

/-- Two spellings of one name, with an acronym, a digit and other characters in it. -/
theorem conversions_stable_of_acronym :
    (∀ c ∈ "HTTPServer2Go!".toList, IsAscii c) ∧ (∀ c ∈ "http.Server2_go!".toList, IsAscii c) ∧
      kebab "HTTPServer2Go!".toList = kebab "http.Server2_go!".toList ∧
      pascal (camel "HTTPServer2Go!".toList) = pascal "HTTPServer2Go!".toList := by
  have ascii : ∀ c ∈ "HTTPServer2Go!".toList, IsAscii c :=
    List.all_iff_forall_prop.mp (by decide)
  have asciiOther : ∀ c ∈ "http.Server2_go!".toList, IsAscii c :=
    List.all_iff_forall_prop.mp (by decide)
  have stable : IsStable "HTTPServer2Go!".toList := conversions_stable ascii
  refine ⟨ascii, asciiOther, ?_, stable.pascalOfCamel⟩
  exact (stable.kebabTells _ asciiOther).mpr (by decide +kernel)

end SharpTypes.Naming

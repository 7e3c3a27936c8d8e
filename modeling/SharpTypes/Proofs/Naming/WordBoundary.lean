/-
Where names break into words. The words of a name make up the name without its separators, and each
character of them has the number of its word. Along the name the number grows behind separators and
in front of a capital that starts a word: one behind a lower-case character, behind a digit, or
behind another capital if a lower-case character follows.
-/

import Mathlib.Data.List.Basic
import Mathlib.Tactic.Common
import SharpTypes.Proofs.Checked.Naming

namespace SharpTypes.Naming

open Text

variable {c : Char} {rest : List Char}

/-! ### What words are made of -/

/-- A name without its separators. -/
def withoutSeparators (name : List Char) : List Char :=
  name.filter fun c => !isSeparator c

theorem withoutSeparators_of_separator (separates : isSeparator c = true) (rest : List Char) :
    withoutSeparators (c :: rest) = withoutSeparators rest :=
  List.filter_cons_of_neg (by simp [separates])

theorem withoutSeparators_of_inWord (inWord : isSeparator c = false) (rest : List Char) :
    withoutSeparators (c :: rest) = c :: withoutSeparators rest :=
  List.filter_cons_of_pos (by simp [inWord])

theorem words_of_separators {gap : List Char} (separators : ∀ c ∈ gap, isSeparator c = true)
    (rest : List Char) : words (gap ++ rest) = words rest := by
  induction gap with
  | nil => rfl
  | cons c gap inductionHypothesis =>
    obtain ⟨separates, others⟩ := List.forall_mem_cons.mp separators
    rw [List.cons_append, words_of_separator separates, inductionHypothesis others]

/-- A character of a word stands in a word of its own in front of the other words, or is the first
one of the first of them. -/
theorem words_of_inWord (inWord : isSeparator c = false) (rest : List Char) :
    words (c :: rest) = [c] :: words rest ∨
      ∃ first others, words rest = first :: others ∧
        words (c :: rest) = (c :: first) :: others := by
  cases rest with
  | nil => exact .inl (words_singleton inWord)
  | cons next later =>
    rw [words_cons_cons inWord]
    by_cases breaks : (isSeparator next || startsWord c next later) = true
    · exact .inl (if_pos breaks)
    · rw [if_neg breaks]
      rw [Bool.or_eq_true, not_or, Bool.not_eq_true] at breaks
      obtain ⟨first, others, given⟩ := List.exists_cons_of_ne_nil (words_ne_nil breaks.1 later)
      exact .inr ⟨first, others, given, by rw [given]; rfl⟩

theorem ne_nil_of_mem_words {name word : List Char} (isWord : word ∈ words name) : word ≠ [] := by
  induction name generalizing word with
  | nil => cases isWord
  | cons c rest inductionHypothesis =>
    by_cases separates : isSeparator c = true
    · rw [words_of_separator separates] at isWord
      exact inductionHypothesis isWord
    · rcases words_of_inWord (Bool.not_eq_true _ ▸ separates) rest with
        same | ⟨first, others, given, same⟩ <;> rw [same] at isWord
      · rcases List.mem_cons.mp isWord with rfl | inRest
        · exact List.cons_ne_nil _ _
        · exact inductionHypothesis inRest
      · rcases List.mem_cons.mp isWord with rfl | inRest
        · exact List.cons_ne_nil _ _
        · exact inductionHypothesis (given ▸ List.mem_cons_of_mem first inRest)

/-- The words one after the other are the name without its separators. -/
theorem flatten_words (name : List Char) : (words name).flatten = withoutSeparators name := by
  induction name with
  | nil => rfl
  | cons c rest inductionHypothesis =>
    by_cases separates : isSeparator c = true
    · rw [words_of_separator separates, withoutSeparators_of_separator separates,
        inductionHypothesis]
    · rw [Bool.not_eq_true] at separates
      rw [withoutSeparators_of_inWord separates, ← inductionHypothesis]
      rcases words_of_inWord separates rest with same | ⟨first, others, given, same⟩ <;> rw [same]
      · rfl
      · rw [given]
        rfl

/-! ### Which word a character belongs to -/

/-- The characters of the words, each with the number of its word, counted from the given one on. -/
def numberedFrom : Nat → List (List Char) → List (Char × Nat)
  | _, [] => []
  | number, word :: others => word.map (·, number) ++ numberedFrom (number + 1) others

/-- The characters of a name but for the separators, each with the number of its word. -/
def numbered (name : List Char) : List (Char × Nat) :=
  numberedFrom 0 (words name)

/-- Behind a character of a word the numbers go on with the same one or with the next one. -/
theorem exists_numberedFrom_cons (inWord : isSeparator c = false) (rest : List Char)
    (number : Nat) :
    ∃ next, numberedFrom number (words (c :: rest)) =
      (c, number) :: numberedFrom next (words rest) := by
  rcases words_of_inWord inWord rest with same | ⟨first, others, given, same⟩ <;> rw [same]
  · exact ⟨number + 1, rfl⟩
  · exact ⟨number, by rw [given]; rfl⟩

/-- They go on with the next one exactly behind separators and in front of a capital that starts a
word. -/
theorem exists_numberedFrom_gap {a b : Char} {gap : List Char} (inWord : isSeparator a = false)
    (nextInWord : isSeparator b = false) (separators : ∀ c ∈ gap, isSeparator c = true)
    (after : List Char) (number : Nat) :
    ∃ next, numberedFrom number (words (a :: (gap ++ b :: after))) =
        (a, number) :: numberedFrom next (words (b :: after)) ∧
      (number ≠ next ↔ gap ≠ [] ∨ startsWord a b after = true) := by
  cases gap with
  | nil =>
    rw [List.nil_append, words_cons_cons inWord, nextInWord, Bool.false_or]
    by_cases starts : startsWord a b after = true
    · rw [if_pos starts]
      exact ⟨number + 1, rfl, by simp [starts]⟩
    · obtain ⟨first, others, given⟩ := List.exists_cons_of_ne_nil (words_ne_nil nextInWord after)
      rw [if_neg starts, given]
      exact ⟨number, rfl, by simp [starts]⟩
  | cons d gap =>
    obtain ⟨separates, _⟩ := List.forall_mem_cons.mp separators
    rw [List.cons_append, words_cons_cons inWord, separates, Bool.true_or, if_pos rfl,
      ← List.cons_append, words_of_separators separators]
    exact ⟨number + 1, rfl, by simp⟩

/-- Two characters of words with nothing but separators in between belong to different words exactly
if there are separators in between or the second one starts a word. -/
theorem exists_numbered {a b : Char} {gap : List Char} (inWord : isSeparator a = false)
    (nextInWord : isSeparator b = false) (separators : ∀ c ∈ gap, isSeparator c = true)
    (before after : List Char) :
    ∃ front back left right,
      numbered (before ++ a :: (gap ++ b :: after)) = front ++ (a, left) :: (b, right) :: back ∧
        front.map Prod.fst = withoutSeparators before ∧
        (left ≠ right ↔ gap ≠ [] ∨ startsWord a b after = true) := by
  unfold numbered
  generalize 0 = number
  induction before generalizing number with
  | nil =>
    obtain ⟨next, same, different⟩ :=
      exists_numberedFrom_gap inWord nextInWord separators after number
    obtain ⟨_, later⟩ := exists_numberedFrom_cons nextInWord after next
    rw [List.nil_append, same, later]
    exact ⟨[], _, number, next, rfl, rfl, different⟩
  | cons c before inductionHypothesis =>
    rw [List.cons_append]
    by_cases separates : isSeparator c = true
    · rw [words_of_separator separates, withoutSeparators_of_separator separates]
      exact inductionHypothesis number
    · rw [Bool.not_eq_true] at separates
      obtain ⟨next, same⟩ := exists_numberedFrom_cons separates (before ++ a :: (gap ++ b :: after))
        number
      obtain ⟨front, back, left, right, later, sameFront, different⟩ := inductionHypothesis next
      refine ⟨(c, number) :: front, back, left, right, ?_, ?_, different⟩
      · rw [same, later]
        rfl
      · rw [withoutSeparators_of_inWord separates, ← sameFront]
        rfl

/-! ### The words of a name -/

/-- A word starts at a capital behind a lower-case character, a digit, or another capital if a
lower-case character follows. -/
theorem startsWord_iff {a b : Char} {after : List Char} :
    startsWord a b after = true ↔ isUpper b = true ∧
      (isLower a = true ∨ isDigit a = true ∨ isUpper a = true ∧ startsLower after = true) := by
  simp [startsWord, or_assoc]

/-- The words of a name, which the loop over its characters comes to, are not empty, hold no
separators, and make up the name without its separators. Two neighbours in the name that are no
separators belong to different words exactly if the second is a capital and the first a lower-case
character, a digit, or a capital where a lower-case character follows both; characters on both sides
of separators always do. -/
structure BreaksAtBoundaries (name : List Char) : Prop where
  loop : Checked.words name = .ok (words name)
  filled : ∀ word ∈ words name, word ≠ [] ∧ ∀ c ∈ word, isSeparator c = false
  whole : (words name).flatten = withoutSeparators name
  adjacent : ∀ before a b after, name = before ++ a :: b :: after →
    isSeparator a = false → isSeparator b = false →
    ∃ front back left right, numbered name = front ++ (a, left) :: (b, right) :: back ∧
      front.map Prod.fst = withoutSeparators before ∧
      (left ≠ right ↔ isUpper b = true ∧
        (isLower a = true ∨ isDigit a = true ∨ isUpper a = true ∧ startsLower after = true))
  separated : ∀ before a gap b after, name = before ++ a :: (gap ++ b :: after) →
    isSeparator a = false → isSeparator b = false → gap ≠ [] →
    (∀ c ∈ gap, isSeparator c = true) →
    ∃ front back left right, numbered name = front ++ (a, left) :: (b, right) :: back ∧
      front.map Prod.fst = withoutSeparators before ∧ left ≠ right

/-- Every name breaks into words at its boundaries. -/
theorem words_break_at_boundaries (name : List Char) : BreaksAtBoundaries name where
  loop := Checked.words_eq name
  filled word isWord :=
    ⟨ne_nil_of_mem_words isWord, fun _ member => (mem_of_mem_words isWord member).2⟩
  whole := flatten_words name
  adjacent := by
    rintro before a b after rfl inWord nextInWord
    obtain ⟨front, back, left, right, same, sameFront, different⟩ :=
      exists_numbered inWord nextInWord (List.forall_mem_nil _) before after
    refine ⟨front, back, left, right, same, sameFront, ?_⟩
    rw [different, ← startsWord_iff]
    exact or_iff_right fun someGap => someGap rfl
  separated := by
    rintro before a gap b after rfl inWord nextInWord someGap separators
    obtain ⟨front, back, left, right, same, sameFront, different⟩ :=
      exists_numbered inWord nextInWord separators before after
    exact ⟨front, back, left, right, same, sameFront, different.mpr (.inl someGap)⟩

/-- The last capital of a row of them starts a word if a lower-case character follows. -/
theorem words_break_at_boundaries_of_acronym :
    isSeparator 'L' = false ∧ isSeparator 'H' = false ∧
      ∃ front back left right,
        numbered "XMLHttp_request".toList = front ++ ('L', left) :: ('H', right) :: back ∧
          front.map Prod.fst = "XM".toList ∧ left ≠ right := by
  have inWord : isSeparator 'L' = false := by decide
  have nextInWord : isSeparator 'H' = false := by decide
  obtain ⟨front, back, left, right, same, sameFront, different⟩ :=
    (words_break_at_boundaries "XMLHttp_request".toList).adjacent "XM".toList 'L' 'H'
      "ttp_request".toList rfl inWord nextInWord
  refine ⟨inWord, nextInWord, front, back, left, right, same, sameFront, different.mpr ?_⟩
  exact ⟨by decide +kernel, .inr (.inr ⟨by decide +kernel, by decide +kernel⟩)⟩

end SharpTypes.Naming

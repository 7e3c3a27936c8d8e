/-
Cutting names into words by index. At a capital inside of a word the loop looks back at the
character before it. There is one, since the word is not empty and ends right there.
-/

import Mathlib.Tactic.Common
import SharpTypes.Proofs.Checked.Access
import SharpTypes.Proofs.Naming

namespace SharpTypes.Checked

open Text Naming

/-! ### Words -/

/-- Whether a word starts with the capital at an index, which follows a character of a word. -/
def startsWordAt (chars : List Char) (index : Nat) : Except Fault Bool := do
  let previous ← item chars (← subtract index 1)
  return isLower previous || isDigit previous ||
    (isUpper previous && chars[index + 1]?.any isLower)

/-- The words that begin with the current one, from an index on. -/
def wordsFrom (chars : List Char) (index : Nat) (current : List Char) :
    List Char → Except Fault (List (List Char))
  | [] => return if current.isEmpty then [] else [current]
  | c :: rest =>
    if isSeparator c then do
      let others ← wordsFrom chars (index + 1) [] rest
      return if current.isEmpty then others else current :: others
    else if isUpper c && !current.isEmpty then do
      if ← startsWordAt chars index then
        return current :: (← wordsFrom chars (index + 1) [c] rest)
      else wordsFrom chars (index + 1) (current ++ [c]) rest
    else wordsFrom chars (index + 1) (current ++ [c]) rest

/-- The words of an identifier. -/
def words (name : List Char) : Except Fault (List (List Char)) :=
  wordsFrom name 0 [] name

/-- Behind at least one character there is one to look back at. -/
theorem startsWordAt_eq (front : List Char) (previous next : Char) (later : List Char)
    (capital : isUpper next = true) :
    startsWordAt (front ++ previous :: next :: later) (front.length + 1) =
      .ok (startsWord previous next later) := by
  have before : subtract (front.length + 1) 1 = .ok front.length := by
    rw [Nat.add_comm, subtract_add]
  have behind : (front ++ previous :: next :: later)[front.length + 1 + 1]?.any isLower =
      startsLower later := by
    rw [Nat.add_assoc, List.getElem?_append_right (Nat.le_add_right _ _), Nat.add_sub_cancel_left]
    cases later <;> rfl
  rw [startsWordAt, before, ok_bind, item_append, ok_bind, behind, startsWord, capital,
    Bool.true_and]
  rfl

mutual

/-- Where no word is open, the words are those of the rest. -/
theorem wordsFrom_eq (front rest : List Char) :
    wordsFrom (front ++ rest) front.length [] rest = .ok (Naming.words rest) := by
  cases rest with
  | nil => rfl
  | cons c rest =>
    rw [wordsFrom]
    by_cases separates : isSeparator c = true
    · have others := wordsFrom_eq (front ++ [c]) rest
      rw [List.append_assoc, List.length_append] at others
      rw [if_pos separates, words_of_separator separates]
      exact congrArg (· >>= fun found => .ok found) others
    · rw [Bool.not_eq_true] at separates
      have opened := wordsFrom_append front [] c rest separates
      rw [modifyHead_nil] at opened
      rw [if_neg (by simp [separates]), if_neg (by simp)]
      exact opened

/-- The characters of the open word stay in front of what goes on with its last one. -/
theorem wordsFrom_append (front word : List Char) (last : Char) (rest : List Char)
    (inWord : isSeparator last = false) :
    wordsFrom (front ++ last :: rest) (front.length + 1) (word ++ [last]) rest =
      .ok ((Naming.words (last :: rest)).modifyHead (word ++ ·)) := by
  cases rest with
  | nil =>
    rw [wordsFrom, words_singleton inWord]
    cases word <;> rfl
  | cons c rest =>
    have notEmpty : (word ++ [last]).isEmpty = false := by simp
    have regrouped : front ++ last :: c :: rest = (front ++ [last]) ++ c :: rest := by simp
    have longer : (front ++ [last]).length = front.length + 1 := by simp
    rw [wordsFrom, words_cons_cons inWord, notEmpty]
    by_cases separates : isSeparator c = true
    · have others := wordsFrom_eq (front ++ [last, c]) rest
      rw [List.append_assoc, List.length_append] at others
      rw [if_pos separates, separates, words_of_separator separates]
      exact congrArg (· >>= fun found => .ok ((word ++ [last]) :: found)) others
    · -- The character goes on with the open word or, if it is a capital, may open the next one.
      rw [Bool.not_eq_true] at separates
      have stays := wordsFrom_append (front ++ [last]) (word ++ [last]) c rest separates
      have opened := wordsFrom_append (front ++ [last]) [] c rest separates
      rw [← regrouped, longer, modifyHead_pending] at stays
      rw [← regrouped, longer, modifyHead_nil] at opened
      rw [if_neg (by simp [separates]), separates, Bool.false_or]
      by_cases capital : isUpper c = true
      · rw [if_pos (by simp [capital]), startsWordAt_eq front last c rest capital, ok_bind]
        by_cases starts : startsWord last c rest = true
        · rw [if_pos starts, if_pos starts]
          exact congrArg (· >>= fun found => .ok ((word ++ [last]) :: found)) opened
        · rw [if_neg starts, if_neg starts, stays]
      · rw [Bool.not_eq_true] at capital
        rw [if_neg (by simp [capital]), if_neg (by simp [startsWord, capital]), stays]

end

theorem words_eq (name : List Char) : words name = .ok (Naming.words name) :=
  wordsFrom_eq [] name

/-! ### Conventions -/

/-- The words put together as a convention asks. -/
def joinWords : NamingConvention → List (List Char) → List Char
  | .camel, words => uncapitalize (words.flatMap capitalize)
  | .pascal, words => words.flatMap capitalize
  | .snake, words => join ['_'] (words.map lowercase)
  | .kebab, words => join ['-'] (words.map lowercase)

/-- The name in a convention. -/
def convert (convention : NamingConvention) (name : List Char) : Except Fault (List Char) := do
  return joinWords convention (← words name)

/-- Every name is converted, to what it is in the convention. -/
theorem convert_eq (convention : NamingConvention) (name : List Char) :
    convert convention name = .ok (convention.apply name) := by
  rw [convert, words_eq, ok_bind]
  cases convention <;> rfl

end SharpTypes.Checked

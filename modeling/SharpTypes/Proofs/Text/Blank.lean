/-
Blanks and trimming. Blanks around a text change nothing about its trimmed form, so wherever a
reader trims what it read, any amount of white space may stand there. A text with a character that
is no blank keeps that character, and everything beyond it, when it is trimmed from one side.
-/

import Mathlib.Data.List.TakeWhile
import Mathlib.Tactic.Common
import SharpTypes.Text.Class

namespace SharpTypes.Text

/-- What holds of all characters in a text is decided by going through the text, and not through all
characters that there are. -/
instance (priority := 2000) decidableForallMem {holds : Char → Prop} [DecidablePred holds]
    (text : List Char) : Decidable (∀ c ∈ text, holds c) :=
  List.decidableBAll holds text

/-- Whether a text is nothing but blanks. -/
def Blank (text : List Char) : Prop :=
  ∀ c ∈ text, isBlank c = true

instance (text : List Char) : Decidable (Blank text) :=
  inferInstanceAs (Decidable (∀ c ∈ text, isBlank c = true))

/-- Whether a text has a character that is no blank. -/
def Inked (text : List Char) : Prop :=
  ∃ c ∈ text, isBlank c = false

instance (text : List Char) : Decidable (Inked text) :=
  List.decidableBEx (fun c => isBlank c = false) text

theorem blank_nil : Blank [] := by
  intro c member
  cases member

theorem not_mem_of_blank {text : List Char} {c : Char} (blank : Blank text)
    (notBlank : isBlank c = false) : c ∉ text := by
  intro member
  rw [blank c member] at notBlank
  cases notBlank

theorem Inked.append_left {left : List Char} (inked : Inked left) (right : List Char) :
    Inked (left ++ right) := by
  obtain ⟨c, member, notBlank⟩ := inked
  exact ⟨c, List.mem_append_left right member, notBlank⟩

theorem Inked.append_right {right : List Char} (left : List Char) (inked : Inked right) :
    Inked (left ++ right) := by
  obtain ⟨c, member, notBlank⟩ := inked
  exact ⟨c, List.mem_append_right left member, notBlank⟩

theorem inked_cons {c : Char} (notBlank : isBlank c = false) (rest : List Char) :
    Inked (c :: rest) :=
  ⟨c, List.mem_cons_self, notBlank⟩

theorem blank_or_inked (text : List Char) : Blank text ∨ Inked text := by
  by_cases inked : Inked text
  · exact .inr inked
  · refine .inl fun c member => ?_
    by_contra notBlank
    exact inked ⟨c, member, by simpa using notBlank⟩

theorem all_isBlank_of_inked {text : List Char} (inked : Inked text) :
    text.all isBlank = false := by
  obtain ⟨c, member, notBlank⟩ := inked
  rw [List.all_eq_false]
  exact ⟨c, member, by simp [notBlank]⟩

/-! ### At the start -/

theorem trimStart_blank_append {blank : List Char} (isBlanks : Blank blank) (text : List Char) :
    trimStart (blank ++ text) = trimStart text :=
  List.dropWhile_append_of_pos isBlanks

theorem trimStart_of_blank {text : List Char} (blank : Blank text) : trimStart text = [] := by
  have dropped := trimStart_blank_append blank []
  rwa [List.append_nil] at dropped

theorem trimStart_cons {c : Char} (notBlank : isBlank c = false) (rest : List Char) :
    trimStart (c :: rest) = c :: rest := by
  rw [trimStart, List.dropWhile_cons_of_neg (by simp [notBlank])]

theorem trimStart_ne_nil {text : List Char} (inked : Inked text) : trimStart text ≠ [] := by
  obtain ⟨c, member, notBlank⟩ := inked
  intro empty
  have dropped := List.dropWhile_eq_nil_iff.mp empty c member
  rw [notBlank] at dropped
  cases dropped

theorem trimStart_append_of_inked {text : List Char} (inked : Inked text) (rest : List Char) :
    trimStart (text ++ rest) = trimStart text ++ rest := by
  rw [trimStart, List.dropWhile_append, if_neg]
  · rfl
  · rw [List.isEmpty_iff]
    exact trimStart_ne_nil inked

theorem trimStart_suffix (text : List Char) : trimStart text <:+ text :=
  List.dropWhile_suffix isBlank

/-- What is cut off at the start is blank. -/
theorem exists_blank_append_trimStart (text : List Char) :
    ∃ blank, Blank blank ∧ text = blank ++ trimStart text := by
  refine ⟨text.takeWhile isBlank, ?_, ?_⟩
  · intro c member
    exact List.mem_takeWhile_imp member
  · exact (List.takeWhile_append_dropWhile).symm

/-! ### At the end -/

theorem trimEnd_append_blank {blank : List Char} (isBlanks : Blank blank) (text : List Char) :
    trimEnd (text ++ blank) = trimEnd text := by
  rw [trimEnd, List.reverse_append, List.dropWhile_append_of_pos]
  · rfl
  · intro c member
    exact isBlanks c (List.mem_reverse.mp member)

theorem trimEnd_append_of_inked {rest : List Char} (text : List Char) (inked : Inked rest) :
    trimEnd (text ++ rest) = text ++ trimEnd rest := by
  have reversed : Inked rest.reverse := by
    obtain ⟨c, member, notBlank⟩ := inked
    exact ⟨c, List.mem_reverse.mpr member, notBlank⟩
  have dropped := trimStart_append_of_inked reversed text.reverse
  rw [trimStart] at dropped
  rw [trimEnd, List.reverse_append, dropped, List.reverse_append, List.reverse_reverse]
  rfl

theorem trimEnd_concat {c : Char} (notBlank : isBlank c = false) (text : List Char) :
    trimEnd (text ++ [c]) = text ++ [c] := by
  rw [trimEnd, List.reverse_append, List.reverse_singleton, List.singleton_append,
    List.dropWhile_cons_of_neg (by simp [notBlank]), List.reverse_cons, List.reverse_reverse]

/-- A text that starts with ink starts so when it is trimmed at its end. -/
theorem exists_trimEnd_cons {c : Char} (notBlank : isBlank c = false) (rest : List Char) :
    ∃ kept, trimEnd (c :: rest) = c :: kept := by
  rcases blank_or_inked rest with blank | inked
  · refine ⟨[], ?_⟩
    rw [← List.singleton_append, trimEnd_append_blank blank]
    exact trimEnd_concat notBlank []
  · exact ⟨trimEnd rest, trimEnd_append_of_inked [c] inked⟩

/-- What is cut off at the end is blank. -/
theorem exists_trimEnd_append_blank (text : List Char) :
    ∃ blank, Blank blank ∧ text = trimEnd text ++ blank := by
  obtain ⟨blank, isBlanks, same⟩ := exists_blank_append_trimStart text.reverse
  refine ⟨blank.reverse, ?_, ?_⟩
  · intro c member
    exact isBlanks c (List.mem_reverse.mp member)
  · have turned := congrArg List.reverse same
    rw [List.reverse_reverse, List.reverse_append] at turned
    exact turned

/-! ### On both sides -/

theorem trim_blank_append {blank : List Char} (isBlanks : Blank blank) (text : List Char) :
    trim (blank ++ text) = trim text := by
  rw [trim, trimStart_blank_append isBlanks]
  rfl

theorem trim_append_blank {blank : List Char} (isBlanks : Blank blank) (text : List Char) :
    trim (text ++ blank) = trim text := by
  rcases blank_or_inked text with textBlank | inked
  · rw [trim, trim, trimStart_blank_append textBlank, trimStart_of_blank isBlanks,
      trimStart_of_blank textBlank]
  · rw [trim, trimStart_append_of_inked inked, trimEnd_append_blank isBlanks]
    rfl

@[simp] theorem trim_trimStart (text : List Char) : trim (trimStart text) = trim text := by
  obtain ⟨blank, isBlanks, same⟩ := exists_blank_append_trimStart text
  conv_rhs => rw [same]
  rw [trim_blank_append isBlanks]

@[simp] theorem trim_trimEnd (text : List Char) : trim (trimEnd text) = trim text := by
  obtain ⟨blank, isBlanks, same⟩ := exists_trimEnd_append_blank text
  conv_rhs => rw [same]
  rw [trim_append_blank isBlanks]

@[simp] theorem trim_trim (text : List Char) : trim (trim text) = trim text := by
  show trim (trimEnd (trimStart text)) = trim text
  rw [trim_trimEnd, trim_trimStart]

theorem trimStart_concat {c : Char} (notBlank : isBlank c = false) (text : List Char) :
    trimStart (text ++ [c]) = trimStart text ++ [c] := by
  rcases blank_or_inked text with blank | inked
  · rw [trimStart_blank_append blank, trimStart_of_blank blank, trimStart_cons notBlank]
    rfl
  · exact trimStart_append_of_inked inked [c]

/-- A text whose last ink is known ends there once it is trimmed. -/
theorem trim_append_cons {after : List Char} {c : Char} (notBlank : isBlank c = false)
    (blankAfter : Blank after) (text : List Char) :
    trim (text ++ c :: after) = trimStart text ++ [c] := by
  have split : text ++ c :: after = text ++ [c] ++ after := by simp
  rw [split, trim_append_blank blankAfter, trim, trimStart_concat notBlank, trimEnd_concat notBlank]

/-- Only what stands around the ink is cut off. -/
theorem trim_append_concat {text after : List Char} {c : Char} (inked : Inked text)
    (middle : List Char) (notBlank : isBlank c = false) (blankAfter : Blank after) :
    trim (text ++ middle ++ c :: after) = trimStart text ++ middle ++ [c] := by
  rw [trim_append_cons notBlank blankAfter, trimStart_append_of_inked inked]

/-- Trimming only leaves out. -/
theorem mem_of_mem_trim {text : List Char} {c : Char} (member : c ∈ trim text) : c ∈ text := by
  obtain ⟨front, _, startSame⟩ := exists_blank_append_trimStart text
  obtain ⟨back, _, endSame⟩ := exists_trimEnd_append_blank (trimStart text)
  rw [startSame, endSame]
  exact List.mem_append_right _ (List.mem_append_left _ member)

/-- A text that neither starts nor ends with a blank is its own trimmed form. -/
theorem trim_of_ends {text : List Char}
    (first : ∀ c ∈ text.head?, isBlank c = false) (last : ∀ c ∈ text.getLast?, isBlank c = false) :
    trim text = text := by
  have start : trimStart text = text := by
    cases text with
    | nil => rfl
    | cons c rest => exact trimStart_cons (first c rfl) rest
  rw [trim, start]
  rcases List.eq_nil_or_concat text with rfl | ⟨before, c, rfl⟩
  · rfl
  · rw [List.concat_eq_append]
    exact trimEnd_concat (last c (by simp)) before

theorem trim_ne_nil {text : List Char} (inked : Inked text) : trim text ≠ [] := by
  obtain ⟨c, member, notBlank⟩ := inked
  intro empty
  obtain ⟨front, frontBlank, startSame⟩ := exists_blank_append_trimStart text
  obtain ⟨back, backBlank, endSame⟩ := exists_trimEnd_append_blank (trimStart text)
  rw [show trimEnd (trimStart text) = [] from empty, List.nil_append] at endSame
  rw [startSame, endSame, List.mem_append] at member
  have blank : isBlank c = true := member.elim (frontBlank c) (backBlank c)
  rw [notBlank] at blank
  cases blank

/-- What is left after trimming ends in ink. -/
theorem exists_trim_eq_concat {text : List Char} (inked : Inked text) :
    ∃ front last, trim text = front ++ [last] ∧ isBlank last = false := by
  obtain ⟨front, last, same⟩ := (List.eq_nil_or_concat (trim text)).resolve_left (trim_ne_nil inked)
  rw [List.concat_eq_append] at same
  refine ⟨front, last, same, ?_⟩
  have kept : last ∈ ((trimStart text).reverse.dropWhile isBlank).head? := by
    rw [← List.getLast?_reverse]
    show last ∈ (trim text).getLast?
    rw [same, List.getLast?_concat]
    exact rfl
  have notBlank := List.head?_dropWhile_not isBlank (trimStart text).reverse
  rw [Option.mem_def.mp kept] at notBlank
  simpa using notBlank

end SharpTypes.Text

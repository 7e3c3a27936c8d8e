/-
Attribute sections in general. Several attributes may share a section, and brackets may stand inside
of one. Whoever takes the first closing bracket for the end of a section leaves its remainder
standing, which then hides the declaration or the value behind it; and whoever cuts a list at its
commas cuts through every section that has more than one attribute.
-/

import Mathlib.Tactic.Common
import SharpTypes.Proofs.Source.DeclarationReading
import SharpTypes.Proofs.Source.MarkerReading
import SharpTypes.Proofs.Text.Standing

namespace SharpTypes.Source

open Text

/-- The brackets around attributes. -/
def Bracket.square : Bracket := ⟨'[', ']'⟩

namespace Listing

variable {marker : List Char}

/-- Behind no closing bracket in the text a word follows. -/
def IsSealed (text : List Char) : Prop :=
  ∀ front behind, text = front ++ ']' :: behind → Stops isWord (trimStart behind)

/-- An attribute section that is not the marker, and the blanks before it. Its attributes are
separated by commas. Any other comma stands in parentheses, and so does every equality sign. All
brackets match, and behind one that closes there is another sign first. -/
structure SectionText (marker : List Char) where
  spacing : Spacing
  first : List Char
  others : List (List Char)
  rounded : ∀ part ∈ first :: others, Bracket.round.Balanced (fun c => c ≠ ',' ∧ c ≠ '=') part
  squared : Bracket.square.Balanced (fun _ => True) (join [','] (first :: others))
  curled : Bracket.curly.Balanced (fun _ => True) (join [','] (first :: others))
  isSealed : IsSealed (join [','] (first :: others))
  free : Comment.IsFree ('[' :: join [','] (first :: others) ++ [']'])
  unmarked : ∀ spelling : MarkerText marker,
    ¬ spelling.text <:+: '[' :: join [','] (first :: others) ++ [']']

namespace SectionText

/-- What stands between the brackets of a section. -/
def content (text : SectionText marker) : List Char :=
  join [','] (text.first :: text.others)

/-- The text of a section. -/
def text (text : SectionText marker) : List Char :=
  text.spacing.text ++ '[' :: text.content ++ [']']

/-- There are no brackets in the section. -/
def IsFlat (text : SectionText marker) : Prop :=
  ']' ∉ text.content

/-- There is one attribute in the section, without brackets. -/
def IsPlain (text : SectionText marker) : Prop :=
  text.others = [] ∧ text.IsFlat

instance (text : SectionText marker) : Decidable text.IsFlat :=
  inferInstanceAs (Decidable (']' ∉ text.content))

instance (text : SectionText marker) : Decidable text.IsPlain :=
  inferInstanceAs (Decidable (_ ∧ _))

/-- The attributes between the first and the last one that look like values. -/
def lookalikes (text : SectionText marker) : List (List Char) :=
  (text.others.dropLast.map trim).filter isIdentifier

end SectionText

/-! ### Behind closing brackets -/

theorem stops_trimStart_of_append {text rest : List Char}
    (stops : Stops isWord (trimStart (text ++ rest))) : Stops isWord (trimStart text) := by
  rcases blank_or_inked text with blank | inked
  · rw [trimStart_of_blank blank]
    exact stops_nil isWord
  · rw [trimStart_append_of_inked inked] at stops
    exact stops_of_append stops

theorem stops_trimStart_append_closing {text : List Char} (stops : Stops isWord (trimStart text))
    (rest : List Char) : Stops isWord (trimStart (text ++ ']' :: rest)) := by
  rcases blank_or_inked text with blank | inked
  · rw [trimStart_blank_append blank, trimStart_cons (by decide)]
    exact stops_cons (by decide +kernel) rest
  · rw [trimStart_append_of_inked inked]
    exact stops_append stops (trimStart_ne_nil inked) _

theorem isSealed_of_not_mem {text : List Char} (closingFree : ']' ∉ text) : IsSealed text :=
  fun _ _ split => absurd (by simp [split]) closingFree

theorem IsSealed.of_infix {part text : List Char} (isSealed : IsSealed text)
    (inside : part <:+: text) : IsSealed part := by
  rintro front behind rfl
  obtain ⟨before, after, rfl⟩ := inside
  exact stops_trimStart_of_append (isSealed (before ++ front) (behind ++ after) (by simp))

theorem IsSealed.append_left {front text : List Char} (closingFree : ']' ∉ front)
    (isSealed : IsSealed text) : IsSealed (front ++ text) := by
  intro before behind same
  rcases List.append_eq_append_iff.mp same with ⟨others, -, rfl⟩ | ⟨others, rfl, closed⟩
  · exact isSealed others behind rfl
  · cases others with
    | nil => exact isSealed [] behind closed.symm
    | cons c others =>
      obtain ⟨rfl, -⟩ := List.cons.inj closed
      exact absurd (by simp) closingFree

/-- Where attributes are passed over inside of a sealed text, no word follows. -/
theorem IsSealed.stops_afterAttributes {text : List Char} (isSealed : IsSealed text)
    (stops : Stops isWord (trimStart text)) :
    Stops isWord (trimStart (Header.afterAttributes text)) := by
  fun_induction Header.afterAttributes text with
  | case1 text rest read inductionHypothesis =>
    obtain ⟨blank, inside, -, -, rfl⟩ := Header.afterAttribute?_eq_some_iff.mp read
    exact inductionHypothesis
      (isSealed.of_infix ⟨blank ++ '[' :: inside ++ [']'], [], by simp⟩)
      (isSealed (blank ++ '[' :: inside) rest (by simp))
  | case2 => exact stops

/-- A closing bracket that no bracket in front of it opens is not passed over. -/
theorem IsSealed.stops_afterAttributes_append {text : List Char} (isSealed : IsSealed text)
    (stops : Stops isWord (trimStart text)) (closed : text.count '[' ≤ text.count ']')
    (later : List Char) :
    Stops isWord (trimStart (Header.afterAttributes (text ++ ']' :: later))) := by
  induction size : text.length using Nat.strong_induction_on generalizing text with
  | h _ inductionHypothesis =>
    subst size
    cases read : Header.afterAttribute? (text ++ ']' :: later) with
    | none =>
      rw [Header.afterAttributes_of_none read]
      exact stops_trimStart_append_closing stops later
    | some rest =>
      obtain ⟨blank, inside, isBlanks, closingFree, same⟩ :=
        Header.afterAttribute?_eq_some_iff.mp read
      have sectionFree : ']' ∉ blank ++ '[' :: inside := by
        simp [closingFree, not_mem_of_blank isBlanks (c := ']') (by decide)]
      rw [← List.cons_append, ← List.append_assoc] at same
      by_cases inText : ']' ∈ text
      · obtain ⟨front, behind, rfl, frontFree⟩ := List.eq_append_cons_of_mem inText
        rw [List.append_assoc, List.cons_append] at same
        obtain ⟨rfl, rfl⟩ := eq_and_eq_of_append_cons frontFree sectionFree same
        rw [Header.afterAttributes_of_some read]
        refine inductionHypothesis _ ?_ (isSealed.of_infix ⟨blank ++ '[' :: inside ++ [']'], [],
          by simp⟩) (isSealed (blank ++ '[' :: inside) behind rfl) ?_ rfl
        · simp only [List.length_append, List.length_cons]
          omega
        · have opened : 0 < (blank ++ '[' :: inside).count '[' :=
            List.count_pos_iff.mpr (by simp)
          generalize blank ++ '[' :: inside = opening at closed opened sectionFree
          rw [List.count_append, List.count_append,
            List.count_eq_zero_of_not_mem sectionFree, List.count_cons_self,
            List.count_cons_of_ne (by decide)] at closed
          omega
      · -- Otherwise the section that is passed over would be opened in the text and not closed.
        obtain ⟨rfl, -⟩ := eq_and_eq_of_append_cons inText sectionFree same
        rw [List.count_eq_zero_of_not_mem inText] at closed
        have opened : 0 < (blank ++ '[' :: inside).count '[' := List.count_pos_iff.mpr (by simp)
        omega

/-! ### Values -/

theorem mem_beforeFirst {separator c : Char} {front behind : List Char} (absent : separator ∉ front)
    (different : c ≠ separator) : c ∈ beforeFirst separator (front ++ c :: behind) := by
  rw [beforeFirst, List.takeWhile_append_of_pos (forall_ne_of_not_mem absent),
    List.takeWhile_cons_of_pos (by simpa using different)]
  exact List.mem_append_right _ List.mem_cons_self

theorem mem_trim {c : Char} {text : List Char} (inside : c ∈ text) (notBlank : isBlank c = false) :
    c ∈ trim text := by
  obtain ⟨front, blankFront, sameStart⟩ := exists_blank_append_trimStart text
  obtain ⟨behind, blankBehind, sameEnd⟩ := exists_trimEnd_append_blank (trimStart text)
  rw [sameStart, sameEnd] at inside
  rcases List.mem_append.mp inside with inFront | inRest
  · exact absurd inFront (not_mem_of_blank blankFront notBlank)
  rcases List.mem_append.mp inRest with inTrim | inBehind
  · exact inTrim
  · exact absurd inBehind (not_mem_of_blank blankBehind notBlank)

/-- Without a word behind its attributes, an entry declares no value. -/
theorem value?_of_stops {entry : List Char}
    (stops : Stops isWord (trimStart (Header.afterAttributes entry))) :
    DeclarationText.value? entry = none := by
  rw [DeclarationText.value?]
  refine if_neg fun identifier => ?_
  have notBlank := stops_isBlank_trimStart (Header.afterAttributes entry)
  generalize trimStart (Header.afterAttributes entry) = text at stops notBlank identifier
  cases text with
  | nil => cases identifier
  | cons c rest =>
    by_cases sign : c = '='
    · subst sign
      cases identifier
    · obtain ⟨kept, cut⟩ := exists_trimEnd_cons (notBlank c rfl)
        (rest.takeWhile fun other => decide (other ≠ '='))
      rw [beforeFirst, List.takeWhile_cons_of_pos (by simpa using sign), trim,
        trimStart_cons (notBlank c rfl), cut] at identifier
      have word := isWord_of_isIdentifier identifier
      rw [stops c rfl] at word
      cases word

/-- An entry that has a sign in the place of its name declares no value. -/
theorem value?_of_mem {entry : List Char} {c : Char}
    (missing : Header.afterAttribute? entry = none) (inside : c ∈ beforeFirst '=' entry)
    (notBlank : isBlank c = false) (sign : (isAlphanumeric c || c == '_') = false) :
    DeclarationText.value? entry = none := by
  rw [DeclarationText.value?, Header.afterAttributes_of_none missing]
  refine if_neg fun identifier => not_mem_of_isIdentifier identifier sign (mem_trim ?_ notBlank)
  obtain ⟨blank, isBlanks, same⟩ := exists_blank_append_trimStart entry
  have unsigned : '=' ∉ blank := not_mem_of_blank isBlanks (by decide)
  rw [same, beforeFirst, List.takeWhile_append_of_pos (forall_ne_of_not_mem unsigned)] at inside
  exact (List.mem_append.mp inside).resolve_left (not_mem_of_blank isBlanks notBlank)

/-! ### Parts of a section -/

namespace SectionText

variable (text : SectionText marker)

theorem text_eq : text.text = text.spacing.text ++ '[' :: text.content ++ [']'] :=
  rfl

theorem balanced_part {part : List Char} (isPart : part ∈ text.first :: text.others) :
    Bracket.round.Balanced (· ≠ ',') part :=
  (text.rounded part isPart).mono fun _ both => both.1

/-- The part of a section up to its first comma. -/
theorem balanced_first :
    Bracket.round.Balanced (· ≠ ',') (text.spacing.text ++ '[' :: text.first) :=
  (balanced_of_blanks text.spacing.blank).append
    (.plain (by decide) (by decide) (by decide) (text.balanced_part List.mem_cons_self))

theorem balanced_closed {part : List Char} (isPart : part ∈ text.first :: text.others) :
    Bracket.round.Balanced (· ≠ ',') (part ++ [']']) :=
  (text.balanced_part isPart).append (.plain (by decide) (by decide) (by decide) .nil)

/-- A section with one attribute belongs to one piece. -/
theorem balanced_single (single : text.others = []) :
    Bracket.round.Balanced (· ≠ ',') text.text := by
  have closed := text.balanced_closed List.mem_cons_self
  rw [text.text_eq, content, single, join_singleton, List.append_assoc]
  exact (balanced_of_blanks text.spacing.blank).append
    (.plain (by decide) (by decide) (by decide) closed)

/-- In front of an equality sign a parenthesis opens. -/
theorem opening_mem {part front behind : List Char} (isPart : part ∈ text.first :: text.others)
    (split : part = front ++ '=' :: behind) : '(' ∈ front :=
  (text.rounded part isPart).opening_mem (by decide) (fun both => both.2 rfl) split

theorem isInfix_of_mem {part : List Char} (isPart : part ∈ text.first :: text.others) :
    part <:+: text.content :=
  isInfix_join_of_mem [','] isPart

theorem isAttributes_of_flat (flat : text.IsFlat) : Header.IsAttributes text.text := by
  intro rest
  refine Header.afterAttributes_of_some (Header.afterAttribute?_eq_some_iff.mpr
    ⟨text.spacing.text, text.content, text.spacing.blank, flat, ?_⟩)
  simp [SectionText.text]

/-- Brackets in a section hide whatever stands behind it. -/
theorem stops_of_not_flat (notFlat : ¬ text.IsFlat) (later : List Char) :
    Stops isWord (trimStart (Header.afterAttributes (text.text ++ later))) := by
  obtain ⟨front, behind, split, closingFree⟩ :=
    List.eq_append_cons_of_mem (not_not.mp notFlat : ']' ∈ text.content)
  have read : Header.afterAttribute? (text.text ++ later) = some (behind ++ ']' :: later) := by
    refine Header.afterAttribute?_eq_some_iff.mpr
      ⟨text.spacing.text, front, text.spacing.blank, closingFree, ?_⟩
    simp [SectionText.text, split]
  have whole : text.content = front ++ [']'] ++ behind := by
    rw [split]
    simp
  have closed := text.squared.count_le (by decide) whole
  rw [Header.afterAttributes_of_some read]
  exact (text.isSealed.of_infix ⟨front ++ [']'], [], by rw [List.append_nil]; exact whole.symm⟩)
    |>.stops_afterAttributes_append (text.isSealed front behind split) closed later

/-- A section that is cut off at a comma is no value. -/
theorem value?_first :
    DeclarationText.value? (text.spacing.text ++ '[' :: text.first) = none := by
  have closingFree : ']' ∉ text.spacing.text ++ ['['] := by
    simp [not_mem_of_blank text.spacing.blank (c := ']') (by decide)]
  have isSealed : IsSealed (text.spacing.text ++ '[' :: text.first) := by
    have whole := (text.isSealed.of_infix (text.isInfix_of_mem List.mem_cons_self)).append_left
      closingFree
    rwa [List.append_assoc] at whole
  refine value?_of_stops (isSealed.stops_afterAttributes ?_)
  rw [trimStart_append_of_stops text.spacing.blank (stops_cons (by decide) text.first)]
  exact stops_cons (by decide +kernel) text.first

/-- An attribute between two commas is taken for a value if it looks like one. -/
theorem value?_part {part : List Char} (isPart : part ∈ text.first :: text.others) :
    DeclarationText.value? part = if isIdentifier (trim part) then some (trim part) else none := by
  cases read : Header.afterAttribute? part with
  | some rest =>
    obtain ⟨blank, inside, isBlanks, -, same⟩ := Header.afterAttribute?_eq_some_iff.mp read
    have stops : Stops isWord (trimStart part) := by
      rw [same, trimStart_append_of_stops isBlanks (stops_cons (by decide) _)]
      exact stops_cons (by decide +kernel) _
    have opened : '[' ∈ trim part := mem_trim (by simp [same]) (by decide)
    rw [value?_of_stops
      ((text.isSealed.of_infix (text.isInfix_of_mem isPart)).stops_afterAttributes stops), if_neg]
    exact fun identifier => not_mem_of_isIdentifier identifier (by decide +kernel) opened
  | none =>
    by_cases signed : '=' ∈ part
    · obtain ⟨front, behind, split, absent⟩ := List.eq_append_cons_of_mem signed
      have opened := text.opening_mem isPart split
      have inFront : '(' ∈ beforeFirst '=' part := by
        rw [split, beforeFirst_append absent]
        exact opened
      have inPart : '(' ∈ trim part :=
        mem_trim (split ▸ List.mem_append_left _ opened) (by decide)
      rw [value?_of_mem read inFront (by decide) (by decide +kernel), if_neg]
      exact fun identifier => not_mem_of_isIdentifier identifier (by decide +kernel) inPart
    · have unsigned : '=' ∉ trimStart part := fun member =>
        signed ((List.dropWhile_sublist _).subset member)
      rw [DeclarationText.value?, Header.afterAttributes_of_none read,
        beforeFirst_of_not_mem unsigned, trim_trimStart]

theorem lookalikes_eq :
    text.lookalikes = text.others.dropLast.filterMap DeclarationText.value? := by
  have read (part : List Char) (isPart : part ∈ text.others.dropLast) :
      DeclarationText.value? part = Option.guard isIdentifier (trim part) := by
    rw [text.value?_part (List.mem_cons_of_mem _ (List.mem_of_mem_dropLast isPart)), Option.guard]
  rw [List.filterMap_congr read, lookalikes, ← List.filterMap_eq_filter, List.filterMap_map]
  rfl

theorem lookalikes_of_single (single : text.others = []) : text.lookalikes = [] := by
  rw [lookalikes, single]
  rfl

/-- The end of a section behind a comma hides whatever stands behind it. -/
theorem value?_last {last : List Char} (isLast : text.others.getLast? = some last)
    (later : List Char) : DeclarationText.value? (last ++ ']' :: later) = none := by
  obtain ⟨middle, sameOthers⟩ := List.getLast?_eq_some_iff.mp isLast
  have isPart : last ∈ text.first :: text.others := by
    rw [sameOthers]
    simp
  have whole : text.content = join [','] (text.first :: middle) ++ [','] ++ last := by
    rw [content, sameOthers, ← List.cons_append,
      join_append [','] (List.cons_ne_nil _ _) (List.cons_ne_nil _ _), join_singleton]
  have isSealed := text.isSealed.of_infix (text.isInfix_of_mem isPart)
  by_cases stops : Stops isWord (trimStart last)
  · exact value?_of_stops (isSealed.stops_afterAttributes_append stops
      (text.squared.count_le (by decide) whole) later)
  · -- The attribute starts with a word, and a sign stands in the place of a name.
    have missing : Header.afterAttribute? (last ++ ']' :: later) = none := by
      rw [Option.eq_none_iff_forall_not_mem]
      intro rest found
      obtain ⟨blank, inside, isBlanks, -, same⟩ := Header.afterAttribute?_eq_some_iff.mp found
      have opened := congrArg trimStart same
      rw [trimStart_append_of_stops isBlanks (stops_cons (by decide) _)] at opened
      exact stops (stops_trimStart_of_append (opened ▸ stops_cons (by decide +kernel) _))
    by_cases signed : '=' ∈ last
    · obtain ⟨front, behind, split, absent⟩ := List.eq_append_cons_of_mem signed
      have inFront : '(' ∈ beforeFirst '=' (last ++ ']' :: later) := by
        rw [split, List.append_assoc, List.cons_append, beforeFirst_append absent]
        exact text.opening_mem isPart split
      exact value?_of_mem missing inFront (by decide) (by decide +kernel)
    · exact value?_of_mem missing (mem_beforeFirst signed (by decide)) (by decide)
        (by decide +kernel)

end SectionText

end Listing

end SharpTypes.Source

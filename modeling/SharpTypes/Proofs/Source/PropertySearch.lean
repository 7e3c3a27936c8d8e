/-
The search for properties, in any text. What is read as a property is the keyword `public` with
nothing but modifiers in front of it, and then characters that may stand in a type, up to plain
accessors. So nothing is read in a text where accessors never follow on `public` in this way. The
search goes on with whatever stands behind, braces included.
-/

import Mathlib.Tactic.Common
import SharpTypes.Proofs.Source.PropertyReading

namespace SharpTypes.Source.Property

open Text Listing

/-! ### Accessors -/

/-- Accessors without bodies. -/
def plainAccessors (opening getting setting : Spacing) : List Char :=
  '{' :: opening.text ++ "get;".toList ++ getting.text ++ "set;".toList ++ setting.text ++ ['}']

/-- The text starts with accessors without bodies. -/
def OpensAccessors (text : List Char) : Prop :=
  ∃ opening getting setting, plainAccessors opening getting setting <+: text

theorem exists_of_afterToken? {token text rest : List Char}
    (found : afterToken? token text = some rest) :
    ∃ spacing : Spacing, text = token ++ spacing.text ++ rest := by
  obtain ⟨later, given, rfl⟩ := Option.map_eq_some_iff.mp found
  obtain ⟨blank, isBlanks, same⟩ := exists_blank_append_trimStart later
  refine ⟨⟨blank, isBlanks⟩, ?_⟩
  rw [dropStart?_eq_some_iff.mp given, List.append_assoc, ← same]

theorem opensAccessors_of_afterAccessors? {text rest : List Char}
    (found : afterAccessors? text = some rest) : OpensAccessors text := by
  obtain ⟨third, found, closed⟩ := Option.bind_eq_some_iff.mp found
  obtain ⟨second, found, settable⟩ := Option.bind_eq_some_iff.mp found
  obtain ⟨first, opened, gettable⟩ := Option.bind_eq_some_iff.mp found
  obtain ⟨opening, sameOpened⟩ := exists_of_afterToken? opened
  obtain ⟨getting, sameGettable⟩ := exists_of_afterToken? gettable
  obtain ⟨setting, sameSettable⟩ := exists_of_afterToken? settable
  refine ⟨opening, getting, setting, rest, ?_⟩
  rw [sameOpened, sameGettable, sameSettable, dropStart?_eq_some_iff.mp closed, plainAccessors]
  simp only [List.append_assoc, List.cons_append, List.nil_append]

theorem OpensAccessors.exists_cons {text : List Char} (opens : OpensAccessors text) :
    ∃ rest, text = '{' :: rest ∧ "get;".toList <+: trimStart rest := by
  obtain ⟨opening, getting, setting, after, rfl⟩ := opens
  have getter : Stops isBlank ("get;".toList ++
      (getting.text ++ ("set;".toList ++ (setting.text ++ '}' :: after)))) :=
    stops_cons (by decide) _
  refine ⟨opening.text ++ ("get;".toList ++
    (getting.text ++ ("set;".toList ++ (setting.text ++ '}' :: after)))), ?_, ?_⟩
  · simp only [plainAccessors, List.append_assoc, List.cons_append, List.nil_append]
  · rw [trimStart_append_of_stops opening.blank getter]
    exact List.prefix_append _ _

/-- Accessors end at the first closing brace. -/
theorem OpensAccessors.of_append {text rest : List Char} (opens : OpensAccessors (text ++ rest))
    (closed : '}' ∈ text) : OpensAccessors text := by
  obtain ⟨opening, getting, setting, isPrefix⟩ := opens
  refine ⟨opening, getting, setting, ?_⟩
  rcases List.prefix_or_prefix_of_prefix isPrefix (List.prefix_append text rest) with
    inside | outside
  · exact inside
  rcases List.prefix_concat_iff.mp outside with whole | shorter
  · exact whole ▸ List.prefix_rfl
  · have notBlank : isBlank '}' = false := by decide
    have unclosed : '}' ∉ '{' :: opening.text ++ "get;".toList ++ getting.text ++
        "set;".toList ++ setting.text := by
      simp only [List.cons_append, List.mem_append, List.mem_cons, not_or]
      exact ⟨by decide, ⟨⟨⟨not_mem_of_blank opening.blank notBlank, by decide⟩,
        not_mem_of_blank getting.blank notBlank⟩, by decide⟩,
        not_mem_of_blank setting.blank notBlank⟩
    exact absurd (shorter.subset closed) unclosed

/-! ### What is read as a property -/

/-- Behind the characters of a type, the text goes on with accessors without bodies. -/
def LeadsToAccessors (text : List Char) : Prop :=
  ∃ types rest, text = types ++ rest ∧ IsTypeText types ∧ OpensAccessors rest

theorem LeadsToAccessors.append {front text : List Char} (isTypeText : IsTypeText front)
    (leads : LeadsToAccessors text) : LeadsToAccessors (front ++ text) := by
  obtain ⟨types, rest, rfl, isTypes, opens⟩ := leads
  exact ⟨front ++ types, rest, (List.append_assoc ..).symm, isTypeText.append isTypes, opens⟩

theorem leadsToAccessors_of_nameAndAccessors? {text name rest : List Char}
    (found : nameAndAccessors? text = some (name, rest)) : LeadsToAccessors text := by
  cases text with
  | nil => cases found
  | cons c later =>
    rw [nameAndAccessors?] at found
    split at found
    · next blankFirst =>
      obtain ⟨⟨word, behind⟩, named, found⟩ := Option.bind_eq_some_iff.mp found
      obtain ⟨after, closed, -⟩ := Option.map_eq_some_iff.mp found
      obtain ⟨sameNamed, isWord⟩ := eq_of_word? named
      obtain ⟨before, blankBefore, sameBefore⟩ := exists_blank_append_trimStart later
      obtain ⟨between, blankBetween, sameBetween⟩ := exists_blank_append_trimStart behind
      have gap : IsTypeText (c :: before) :=
        isTypeText_of_blank (List.forall_mem_cons.mpr ⟨blankFirst, blankBefore⟩)
      refine ⟨c :: before ++ word ++ between, trimStart behind, ?_,
        (gap.append (isTypeText_of_isWordText isWord)).append (isTypeText_of_blank blankBetween),
        opensAccessors_of_afterAccessors? closed⟩
      rw [List.append_assoc, ← sameBetween, List.append_assoc, ← sameNamed, List.cons_append,
        ← sameBefore]
    · cases found

theorem leadsToAccessors_of_typeAndName? {text : List Char}
    {found : List Char × List Char × List Char} (read : typeAndName? text = some found) :
    LeadsToAccessors text := by
  induction text generalizing found with
  | nil => cases read
  | cons c later inductionHypothesis =>
    rw [typeAndName?] at read
    split at read
    · next typeCharacter =>
      have isTypeText : IsTypeText [c] := List.forall_mem_singleton.mpr typeCharacter
      split at read
      · next given => exact .append isTypeText (leadsToAccessors_of_nameAndAccessors? given)
      · obtain ⟨_, given, -⟩ := Option.map_eq_some_iff.mp read
        exact .append isTypeText (inductionHypothesis given)
    · cases read

/-- Before the start of a type stand blanks first, and then at most modifiers and blanks. -/
theorem exists_of_mem_starts {passed : List (List Char)} {text : List Char} {start : Start}
    (isStart : start ∈ starts passed text) :
    Stops isWord text ∧ ∃ front, text = front ++ start.text ∧ IsTypeText front := by
  fun_induction starts passed text with
  | case1 => cases isStart
  | case2 passed text after blanks positive inductionHypothesis =>
    obtain ⟨blank, isBlanks, same⟩ := exists_blank_append_trimStart text
    have sizes := congrArg List.length same
    rw [List.length_append] at sizes
    have notEmpty : blank ≠ [] := by
      rintro rfl
      exact positive (Nat.sub_eq_zero_of_le (by simpa using sizes.le))
    refine ⟨same ▸ stops_gap_append isBlanks notEmpty _, ?_⟩
    rcases List.mem_append.mp isStart with deeper | here
    · split at deeper
      · next modifier rest found =>
        obtain ⟨known, isKnown, holds⟩ := List.exists_of_findSome?_eq_some found
        obtain ⟨later, given, pairSame⟩ := Option.map_eq_some_iff.mp holds
        obtain ⟨rfl, rfl⟩ := Prod.mk.inj pairSame
        obtain ⟨-, front, sameRest, isTypeText⟩ := inductionHypothesis known later found deeper
        refine ⟨blank ++ known ++ front, ?_, ((isTypeText_of_blank isBlanks).append
          (isTypeText_of_isWordText (isWordText_of_mem_modifiers known isKnown).2)).append
            isTypeText⟩
        rw [List.append_assoc, List.append_assoc, ← sameRest, ← dropStart?_eq_some_iff.mp given]
        exact same
      · cases deeper
    · obtain ⟨fewer, isFewer, rfl⟩ := List.mem_map.mp here
      refine ⟨text.take (fewer + 1), (List.take_append_drop _ text).symm, ?_⟩
      have bound : fewer + 1 ≤ blank.length := by
        have isBlank : fewer < text.length - (trimStart text).length :=
          List.mem_range.mp (List.mem_reverse.mp isFewer)
        omega
      rw [same, List.take_append_of_le_length bound]
      exact fun c member => isTypeText_of_blank isBlanks c (List.mem_of_mem_take member)

/-- In front of the keyword stand at most modifiers, with blanks behind each. -/
theorem exists_of_untilPublic? {passed before : List (List Char)} {text rest : List Char}
    (found : untilPublic? passed text = some (before, rest)) :
    ∃ front, text = front ++ ("public".toList ++ rest) ∧ endsInWord front = false ∧
      ∀ c ∈ front, isWord c = true ∨ isBlank c = true := by
  fun_induction untilPublic? passed text with
  | case1 passed text modifier later given inductionHypothesis =>
    obtain ⟨known, isKnown, holds⟩ := List.exists_of_findSome?_eq_some given
    obtain ⟨behind, read, pairSame⟩ := Option.map_eq_some_iff.mp holds
    obtain ⟨rfl, rfl⟩ := Prod.mk.inj pairSame
    obtain ⟨gap, isBlanks, notEmpty, same⟩ := exists_of_afterKeyword? read
    obtain ⟨front, sameBehind, ends, plain⟩ := inductionHypothesis found
    have isWordText := (isWordText_of_mem_modifiers known isKnown).2
    refine ⟨known ++ gap ++ front, ?_, ?_, ?_⟩
    · rw [same, sameBehind]
      simp only [List.append_assoc]
    · by_cases empty : front = []
      · rw [empty, List.append_nil, endsInWord_append notEmpty]
        exact endsInWord_of_blank isBlanks
      · rw [endsInWord_append empty]
        exact ends
    · exact List.forall_mem_append.mpr ⟨List.forall_mem_append.mpr
        ⟨fun c member => .inl (isWordText c member), fun c member => .inr (isBlanks c member)⟩,
        plain⟩
  | case2 passed text _ =>
    obtain ⟨later, given, pairSame⟩ := Option.map_eq_some_iff.mp found
    obtain ⟨-, rfl⟩ := Prod.mk.inj pairSame
    refine ⟨[], ?_, rfl, List.forall_mem_nil _⟩
    rw [List.nil_append, dropStart?_eq_some_iff.mp given]

/-- What is read as a property is the whole word `public`, with modifiers in front of it, and goes
on as far as its accessors. -/
theorem exists_of_property? {text : List Char} {found : Written × List Char}
    (read : property? text = some found) :
    ∃ front behind, text = front ++ ("public".toList ++ behind) ∧ endsInWord front = false ∧
      (∀ c ∈ front, isWord c = true ∨ isBlank c = true) ∧ Stops isWord behind ∧
      LeadsToAccessors behind := by
  obtain ⟨⟨before, opened⟩, atPublic, read⟩ := Option.bind_eq_some_iff.mp read
  obtain ⟨start, isStart, holds⟩ := List.exists_of_findSome?_eq_some read
  obtain ⟨_, given, -⟩ := Option.map_eq_some_iff.mp holds
  obtain ⟨front, same, ends, plain⟩ := exists_of_untilPublic? atPublic
  obtain ⟨stops, gap, sameOpened, isTypeText⟩ := exists_of_mem_starts isStart
  refine ⟨front, opened, same, ends, plain, stops, ?_⟩
  rw [sameOpened]
  exact .append isTypeText (leadsToAccessors_of_typeAndName? given)

/-! ### What the search passes over -/

theorem propertiesFrom_of_none {c : Char} {later : List Char} {inWord : Bool}
    (missing : inWord = false → property? (c :: later) = none) :
    propertiesFrom inWord (c :: later) = propertiesFrom (isWord c) later := by
  conv_lhs => rw [propertiesFrom]
  split
  · next found =>
    cases inWord with
    | true => cases found
    | false =>
      rw [if_neg Bool.false_ne_true, missing rfl] at found
      cases found
  · rfl

/-- Where no property starts, outside of words, the search goes on behind the text. -/
theorem propertiesFrom_passed (before text rest : List Char)
    (missing : ∀ front back, text = front ++ back → back ≠ [] →
      endsInWord (before ++ front) = false → property? (back ++ rest) = none) :
    propertiesFrom (endsInWord before) (text ++ rest) =
      propertiesFrom (endsInWord (before ++ text)) rest := by
  induction text generalizing before with
  | nil => rw [List.nil_append, List.append_nil]
  | cons c later inductionHypothesis =>
    have here : endsInWord before = false → property? (c :: (later ++ rest)) = none := by
      intro outside
      exact missing [] (c :: later) rfl (List.cons_ne_nil c later) (by rwa [List.append_nil])
    have last : endsInWord (before ++ [c]) = isWord c := endsInWord_append (List.cons_ne_nil c []) _
    have passed := inductionHypothesis (before ++ [c]) fun front back same notEmpty outside =>
      missing (c :: front) back (congrArg (List.cons c) same) notEmpty (by simpa using outside)
    rw [List.cons_append, propertiesFrom_of_none here, ← last, passed, List.append_assoc]
    rfl

/-- The properties in a text are the given ones, whatever comes after it. -/
def Reads (text : List Char) (found : List Written) : Prop :=
  ∀ rest, propertiesFrom false (text ++ rest) = found ++ propertiesFrom false rest

theorem Reads.append {left right : List Char} {foundLeft foundRight : List Written}
    (readsLeft : Reads left foundLeft) (readsRight : Reads right foundRight) :
    Reads (left ++ right) (foundLeft ++ foundRight) := by
  intro rest
  rw [List.append_assoc, readsLeft, readsRight, List.append_assoc]

theorem reads_blank {blank : List Char} (isBlanks : Blank blank) : Reads blank [] :=
  propertiesFrom_blank isBlanks

theorem reads_property (property : PropertyText) : Reads property.text [readingOf property] :=
  fun rest => propertiesFrom_of_some (property?_append property rest)

theorem Reads.properties_eq {text : List Char} {found : List Written} (reads : Reads text found) :
    properties text = found := by
  have whole := reads []
  rwa [List.append_nil, propertiesFrom, List.append_nil] at whole

end SharpTypes.Source.Property

/-
Markers are found where they are written and nowhere else. Removing comments leaves a listing as it
is. The search for markers passes over inert texts and over all attributes that spell no marker, and
behind a spelling of the marker it goes on right after the closing bracket.
-/

import Mathlib.Tactic.Common
import SharpTypes.Proofs.Source.Inert

namespace SharpTypes.Source

open Text Listing

/-! ### Comments -/

namespace Comment

theorem strip_cons {c : Char} (notSlash : c ≠ '/') (rest : List Char) :
    strip (c :: rest) = c :: strip rest := by
  rw [strip]
  · rintro later rfl _
    exact notSlash rfl
  · rintro later rfl _
    exact notSlash rfl

theorem strip_slash {c : Char} (notSlash : c ≠ '/') (notStar : c ≠ '*') (rest : List Char) :
    strip ('/' :: c :: rest) = '/' :: strip (c :: rest) := by
  rw [strip]
  · rintro later _ same
    exact notSlash (List.cons.inj same).1
  · rintro later _ same
    exact notStar (List.cons.inj same).1

/-- Removing comments leaves the text as it is, whatever comes after it. -/
def Keeps (text : List Char) : Prop :=
  ∀ rest, strip (text ++ rest) = text ++ strip rest

theorem keeps_nil : Keeps [] := fun _ => rfl

theorem Keeps.append {left right : List Char} (keepsLeft : Keeps left) (keepsRight : Keeps right) :
    Keeps (left ++ right) := by
  intro rest
  rw [List.append_assoc, keepsLeft, keepsRight, List.append_assoc]

theorem keeps_of_not_mem {text : List Char} (slashFree : '/' ∉ text) : Keeps text := by
  intro rest
  induction text with
  | nil => rfl
  | cons c later inductionHypothesis =>
    rw [List.mem_cons, not_or] at slashFree
    rw [List.cons_append, strip_cons (Ne.symm slashFree.1), inductionHypothesis slashFree.2]
    rfl

theorem keeps_of_inert {text : List Char} (inert : Inert text) : Keeps text := by
  refine keeps_of_not_mem ?_
  induction inert with
  | nil => exact List.not_mem_nil
  | plain notSlash _ _ inductionHypothesis =>
    exact List.not_mem_cons_of_ne_of_not_mem (Ne.symm notSlash) inductionHypothesis
  | brackets _ inductionHypothesis =>
    exact List.not_mem_cons_of_ne_of_not_mem (by decide)
      (List.not_mem_cons_of_ne_of_not_mem (by decide) inductionHypothesis)

/-- The text holds no sign that opens a comment. -/
def IsFree (text : List Char) : Prop :=
  ¬ ['/', '/'] <:+: text ∧ ¬ ['/', '*'] <:+: text

theorem IsFree.of_infix {part text : List Char} (free : IsFree text) (inside : part <:+: text) :
    IsFree part :=
  ⟨fun line => free.1 (line.trans inside), fun block => free.2 (block.trans inside)⟩

theorem isFree_of_not_mem {text : List Char} (slashFree : '/' ∉ text) : IsFree text :=
  ⟨fun line => slashFree (line.subset List.mem_cons_self),
    fun block => slashFree (block.subset List.mem_cons_self)⟩

/-- A text that opens no comment stays up to a sign behind it that no comment sign can reach over.
-/
theorem keeps_closed {text : List Char} {closing : Char} (notSlash : closing ≠ '/')
    (notStar : closing ≠ '*') (free : IsFree text) : Keeps (text ++ [closing]) := by
  intro rest
  induction text with
  | nil => exact strip_cons notSlash rest
  | cons c later inductionHypothesis =>
    have kept := inductionHypothesis (free.of_infix (List.suffix_cons c later).isInfix)
    by_cases slash : c = '/'
    · subst slash
      cases later with
      | nil => exact (strip_slash notSlash notStar rest).trans (congrArg _ kept)
      | cons d others =>
        have notLine : d ≠ '/' := by
          rintro rfl
          exact free.1 ⟨[], others, rfl⟩
        have notBlock : d ≠ '*' := by
          rintro rfl
          exact free.2 ⟨[], others, rfl⟩
        exact (strip_slash notLine notBlock _).trans (congrArg _ kept)
    · exact (strip_cons slash _).trans (congrArg _ kept)

end Comment

namespace Marker

variable {marker : List Char}

/-! ### The search for markers -/

theorem occurrencesFrom_of_some {text rest : List Char} (found : after? marker text = some rest)
    (offset : Nat) : ∃ next, occurrencesFrom marker offset text =
      ⟨offset, rest⟩ :: occurrencesFrom marker next rest := by
  cases text with
  | nil => cases length_after?_lt found
  | cons c later =>
    rw [occurrencesFrom]
    split
    · next other foundToo =>
      rw [found] at foundToo
      obtain rfl := Option.some.inj foundToo
      exact ⟨_, rfl⟩
    · next missing =>
      rw [found] at missing
      cases missing

theorem occurrencesFrom_of_none {c : Char} {later : List Char}
    (missing : after? marker (c :: later) = none) (offset : Nat) :
    occurrencesFrom marker offset (c :: later) =
      occurrencesFrom marker (offset + c.utf8Size) later := by
  conv_lhs => rw [occurrencesFrom]
  split
  · next found =>
    rw [missing] at found
    cases found
  · rfl

/-- What stands behind each marker of a text. -/
def rests (marker text : List Char) : List (List Char) :=
  (occurrences marker text).map Occurrence.rest

/-- Where a text starts does not matter for what stands behind its markers. -/
theorem map_rest_occurrencesFrom (marker : List Char) (offset : Nat) (text : List Char) :
    (occurrencesFrom marker offset text).map Occurrence.rest = rests marker text := by
  rw [rests, occurrences]
  generalize 0 = other
  induction size : text.length using Nat.strong_induction_on generalizing text offset other with
  | h _ inductionHypothesis =>
    subst size
    cases text with
    | nil => simp only [occurrencesFrom]
    | cons c later =>
      cases read : after? marker (c :: later) with
      | none =>
        rw [occurrencesFrom_of_none read, occurrencesFrom_of_none read]
        exact inductionHypothesis _ (Nat.lt_succ_self _) _ _ _ rfl
      | some rest =>
        obtain ⟨next, same⟩ := occurrencesFrom_of_some read offset
        obtain ⟨nextOther, sameOther⟩ := occurrencesFrom_of_some read other
        rw [same, sameOther, List.map_cons, List.map_cons,
          inductionHypothesis _ (length_after?_lt read) next rest nextOther rfl]

theorem rests_nil (marker : List Char) : rests marker [] = [] := by
  rw [rests, occurrences, occurrencesFrom, List.map_nil]

theorem rests_of_some {text rest : List Char} (found : after? marker text = some rest) :
    rests marker text = rest :: rests marker rest := by
  obtain ⟨next, same⟩ := occurrencesFrom_of_some found 0
  rw [rests, occurrences, same, List.map_cons, map_rest_occurrencesFrom]

theorem rests_of_none {c : Char} {later : List Char} (missing : after? marker (c :: later) = none) :
    rests marker (c :: later) = rests marker later := by
  rw [rests, occurrences, occurrencesFrom_of_none missing, map_rest_occurrencesFrom]

/-- The search for markers passes over the text, whatever comes after it. -/
def Passes (marker text : List Char) : Prop :=
  ∀ rest, rests marker (text ++ rest) = rests marker rest

theorem Passes.append {left right : List Char} (passesLeft : Passes marker left)
    (passesRight : Passes marker right) : Passes marker (left ++ right) := by
  intro rest
  rw [List.append_assoc, passesLeft, passesRight]

theorem after?_of_ne {c : Char} (notOpening : c ≠ '[') (rest : List Char) :
    after? marker (c :: rest) = none := by
  unfold after?
  split
  · next same => exact absurd (List.cons.inj same).1 notOpening
  · rfl

/-- The search passes over a text if none of its brackets opens a marker. -/
theorem passes_of_forall {text : List Char}
    (missing : ∀ front behind, text = front ++ '[' :: behind →
      ∀ rest, after? marker ('[' :: (behind ++ rest)) = none) : Passes marker text := by
  intro rest
  induction text with
  | nil => rfl
  | cons c later inductionHypothesis =>
    have here : after? marker (c :: (later ++ rest)) = none := by
      by_cases opening : c = '['
      · subst opening
        exact missing [] later rfl rest
      · exact after?_of_ne opening _
    rw [List.cons_append, rests_of_none here]
    exact inductionHypothesis fun front behind split =>
      missing (c :: front) behind (congrArg (c :: ·) split)

theorem passes_of_not_mem {text : List Char} (bracketFree : '[' ∉ text) : Passes marker text :=
  passes_of_forall fun _ _ split => absurd (by simp [split]) bracketFree

/-! ### The name of a marker -/

/-- The name can stand between brackets: it is not empty, closes no bracket and opens no comment. -/
structure IsName (marker : List Char) : Prop where
  nonempty : marker ≠ []
  unclosed : ']' ∉ marker
  slashFree : '/' ∉ marker

theorem isName_of_isIdentifier (isMarker : isIdentifier marker = true) : IsName marker := by
  refine ⟨?_, not_mem_of_isIdentifier isMarker (by decide +kernel),
    not_mem_of_isIdentifier isMarker (by decide +kernel)⟩
  rintro rfl
  cases isMarker

/-! ### Spellings of a marker -/

/-- What stands behind the name in a spelling of the marker. -/
def behindName (spelling : MarkerText marker) : List Char :=
  (if spelling.isSuffixed then "Attribute".toList else []) ++ (spelling.nameSpacing.text ++
    (spelling.argumentsText ++ spelling.after.text))

theorem content_eq (spelling : MarkerText marker) :
    spelling.content = spelling.before.text ++ (marker ++ behindName spelling) := by
  unfold MarkerText.content behindName
  simp only [List.append_assoc]

theorem dropWhile_closing {arguments : List Char} (unclosed : ')' ∉ arguments ∧ ']' ∉ arguments)
    (rest : List Char) :
    (arguments ++ ')' :: rest).dropWhile (fun c => decide (c ≠ ')') && decide (c ≠ ']')) =
      ')' :: rest := by
  rw [List.dropWhile_append_of_pos]
  · exact List.dropWhile_cons_of_neg (by decide)
  · intro c member
    have notRound : c ≠ ')' := fun same => unclosed.1 (same ▸ member)
    have notSquare : c ≠ ']' := fun same => unclosed.2 (same ▸ member)
    simp [notRound, notSquare]

theorem afterArguments?_append {arguments : List Char}
    (unclosed : ')' ∉ arguments ∧ ']' ∉ arguments) (rest : List Char) :
    afterArguments? ('(' :: (arguments ++ ')' :: rest)) = some rest := by
  rw [afterArguments?]
  simp only [dropWhile_closing unclosed]

theorem afterArguments?_of_ne {c : Char} (notOpening : c ≠ '(') (rest : List Char) :
    afterArguments? (c :: rest) = none := by
  unfold afterArguments?
  split
  · next same => exact absurd (List.cons.inj same).1 notOpening
  · rfl

theorem exists_of_afterArguments? {text rest : List Char}
    (found : afterArguments? text = some rest) : ∃ arguments,
      text = '(' :: arguments ++ ')' :: rest ∧ ')' ∉ arguments ∧ ']' ∉ arguments := by
  unfold afterArguments? at found
  split at found
  · next inside =>
    split at found
    · next after closed =>
      obtain rfl := Option.some.inj found
      let belongs := fun c => decide (c ≠ ')') && decide (c ≠ ']')
      have cut : inside = inside.takeWhile belongs ++ ')' :: after := by
        rw [← closed]
        exact List.takeWhile_append_dropWhile.symm
      have absent {c : Char} (stop : belongs c = false) : c ∉ inside.takeWhile belongs := by
        intro member
        rw [List.mem_takeWhile_imp member] at stop
        cases stop
      exact ⟨inside.takeWhile belongs, congrArg _ cut, absent (by decide), absent (by decide)⟩
    · cases found
  · cases found

/-- The closing bracket is reached over blanks, arguments and blanks. -/
theorem trimStart_afterArguments? (spelling : MarkerText marker) (rest : List Char) :
    let behind := trimStart (spelling.nameSpacing.text ++ (spelling.argumentsText ++
      (spelling.after.text ++ ']' :: rest)))
    trimStart ((afterArguments? behind).getD behind) = ']' :: rest := by
  have bracket : Stops isBlank (']' :: rest) := stops_cons (by decide) rest
  have closing : trimStart (spelling.after.text ++ ']' :: rest) = ']' :: rest :=
    trimStart_append_of_stops spelling.after.blank bracket
  rw [MarkerText.argumentsText]
  dsimp only
  cases spelling.arguments with
  | none =>
    rw [Option.map_none, Option.getD_none, List.nil_append,
      trimStart_blank_append spelling.nameSpacing.blank, closing, afterArguments?_of_ne (by decide),
      Option.getD_none]
    exact trimStart_of_stops bracket
  | some arguments =>
    have split : '(' :: arguments.text ++ [')'] ++ (spelling.after.text ++ ']' :: rest) =
        '(' :: (arguments.text ++ ')' :: (spelling.after.text ++ ']' :: rest)) := by
      simp
    rw [Option.map_some, Option.getD_some, split, trimStart_append_of_stops
      spelling.nameSpacing.blank (stops_cons (by decide) _),
      afterArguments?_append arguments.unclosed, Option.getD_some]
    exact closing

theorem stops_argumentsText (spelling : MarkerText marker) {rest : List Char}
    (stops : Stops isWord rest) : Stops isWord (spelling.argumentsText ++ rest) := by
  rw [MarkerText.argumentsText]
  cases spelling.arguments with
  | none => exact stops
  | some arguments => exact stops_cons (by decide +kernel) _

/-- Behind the name of a spelling everything up to its closing bracket is read. -/
theorem afterName?_append (spelling : MarkerText marker) (rest : List Char) :
    afterName? (behindName spelling ++ ']' :: rest) = some rest := by
  have reached := trimStart_afterArguments? spelling rest
  have stops : Stops isWord (spelling.nameSpacing.text ++ (spelling.argumentsText ++
      (spelling.after.text ++ ']' :: rest))) :=
    stops_blank_append spelling.nameSpacing.blank (stops_argumentsText spelling
      (stops_blank_append spelling.after.blank (stops_cons (by decide +kernel) rest)))
  rw [behindName, List.append_assoc, List.append_assoc, List.append_assoc, afterName?]
  generalize spelling.nameSpacing.text ++ (spelling.argumentsText ++
    (spelling.after.text ++ ']' :: rest)) = behind at reached stops
  have suffixed : (dropStart? "Attribute".toList
      ((if spelling.isSuffixed then "Attribute".toList else []) ++ behind)).getD
        ((if spelling.isSuffixed then "Attribute".toList else []) ++ behind) = behind := by
    cases spelling.isSuffixed with
    | true => rw [if_pos rfl, dropStart?_append, Option.getD_some]
    | false =>
      have different : behind.head? ≠ some 'A' := by
        intro same
        have noWord := stops 'A' same
        revert noWord
        decide +kernel
      rw [if_neg Bool.false_ne_true, List.nil_append,
        dropStart?_eq_none_of_head (c := 'A') rfl different, Option.getD_none]
  dsimp only at reached ⊢
  simp only [suffixed, reached]

/-- What is read as arguments are arguments, and without them nothing is read. -/
theorem exists_arguments (text : List Char) : ∃ arguments,
    text = arguments ++ (afterArguments? text).getD text ∧
      (arguments = [] ∨ ∃ inside, arguments = '(' :: inside ++ [')'] ∧
        ')' ∉ inside ∧ ']' ∉ inside) := by
  cases read : afterArguments? text with
  | none => exact ⟨[], rfl, .inl rfl⟩
  | some rest =>
    obtain ⟨inside, same, unclosed⟩ := exists_of_afterArguments? read
    refine ⟨'(' :: inside ++ [')'], ?_, .inr ⟨inside, rfl, unclosed⟩⟩
    rw [same, Option.getD_some, List.append_assoc]
    rfl

/-- Arguments that open no comment are those of a spelling. -/
theorem exists_argumentsText {arguments : List Char} (free : Comment.IsFree arguments)
    (isArguments : arguments = [] ∨ ∃ inside, arguments = '(' :: inside ++ [')'] ∧
      ')' ∉ inside ∧ ']' ∉ inside) :
    ∃ given : Option MarkerArguments,
      (given.map fun list => '(' :: list.text ++ [')']).getD [] = arguments := by
  rcases isArguments with rfl | ⟨inside, rfl, unclosed⟩
  · exact ⟨none, rfl⟩
  · exact ⟨some ⟨inside, unclosed, free.of_infix ⟨['('], [')'], rfl⟩⟩, rfl⟩

/-- What is read behind the name of a marker is a spelling, unless it opens a comment. -/
theorem exists_of_afterName? {text rest : List Char} (found : afterName? text = some rest) :
    ∃ inner, text = inner ++ ']' :: rest ∧ ']' ∉ inner ∧ (Comment.IsFree inner →
      ∀ before : Spacing, ∃ spelling : MarkerText marker,
        spelling.before = before ∧ behindName spelling = inner) := by
  have suffixed : ∃ isSuffixed : Bool, text = (if isSuffixed then "Attribute".toList else []) ++
      (dropStart? "Attribute".toList text).getD text := by
    cases read : dropStart? "Attribute".toList text with
    | none => exact ⟨false, rfl⟩
    | some later => exact ⟨true, dropStart?_eq_some_iff.mp read⟩
  rw [afterName?] at found
  obtain ⟨isSuffixed, sameText⟩ := suffixed
  generalize (dropStart? "Attribute".toList text).getD text = body at found sameText
  obtain ⟨nameBlank, isNameBlank, sameBody⟩ := exists_blank_append_trimStart body
  generalize trimStart body = behind at found sameBody
  obtain ⟨arguments, sameBehind, isArguments⟩ := exists_arguments behind
  generalize (afterArguments? behind).getD behind = closing at found sameBehind
  obtain ⟨blank, isBlank, sameClosing⟩ := exists_blank_append_trimStart closing
  have closed : trimStart closing = ']' :: rest := by
    split at found
    · next after same => rw [same, Option.some.inj found]
    · cases found
  rw [sameText, sameBody, sameBehind, sameClosing, closed]
  refine ⟨(if isSuffixed then "Attribute".toList else []) ++ (nameBlank ++ (arguments ++ blank)),
    ?_, ?_, fun free before => ?_⟩
  · simp only [List.append_assoc]
  · have noSuffix : ']' ∉ (if isSuffixed then "Attribute".toList else []) := by
      cases isSuffixed <;> decide
    have noArguments : ']' ∉ arguments := by
      rcases isArguments with rfl | ⟨inside, rfl, unclosed⟩
      · exact List.not_mem_nil
      · simp [unclosed.2]
    simp only [List.mem_append, not_or]
    exact ⟨noSuffix, not_mem_of_blank isNameBlank (by decide), noArguments,
      not_mem_of_blank isBlank (by decide)⟩
  · have inside : arguments <:+: (if isSuffixed then "Attribute".toList else []) ++
        (nameBlank ++ (arguments ++ blank)) :=
      ⟨(if isSuffixed then "Attribute".toList else []) ++ nameBlank, blank,
        by simp only [List.append_assoc]⟩
    obtain ⟨given, sameArguments⟩ := exists_argumentsText (free.of_infix inside) isArguments
    refine ⟨⟨before, isSuffixed, ⟨nameBlank, isNameBlank⟩, given, ⟨blank, isBlank⟩⟩, rfl, ?_⟩
    rw [behindName, MarkerText.argumentsText, sameArguments]

/-- What is read as a marker has its name behind blanks. -/
theorem exists_of_after? {text rest : List Char} (found : after? marker ('[' :: text) = some rest) :
    ∃ before named, Blank before ∧ text = before ++ (marker ++ named) ∧
      afterName? named = some rest := by
  obtain ⟨skipped, isSkipped, holds⟩ := List.exists_of_findSome?_eq_some found
  obtain ⟨named, given, closed⟩ := Option.bind_eq_some_iff.mp holds
  refine ⟨text.take skipped, named, ?_, ?_, closed⟩
  · intro c member
    have bound : skipped ≤ (text.takeWhile isBlank).length := by
      rw [List.mem_reverse, List.mem_range] at isSkipped
      omega
    rw [← List.takeWhile_append_dropWhile (p := isBlank) (l := text),
      List.take_append_of_le_length bound] at member
    exact List.mem_takeWhile_imp (List.mem_of_mem_take member)
  · rw [← dropStart?_eq_some_iff.mp given, List.take_append_drop]

/-- What is read as a marker goes up to the next closing bracket, and if it opens no comment it is a
spelling. -/
theorem IsName.exists_content (isName : IsName marker) {text rest : List Char}
    (found : after? marker ('[' :: text) = some rest) :
    ∃ content, text = content ++ ']' :: rest ∧ ']' ∉ content ∧
      (Comment.IsFree content → ∃ spelling : MarkerText marker, spelling.content = content) := by
  obtain ⟨before, named, blank, same, closed⟩ := exists_of_after? found
  obtain ⟨inner, sameNamed, innerFree, spelled⟩ := exists_of_afterName? closed
  refine ⟨before ++ (marker ++ inner), ?_, ?_, fun free => ?_⟩
  · rw [same, sameNamed]
    simp only [List.append_assoc]
  · simp only [List.mem_append, not_or]
    exact ⟨not_mem_of_blank blank (by decide), isName.unclosed, innerFree⟩
  · have inside : inner <:+: before ++ (marker ++ inner) := ⟨before ++ marker, [], by simp⟩
    obtain ⟨spelling, sameBefore, sameInner⟩ := spelled (free.of_infix inside) ⟨before, blank⟩
    exact ⟨spelling, by rw [content_eq, sameBefore, sameInner]⟩

theorem IsName.closingFree_content (isName : IsName marker) (spelling : MarkerText marker) :
    ']' ∉ spelling.content := by
  have suffixFree : ']' ∉ (if spelling.isSuffixed then "Attribute".toList else []) := by
    cases spelling.isSuffixed <;> decide
  have argumentsFree : ']' ∉ spelling.argumentsText := by
    rw [MarkerText.argumentsText]
    cases spelling.arguments with
    | none => exact List.not_mem_nil
    | some arguments => simp [arguments.unclosed.2]
  simp only [MarkerText.content, List.mem_append, not_or]
  exact ⟨⟨⟨⟨⟨not_mem_of_blank spelling.before.blank (by decide), isName.unclosed⟩, suffixFree⟩,
    not_mem_of_blank spelling.nameSpacing.blank (by decide)⟩, argumentsFree⟩,
    not_mem_of_blank spelling.after.blank (by decide)⟩

/-- A spelling of the marker is passed over at once. -/
theorem IsName.after?_append (isName : IsName marker) (spelling : MarkerText marker)
    (rest : List Char) : after? marker (spelling.text ++ rest) = some rest := by
  have split : spelling.text ++ rest = '[' :: (spelling.content ++ ']' :: rest) := by
    simp [MarkerText.text]
  have blanks : spelling.before.text.length ≤
      ((spelling.content ++ ']' :: rest).takeWhile isBlank).length := by
    rw [content_eq, List.append_assoc, List.takeWhile_append_of_pos spelling.before.blank,
      List.length_append]
    exact Nat.le_add_right _ _
  have here : (dropStart? marker ((spelling.content ++ ']' :: rest).drop
      spelling.before.text.length)).bind afterName? = some rest := by
    rw [content_eq, List.append_assoc, List.drop_left, List.append_assoc, dropStart?_append,
      Option.bind_some, afterName?_append]
  rw [split]
  -- The name may be read behind fewer blanks or more, but always up to the same bracket.
  cases read : after? marker ('[' :: (spelling.content ++ ']' :: rest)) with
  | none =>
    have missing := List.findSome?_eq_none_iff.mp read spelling.before.text.length
      (List.mem_reverse.mpr (List.mem_range.mpr (Nat.lt_succ_of_le blanks)))
    rw [here] at missing
    cases missing
  | some after =>
    obtain ⟨content, same, closingFree, _⟩ := isName.exists_content read
    rw [(eq_and_eq_of_append_cons (isName.closingFree_content spelling) closingFree same).2]

/-- Wherever a spelling of the marker stands, a marker ends there, be it one that starts earlier. -/
theorem IsName.exists_rests_append (isName : IsName marker) (before : List Char)
    (spelling : MarkerText marker) (rest : List Char) :
    ∃ earlier, rests marker (before ++ (spelling.text ++ rest)) =
      earlier ++ rest :: rests marker rest := by
  induction size : before.length using Nat.strong_induction_on generalizing before with
  | h _ inductionHypothesis =>
    subst size
    cases before with
    | nil => exact ⟨[], rests_of_some (isName.after?_append spelling rest)⟩
    | cons c later =>
      cases read : after? marker (c :: later ++ (spelling.text ++ rest)) with
      | none =>
        obtain ⟨earlier, same⟩ := inductionHypothesis _ (Nat.lt_succ_self _) later rfl
        exact ⟨earlier, (rests_of_none read).trans same⟩
      | some after =>
        have opened : c = '[' := by
          by_contra notOpening
          rw [List.cons_append, after?_of_ne notOpening] at read
          cases read
        subst opened
        obtain ⟨content, same, closingFree, -⟩ := isName.exists_content read
        by_cases closed : ']' ∈ later
        · -- The marker that is read ends before the spelling.
          obtain ⟨front, behind, rfl, frontFree⟩ := List.eq_append_cons_of_mem closed
          have cut : front ++ ']' :: (behind ++ (spelling.text ++ rest)) =
              content ++ ']' :: after := by
            rw [← same]
            simp
          obtain ⟨-, rfl⟩ := eq_and_eq_of_append_cons frontFree closingFree cut
          obtain ⟨earlier, sameBehind⟩ := inductionHypothesis behind.length
            (by simp only [List.length_cons, List.length_append]; omega) behind rfl
          refine ⟨(behind ++ (spelling.text ++ rest)) :: earlier, (rests_of_some read).trans ?_⟩
          rw [sameBehind, List.cons_append]
        · -- It reaches into the spelling, and ends where that does.
          have reaches : later ++ '[' :: spelling.content ++ ']' :: rest =
              content ++ ']' :: after := by
            rw [← same]
            simp [MarkerText.text]
          have absent : ']' ∉ later ++ '[' :: spelling.content := by
            simp [closed, isName.closingFree_content spelling]
          obtain ⟨-, rfl⟩ := eq_and_eq_of_append_cons absent closingFree reaches
          exact ⟨[], rests_of_some read⟩

/-- No marker is read where an attribute spells none. -/
theorem IsName.after?_eq_none (isName : IsName marker) {content : List Char}
    (closingFree : ']' ∉ content) (free : Comment.IsFree content)
    (unmarked : ∀ spelling : MarkerText marker, spelling.content ≠ content)
    (rest : List Char) : after? marker ('[' :: (content ++ ']' :: rest)) = none := by
  rw [Option.eq_none_iff_forall_not_mem]
  intro after found
  obtain ⟨read, same, readFree, spelled⟩ := isName.exists_content found
  have sameContent := (eq_and_eq_of_append_cons closingFree readFree same).1
  obtain ⟨spelling, sameSpelling⟩ := spelled (sameContent ▸ free)
  exact unmarked spelling (sameSpelling.trans sameContent.symm)

/-! ### What the search passes over -/

theorem IsName.passes_of_inert (isName : IsName marker) {text : List Char} (inert : Inert text) :
    Passes marker text := by
  intro rest
  induction inert with
  | nil => rfl
  | plain _ notOpening _ inductionHypothesis =>
    rw [List.cons_append, rests_of_none (after?_of_ne notOpening _), inductionHypothesis]
  | @brackets later _ inductionHypothesis =>
    have nothing (spelling : MarkerText marker) : spelling.content ≠ [] := by
      rw [content_eq]
      simp [isName.nonempty]
    have missing := isName.after?_eq_none List.not_mem_nil
      (Comment.isFree_of_not_mem List.not_mem_nil) nothing (later ++ rest)
    rw [List.nil_append] at missing
    rw [List.cons_append, List.cons_append, rests_of_none missing,
      rests_of_none (after?_of_ne (by decide) _), inductionHypothesis]

/-- A text that ends in a closing bracket is passed over if no marker is spelled in it. -/
theorem IsName.passes_closed (isName : IsName marker) {text : List Char}
    (closed : text.getLast? = some ']') (free : Comment.IsFree text)
    (unmarked : ∀ spelling : MarkerText marker, ¬ spelling.text <:+: text) :
    Passes marker text := by
  refine passes_of_forall fun front behind split rest => ?_
  rw [Option.eq_none_iff_forall_not_mem]
  intro after found
  obtain ⟨content, same, contentFree, spelled⟩ := isName.exists_content found
  have inside : ']' ∈ behind := by
    rw [split, List.getLast?_append_of_ne_nil _ (List.cons_ne_nil _ _)] at closed
    exact (List.mem_cons.mp (List.mem_of_getLast? closed)).resolve_left (by decide)
  obtain ⟨inner, others, rfl, innerFree⟩ := List.eq_append_cons_of_mem inside
  rw [List.append_assoc, List.cons_append] at same
  obtain ⟨rfl, -⟩ := eq_and_eq_of_append_cons innerFree contentFree same
  -- So what is read as a marker stands in the text, up to its closing bracket.
  obtain ⟨spelling, rfl⟩ := spelled (free.of_infix ⟨front ++ ['['], ']' :: others, by simp [split]⟩)
  exact unmarked spelling ⟨front, others, by simp [split, MarkerText.text]⟩

theorem IsName.passes_attribute (isName : IsName marker) (text : AttributeText marker) :
    Passes marker text.text := by
  have plain : Passes marker (text.content ++ [']']) := by
    refine passes_of_not_mem ?_
    rw [List.mem_append, not_or]
    exact ⟨text.plain '[' (by decide), by decide⟩
  have opened : Passes marker ('[' :: (text.content ++ [']'])) := by
    intro rest
    have missing := isName.after?_eq_none (text.plain ']' (by decide))
      (Comment.isFree_of_not_mem (text.plain '/' (by decide))) text.unmarked rest
    rw [List.cons_append, List.append_assoc, List.cons_append, List.nil_append,
      rests_of_none missing, ← plain rest, List.append_assoc]
    rfl
  have spacing : Passes marker text.spacing.text :=
    isName.passes_of_inert (inert_of_blank text.spacing.blank)
  rw [AttributeText.text, List.append_assoc, List.cons_append]
  exact spacing.append opened

end Marker

end SharpTypes.Source

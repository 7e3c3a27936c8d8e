/-
The bracket that closes another one. From an opening bracket on, the depth is above zero until as
many brackets are closed as opened, and the search ends right there: the bracket that it finds is
the end of the shortest such start of the text. Where there is no such start the depth stays above
zero to the end, and nothing is found. So the body of a block is what stands between the first
opening bracket and the one that closes it.
-/

import Mathlib.Tactic.Common
import SharpTypes.Proofs.Checked.Bracket
import SharpTypes.Proofs.Source.Splitting

namespace SharpTypes.Source.Bracket

open Text

variable {bracket : Bracket} {text interior rest : List Char}

theorem weight_opening : bracket.weight bracket.opening = 1 :=
  if_pos rfl

theorem weight_closing (different : bracket.opening ≠ bracket.closing) :
    bracket.weight bracket.closing = -1 := by
  rw [weight, if_neg different.symm, if_pos rfl]

/-! ### The search -/

/-- A closing bracket is found behind everything that is nested from the depth on. -/
theorem untilClosing_of_nestedFrom (different : bracket.opening ≠ bracket.closing) {depth : Nat}
    (nested : bracket.NestedFrom depth interior) (rest : List Char) :
    bracket.untilClosing depth (interior ++ bracket.closing :: rest) = some (interior, rest) := by
  induction interior generalizing depth with
  | nil =>
    obtain rfl : depth = 0 := Int.ofNat_eq_zero.mp (nestedFrom_nil_iff.mp nested)
    rw [List.nil_append, untilClosing, if_neg different.symm, if_pos rfl]
  | cons c later inductionHypothesis =>
    obtain ⟨_, nestedLater⟩ := (nestedFrom_cons_iff different).mp nested
    rw [List.cons_append]
    by_cases opens : c = bracket.opening
    · subst opens
      rw [weight_opening] at nestedLater
      rw [untilClosing_opening, inductionHypothesis nestedLater]
      rfl
    by_cases closes : c = bracket.closing
    · -- The depth before the bracket is not zero, since it is not below zero behind it.
      subst closes
      rw [weight_closing different] at nestedLater
      have above : (0 : Int) ≤ depth + -1 := by simpa using nestedLater.above [] List.nil_prefix
      obtain ⟨inner, rfl⟩ : ∃ inner, depth = inner + 1 := ⟨depth - 1, by omega⟩
      have moved : ((inner + 1 : Nat) : Int) + -1 = inner := by omega
      rw [moved] at nestedLater
      rw [untilClosing_closing different, inductionHypothesis nestedLater]
      rfl
    · rw [weight_of_ne opens closes, Int.add_zero] at nestedLater
      rw [untilClosing_cons opens closes, inductionHypothesis nestedLater]
      rfl

theorem untilClosing_eq_some_iff (different : bracket.opening ≠ bracket.closing) {depth : Nat} :
    bracket.untilClosing depth text = some (interior, rest) ↔
      text = interior ++ bracket.closing :: rest ∧ bracket.NestedFrom depth interior := by
  constructor
  · intro found
    exact ⟨eq_of_untilClosing found, nestedFrom_of_untilClosing different found⟩
  · rintro ⟨rfl, nested⟩
    exact untilClosing_of_nestedFrom different nested rest

/-- Where no closing bracket is found, the depth is nowhere below zero. -/
theorem nonneg_of_untilClosing (different : bracket.opening ≠ bracket.closing) {depth : Nat}
    (unclosed : bracket.untilClosing depth text = none) {front : List Char}
    (isPrefix : front <+: text) : 0 ≤ depth + bracket.rise front := by
  induction text generalizing depth front with
  | nil =>
    rw [List.prefix_nil.mp isPrefix, rise_nil]
    omega
  | cons c later inductionHypothesis =>
    cases front with
    | nil =>
      rw [rise_nil]
      omega
    | cons d front =>
      obtain ⟨rfl, inLater⟩ := List.cons_prefix_cons.mp isPrefix
      rw [rise_cons different]
      by_cases opens : d = bracket.opening
      · subst opens
        rw [untilClosing_opening, Option.map_eq_none_iff] at unclosed
        have above := inductionHypothesis unclosed inLater
        rw [weight_opening]
        omega
      by_cases closes : d = bracket.closing
      · subst closes
        rw [weight_closing different]
        cases depth with
        | zero =>
          rw [untilClosing, if_neg opens, if_pos rfl] at unclosed
          cases unclosed
        | succ inner =>
          rw [untilClosing_closing different, Option.map_eq_none_iff] at unclosed
          have above := inductionHypothesis unclosed inLater
          omega
      · rw [untilClosing_cons opens closes, Option.map_eq_none_iff] at unclosed
        have above := inductionHypothesis unclosed inLater
        rw [weight_of_ne opens closes, Int.zero_add]
        exact above

/-! ### The first start that closes as many brackets as it opens -/

/-- The shortest start of a text, other than the empty one, in which as many brackets are closed as
opened. -/
structure IsFirstLevel (bracket : Bracket) (text part : List Char) : Prop where
  isPrefix : part <+: text
  notEmpty : part ≠ []
  level : bracket.rise part = 0
  shortest : ∀ other, other <+: text → other ≠ [] → bracket.rise other = 0 →
    part.length ≤ other.length

theorem IsFirstLevel.unique {part other : List Char} (first : bracket.IsFirstLevel text part)
    (second : bracket.IsFirstLevel text other) : part = other := by
  have atMost := first.shortest other second.isPrefix second.notEmpty second.level
  have atLeast := second.shortest part first.isPrefix first.notEmpty first.level
  have inside : part <+: other :=
    List.prefix_of_prefix_length_le first.isPrefix second.isPrefix atMost
  exact inside.eq_of_length (Nat.le_antisymm atMost atLeast)

/-- Behind an opening bracket the depth is one more than what rises behind it. -/
theorem rise_pos_of_opening (different : bracket.opening ≠ bracket.closing)
    (above : ∀ front, front <+: text → 0 ≤ bracket.rise front) {front : List Char}
    (isPrefix : front <+: bracket.opening :: text) (notEmpty : front ≠ []) :
    0 < bracket.rise front := by
  cases front with
  | nil => exact absurd rfl notEmpty
  | cons c front =>
    obtain ⟨rfl, inside⟩ := List.cons_prefix_cons.mp isPrefix
    have atLeast := above front inside
    rw [rise_cons different, weight_opening]
    omega

/-- Inside a nested text in brackets the depth is above zero. -/
theorem rise_pos_of_nested (different : bracket.opening ≠ bracket.closing)
    (nested : bracket.Nested interior) {front : List Char}
    (isPrefix : front <+: bracket.opening :: interior ++ bracket.closing :: rest)
    (notEmpty : front ≠ []) (shorter : front.length < interior.length + 2) :
    0 < bracket.rise front := by
  refine rise_pos_of_opening different nested.2 ?_ notEmpty
  refine List.prefix_of_prefix_length_le isPrefix (List.prefix_append _ _) ?_
  rw [List.length_cons]
  omega

/-- A nested text in brackets is the first start of its kind. -/
theorem isFirstLevel_of_nested (different : bracket.opening ≠ bracket.closing)
    (nested : bracket.Nested interior) (rest : List Char) :
    bracket.IsFirstLevel (bracket.opening :: interior ++ bracket.closing :: rest)
      (bracket.opening :: interior ++ [bracket.closing]) where
  isPrefix := ⟨rest, by simp⟩
  notEmpty := List.cons_ne_nil _ _
  level := by
    rw [List.cons_append, rise_cons different, rise_append, nested.1, rise_cons different,
      weight_opening, weight_closing different]
    rfl
  shortest other isPrefix notEmpty level := by
    by_contra shorter
    rw [List.length_append, List.length_cons, List.length_singleton, Nat.not_le] at shorter
    have positive := rise_pos_of_nested different nested isPrefix notEmpty shorter
    omega

/-! ### The bracket that closes the first one -/

theorem enclosed?_eq_some_iff (different : bracket.opening ≠ bracket.closing) :
    bracket.enclosed? text = some (interior, rest) ↔
      text = bracket.opening :: interior ++ bracket.closing :: rest ∧ bracket.Nested interior := by
  constructor
  · intro found
    refine ⟨eq_of_enclosed? found, ?_⟩
    rw [eq_of_enclosed? found, List.cons_append, enclosed?, if_pos rfl] at found
    exact nestedFrom_zero_iff.mp ((untilClosing_eq_some_iff different).mp found).2
  · rintro ⟨rfl, nested⟩
    rw [List.cons_append, enclosed?, if_pos rfl]
    exact (untilClosing_eq_some_iff different).mpr ⟨rfl, nestedFrom_zero_iff.mpr nested⟩

theorem enclosed?_of_head?_ne (other : text.head? ≠ some bracket.opening) :
    bracket.enclosed? text = none := by
  cases text with
  | nil => rfl
  | cons c later => exact if_neg fun same => other (congrArg some same)

/-- Behind an opening bracket that is not closed the depth stays above zero. -/
theorem rise_pos_of_unclosed (different : bracket.opening ≠ bracket.closing)
    (opens : text.head? = some bracket.opening) (unclosed : bracket.enclosed? text = none)
    {front : List Char} (isPrefix : front <+: text) (notEmpty : front ≠ []) :
    0 < bracket.rise front := by
  obtain ⟨later, rfl⟩ := List.head?_eq_some_iff.mp opens
  rw [enclosed?, if_pos rfl] at unclosed
  refine rise_pos_of_opening different (fun front inside => ?_) isPrefix notEmpty
  simpa using nonneg_of_untilClosing different unclosed inside

/-- What is enclosed, with its brackets, is the first start that closes as many as it opens. -/
theorem isFirstLevel_iff (different : bracket.opening ≠ bracket.closing)
    (opens : text.head? = some bracket.opening) {part : List Char} :
    bracket.IsFirstLevel text part ↔ ∃ interior rest,
      bracket.enclosed? text = some (interior, rest) ∧
        part = bracket.opening :: interior ++ [bracket.closing] := by
  have ofEnclosed {interior rest : List Char}
      (found : bracket.enclosed? text = some (interior, rest)) :
      bracket.IsFirstLevel text (bracket.opening :: interior ++ [bracket.closing]) := by
    obtain ⟨rfl, nested⟩ := (enclosed?_eq_some_iff different).mp found
    exact isFirstLevel_of_nested different nested rest
  constructor
  · intro first
    cases found : bracket.enclosed? text with
    | none =>
      have positive := rise_pos_of_unclosed different opens found first.isPrefix first.notEmpty
      rw [first.level] at positive
      cases positive
    | some parts => exact ⟨parts.1, parts.2, rfl, first.unique (ofEnclosed found)⟩
  · rintro ⟨interior, rest, found, rfl⟩
    exact ofEnclosed found

/-- Until then the depth is above zero. -/
theorem rise_pos_of_isFirstLevel (different : bracket.opening ≠ bracket.closing)
    (opens : text.head? = some bracket.opening) {front : List Char} (isPrefix : front <+: text)
    (notEmpty : front ≠ [])
    (shorter : ∀ part, bracket.IsFirstLevel text part → front.length < part.length) :
    0 < bracket.rise front := by
  cases found : bracket.enclosed? text with
  | none => exact rise_pos_of_unclosed different opens found isPrefix notEmpty
  | some parts =>
    have bound := shorter _ ((isFirstLevel_iff different opens).mpr ⟨_, _, found, rfl⟩)
    obtain ⟨same, nested⟩ := (enclosed?_eq_some_iff different).mp found
    rw [same] at isPrefix
    rw [List.length_append, List.length_cons, List.length_singleton] at bound
    exact rise_pos_of_nested different nested isPrefix notEmpty bound

/-! ### Offsets -/

theorem closingOffset_append (bracket : Bracket) (before opened : List Char) :
    bracket.closingOffset (before ++ opened) (byteSize before) =
      .ok ((bracket.enclosed? opened).map fun found =>
        byteSize before + bracket.opening.utf8Size + byteSize found.1) := by
  rw [closingOffset, dropBytes_append]
  rfl

/-- A place is found exactly if it is that of the closing bracket which ends the first start that
closes as many brackets as it opens. -/
theorem closingOffset_eq_some_iff (different : bracket.opening ≠ bracket.closing)
    (before opened : List Char) (stop : Nat) :
    bracket.closingOffset (before ++ opened) (byteSize before) = .ok (some stop) ↔
      opened.head? = some bracket.opening ∧ ∃ front,
        bracket.IsFirstLevel opened (front ++ [bracket.closing]) ∧
          stop = byteSize before + byteSize front := by
  rw [closingOffset_append, Except.ok.injEq, Option.map_eq_some_iff]
  constructor
  · rintro ⟨⟨interior, rest⟩, found, rfl⟩
    have opens : opened.head? = some bracket.opening := by rw [eq_of_enclosed? found]; rfl
    refine ⟨opens, bracket.opening :: interior, ?_, Nat.add_assoc ..⟩
    exact (isFirstLevel_iff different opens).mpr ⟨interior, rest, found, rfl⟩
  · rintro ⟨opens, front, first, rfl⟩
    obtain ⟨interior, rest, found, same⟩ := (isFirstLevel_iff different opens).mp first
    obtain rfl := List.append_cancel_right same
    exact ⟨(interior, rest), found, Nat.add_assoc ..⟩

/-- Nothing is found exactly if the text does not open there, or closes as many brackets as it opens
nowhere behind. -/
theorem closingOffset_eq_none_iff (different : bracket.opening ≠ bracket.closing)
    (before opened : List Char) :
    bracket.closingOffset (before ++ opened) (byteSize before) = .ok none ↔
      opened.head? ≠ some bracket.opening ∨
        ∀ front, front <+: opened → front ≠ [] → bracket.rise front ≠ 0 := by
  rw [closingOffset_append, Except.ok.injEq, Option.map_eq_none_iff]
  constructor
  · intro unclosed
    refine or_iff_not_imp_left.mpr fun opens front isPrefix notEmpty => ?_
    have positive := rise_pos_of_unclosed different (not_not.mp opens) unclosed isPrefix notEmpty
    exact Int.ne_of_gt positive
  · rintro (other | never)
    · exact enclosed?_of_head?_ne other
    · refine Option.eq_none_iff_forall_ne_some.mpr fun parts found => ?_
      obtain ⟨rfl, nested⟩ := (enclosed?_eq_some_iff different).mp found
      have first := isFirstLevel_of_nested different nested parts.2
      exact never _ first.isPrefix first.notEmpty first.level

/-! ### The first body -/

theorem body?_of_not_mem (absent : bracket.opening ∉ text) : bracket.body? text = none := by
  rw [body?, dropWhile_ne_of_not_mem absent]
  rfl

theorem body?_append_opening {before : List Char} (absent : bracket.opening ∉ before)
    (behind : List Char) :
    bracket.body? (before ++ bracket.opening :: behind) =
      (bracket.enclosed? (bracket.opening :: behind)).map Prod.fst := by
  rw [body?, dropWhile_ne_append absent]

/-- What is cut off in front is determined by its size. -/
theorem eq_of_byteSize_eq {left right leftRest rightRest : List Char}
    (same : left ++ leftRest = right ++ rightRest) (size : byteSize left = byteSize right) :
    left = right := by
  have rests : leftRest = rightRest := by
    have dropped := dropBytes_append left leftRest
    rw [same, size, dropBytes_append] at dropped
    exact (Except.ok.inj dropped).symm
  rw [rests] at same
  exact List.append_cancel_right same

/-- A body is found exactly between the first opening bracket and the one that is found to close it.
-/
theorem body?_eq_some_iff : bracket.body? text = some interior ↔
    ∃ before behind, bracket.opening ∉ before ∧
      text = before ++ (bracket.opening :: interior ++ bracket.closing :: behind) ∧
      bracket.closingOffset text (byteSize before) =
        .ok (some (byteSize before + bracket.opening.utf8Size + byteSize interior)) := by
  constructor
  · intro found
    by_cases member : bracket.opening ∈ text
    · obtain ⟨before, behind, rfl, absent⟩ := List.eq_append_cons_of_mem member
      rw [body?_append_opening absent] at found
      obtain ⟨⟨inside, rest⟩, enclosed, rfl⟩ := Option.map_eq_some_iff.mp found
      refine ⟨before, rest, absent, by rw [eq_of_enclosed? enclosed], ?_⟩
      rw [closingOffset_append, enclosed]
      rfl
    · rw [body?_of_not_mem member] at found
      cases found
  · rintro ⟨before, behind, absent, rfl, closed⟩
    rw [closingOffset_append, Except.ok.injEq] at closed
    obtain ⟨⟨inside, rest⟩, enclosed, size⟩ := Option.map_eq_some_iff.mp closed
    have same := eq_of_enclosed? enclosed
    rw [List.cons_append, List.cons_append, List.cons.injEq] at same
    obtain rfl := eq_of_byteSize_eq same.2 (Nat.add_left_cancel size).symm
    rw [List.cons_append, body?_append_opening absent, ← List.cons_append, enclosed]
    rfl

theorem body?_eq_none_iff : bracket.body? text = none ↔
    bracket.opening ∉ text ∨ ∃ before behind, bracket.opening ∉ before ∧
      text = before ++ bracket.opening :: behind ∧
      bracket.closingOffset text (byteSize before) = .ok none := by
  constructor
  · intro noBody
    refine or_iff_not_imp_left.mpr fun member => ?_
    obtain ⟨before, behind, rfl, absent⟩ := List.eq_append_cons_of_mem (not_not.mp member)
    rw [body?_append_opening absent, Option.map_eq_none_iff] at noBody
    refine ⟨before, behind, absent, rfl, ?_⟩
    rw [closingOffset_append, noBody]
    rfl
  · rintro (absent | ⟨before, behind, absent, rfl, unclosed⟩)
    · exact body?_of_not_mem absent
    · rw [closingOffset_append, Except.ok.injEq, Option.map_eq_none_iff] at unclosed
      rw [body?_append_opening absent, unclosed]
      rfl

theorem nested_of_body? (different : bracket.opening ≠ bracket.closing)
    (found : bracket.body? text = some interior) : bracket.Nested interior := by
  obtain ⟨⟨inside, rest⟩, enclosed, rfl⟩ := Option.map_eq_some_iff.mp found
  exact ((enclosed?_eq_some_iff different).mp enclosed).2

/-! ### Closing brackets and bodies -/

/-- From a place in a text on, the bracket that ends the shortest start with as many closing as
opening brackets is found if the text opens there and has such a start, and nothing otherwise. Up to
there, or to the end if there is no such start, more brackets are opened than closed, and a search
that counts the open ones never takes one from none. -/
structure ClosesAtFirstLevel (bracket : Bracket) (before opened : List Char) : Prop where
  closed : ∀ stop,
    bracket.closingOffset (before ++ opened) (byteSize before) = .ok (some stop) ↔
      opened.head? = some bracket.opening ∧ ∃ front,
        bracket.IsFirstLevel opened (front ++ [bracket.closing]) ∧
          stop = byteSize before + byteSize front
  unclosed : bracket.closingOffset (before ++ opened) (byteSize before) = .ok none ↔
    opened.head? ≠ some bracket.opening ∨
      ∀ front, front <+: opened → front ≠ [] → bracket.rise front ≠ 0
  positive : opened.head? = some bracket.opening → ∀ front, front <+: opened → front ≠ [] →
    (∀ part, bracket.IsFirstLevel opened part → front.length < part.length) →
      0 < bracket.rise front
  counted : ∃ found, bracket.closingOffset (before ++ opened) (byteSize before) = .ok found ∧
    Checked.findClosing bracket (before ++ opened) (byteSize before) = .ok found

/-- The body of the text is what stands between its first opening bracket and the one that closes
it; it is nested, there is none only if no bracket opens or the first one never closes, and behind
an opening bracket of one byte it is cut out without a fault. -/
structure HasBodyAtClosing (bracket : Bracket) (text : List Char) : Prop where
  cutOut : bracket.opening.utf8Size = 1 → Checked.body bracket text = .ok (bracket.body? text)
  between : ∀ interior, bracket.body? text = some interior ↔
    ∃ before behind, bracket.opening ∉ before ∧
      text = before ++ (bracket.opening :: interior ++ bracket.closing :: behind) ∧
      bracket.closingOffset text (byteSize before) =
        .ok (some (byteSize before + bracket.opening.utf8Size + byteSize interior))
  nested : ∀ interior, bracket.body? text = some interior → bracket.Nested interior
  absent : bracket.body? text = none ↔
    bracket.opening ∉ text ∨ ∃ before behind, bracket.opening ∉ before ∧
      text = before ++ bracket.opening :: behind ∧
      bracket.closingOffset text (byteSize before) = .ok none

/-- Brackets with two different characters close at the first level, and bodies end there. -/
theorem closes_at_first_level (different : bracket.opening ≠ bracket.closing) :
    (∀ before opened, bracket.ClosesAtFirstLevel before opened) ∧
      ∀ text, bracket.HasBodyAtClosing text := by
  refine ⟨fun before opened => ⟨closingOffset_eq_some_iff different before opened,
    closingOffset_eq_none_iff different before opened, ?_, ?_⟩, fun text =>
    ⟨fun narrow => Checked.body_eq narrow text, fun interior => body?_eq_some_iff,
      fun interior => nested_of_body? different, body?_eq_none_iff⟩⟩
  · intro opens front isPrefix filled shorter
    exact rise_pos_of_isFirstLevel different opens isPrefix filled shorter
  · refine ⟨_, closingOffset_append bracket before opened, ?_⟩
    rw [Checked.findClosing_eq, closingOffset_append]
    rfl

/-- The body of a class with a method in it and with a bracket too many behind it. -/
theorem closes_at_first_level_of_class :
    curly.opening ≠ curly.closing ∧
      Checked.body curly "class É \x7b void M() \x7b \x7d \x7d \x7d".toList =
        .ok (some " void M() \x7b \x7d ".toList) ∧
      curly.Nested " void M() \x7b \x7d ".toList ∧
      ∃ front, curly.IsFirstLevel "\x7b void M() \x7b \x7d \x7d \x7d".toList (front ++ ['}']) ∧
        24 = 9 + byteSize front := by
  have different : curly.opening ≠ curly.closing := by decide
  obtain ⟨closes, bodies⟩ := closes_at_first_level different
  have hasBody := bodies "class É \x7b void M() \x7b \x7d \x7d \x7d".toList
  have body : curly.body? "class É \x7b void M() \x7b \x7d \x7d \x7d".toList =
      some " void M() \x7b \x7d ".toList :=
    (hasBody.between _).mpr
      ⟨"class É ".toList, " \x7d".toList, by decide, by decide +kernel, by decide +kernel⟩
  have closed : curly.closingOffset
      ("class É ".toList ++ "\x7b void M() \x7b \x7d \x7d \x7d".toList)
      (byteSize "class É ".toList) = .ok (some 24) := by
    decide +kernel
  refine ⟨different, ?_, hasBody.nested _ body, (((closes _ _).closed 24).mp closed).2⟩
  rw [hasBody.cutOut (by decide), body]

end SharpTypes.Source.Bracket

/-
Cutting text at separators and putting it together again. Pieces that hold no separator survive
being joined and cut; a text that is cut once more behind a separator is cut in two parts that do
not depend on each other.
-/

import Mathlib.Data.List.TakeWhile
import Mathlib.Tactic.Common
import SharpTypes.Text.Pieces

namespace SharpTypes.Text

/-! ### Splitting -/

/-- The pieces are those that the library's own splitting gives. -/
theorem splitOn_eq (separator : Char) (text : List Char) :
    splitOn separator text = text.splitOn separator := by
  induction text with
  | nil => rfl
  | cons c rest inductionHypothesis =>
    rw [splitOn, List.splitOn_cons_eq_if_modifyHead, inductionHypothesis]
    by_cases same : c = separator
    · rw [if_pos same, if_pos (beq_iff_eq.mpr same)]
    · rw [if_neg same, if_neg (by simpa using same)]

theorem splitOn_of_not_mem {separator : Char} {text : List Char} (absent : separator ∉ text) :
    splitOn separator text = [text] := by
  rw [splitOn_eq, List.splitOn_eq_singleton absent]

theorem splitOn_append_separator (separator : Char) (left right : List Char) :
    splitOn separator (left ++ separator :: right) =
      splitOn separator left ++ splitOn separator right := by
  rw [splitOn_eq, splitOn_eq, splitOn_eq, List.splitOn_append_cons_self]

theorem splitOn_join {separator : Char} {pieces : List (List Char)}
    (absent : ∀ piece ∈ pieces, separator ∉ piece) (notEmpty : pieces ≠ []) :
    splitOn separator (join [separator] pieces) = pieces := by
  rw [splitOn_eq, join, List.splitOn_intercalate separator absent notEmpty]

theorem join_splitOn (separator : Char) (text : List Char) :
    join [separator] (splitOn separator text) = text := by
  rw [splitOn_eq, join, List.intercalate_splitOn]

/-- No piece holds the separator. -/
theorem not_mem_of_mem_splitOn {separator : Char} {text piece : List Char}
    (member : piece ∈ splitOn separator text) : separator ∉ piece := by
  induction text generalizing piece with
  | nil =>
    rw [splitOn, List.mem_singleton] at member
    simp [member]
  | cons c rest inductionHypothesis =>
    rw [splitOn] at member
    split at member
    · rcases List.mem_cons.mp member with rfl | later
      · simp
      · exact inductionHypothesis later
    · next different =>
      obtain ⟨first, others, pieces⟩ := List.exists_cons_of_ne_nil (splitOn_ne_nil separator rest)
      rw [pieces, List.modifyHead_cons, List.mem_cons] at member
      rcases member with rfl | later
      · have absent := inductionHypothesis (pieces ▸ List.mem_cons_self)
        simp [Ne.symm different, absent]
      · exact inductionHypothesis (pieces ▸ List.mem_cons_of_mem first later)

/-! ### Joining -/

@[simp] theorem join_nil (separator : List Char) : join separator [] = [] := rfl

@[simp] theorem join_singleton (separator piece : List Char) : join separator [piece] = piece :=
  List.intercalate_singleton

theorem join_cons_cons (separator first second : List Char) (rest : List (List Char)) :
    join separator (first :: second :: rest) =
      first ++ separator ++ join separator (second :: rest) :=
  List.intercalate_cons_cons

/-- A character of joined pieces stands in the separator or in a piece. -/
theorem mem_join {separator : List Char} {pieces : List (List Char)} {c : Char}
    (member : c ∈ join separator pieces) : c ∈ separator ∨ ∃ piece ∈ pieces, c ∈ piece := by
  induction pieces with
  | nil => cases member
  | cons first rest inductionHypothesis =>
    cases rest with
    | nil =>
      rw [join_singleton] at member
      exact .inr ⟨first, List.mem_cons_self, member⟩
    | cons second others =>
      rw [join_cons_cons, List.mem_append, List.mem_append] at member
      rcases member with (inFirst | inSeparator) | later
      · exact .inr ⟨first, List.mem_cons_self, inFirst⟩
      · exact .inl inSeparator
      · rcases inductionHypothesis later with inSeparator | ⟨piece, isPiece, inside⟩
        · exact .inl inSeparator
        · exact .inr ⟨piece, List.mem_cons_of_mem first isPiece, inside⟩

/-- A joined text holds all of its pieces. -/
theorem mem_join_of_mem (separator : List Char) {pieces : List (List Char)} {piece : List Char}
    (isPiece : piece ∈ pieces) {c : Char} (inside : c ∈ piece) : c ∈ join separator pieces := by
  induction pieces with
  | nil => cases isPiece
  | cons first rest inductionHypothesis =>
    cases rest with
    | nil =>
      rw [List.mem_singleton] at isPiece
      rwa [join_singleton, ← isPiece]
    | cons second others =>
      rw [join_cons_cons, List.mem_append, List.mem_append]
      rcases List.mem_cons.mp isPiece with rfl | later
      · exact .inl (.inl inside)
      · exact .inr (inductionHypothesis later)

/-- Every character of a piece is one of the text. -/
theorem mem_of_mem_splitOn {separator : Char} {text piece : List Char}
    (member : piece ∈ splitOn separator text) {c : Char} (inside : c ∈ piece) : c ∈ text := by
  rw [← join_splitOn separator text]
  exact mem_join_of_mem [separator] member inside

/-- Something behind the last of several pieces stands behind the joined text. -/
theorem join_concat_append (separator : List Char) (pieces : List (List Char))
    (last behind : List Char) :
    join separator (pieces ++ [last]) ++ behind = join separator (pieces ++ [last ++ behind]) := by
  induction pieces with
  | nil => simp
  | cons first rest inductionHypothesis =>
    cases rest with
    | nil => simp [join_cons_cons]
    | cons second others =>
      rw [List.cons_append, List.cons_append, join_cons_cons, List.append_assoc,
        ← List.cons_append, inductionHypothesis, List.cons_append, List.cons_append,
        List.cons_append, join_cons_cons]

/-- Something before the first of several pieces stands before the joined text. -/
theorem join_append_cons (separator front first : List Char) (rest : List (List Char)) :
    join separator ((front ++ first) :: rest) = front ++ join separator (first :: rest) := by
  cases rest with
  | nil => rw [join_singleton, join_singleton]
  | cons second others => simp only [join_cons_cons, List.append_assoc]

/-- Between two lists of pieces stands one separator more. -/
theorem join_append (separator : List Char) {fronts backs : List (List Char)}
    (notEmpty : fronts ≠ [])
    (more : backs ≠ []) :
    join separator (fronts ++ backs) =
      join separator fronts ++ separator ++ join separator backs := by
  induction fronts with
  | nil => exact absurd rfl notEmpty
  | cons first rest inductionHypothesis =>
    cases rest with
    | nil =>
      rw [join_singleton]
      exact List.intercalate_cons_of_ne_nil more
    | cons second others =>
      have later := inductionHypothesis (List.cons_ne_nil second others)
      rw [List.cons_append, List.cons_append, join_cons_cons, ← List.cons_append, later,
        join_cons_cons]
      simp only [List.append_assoc]

/-- A text whose last piece is empty ends in a separator, unless it is empty. -/
theorem eq_nil_or_getLast?_of_splitOn {separator : Char} {text : List Char}
    {front : List (List Char)} (pieces : splitOn separator text = front ++ [[]]) :
    text = [] ∨ text.getLast? = some separator := by
  rcases List.eq_nil_or_concat text with rfl | ⟨before, last, rfl⟩
  · exact .inl rfl
  · rw [List.concat_eq_append] at pieces ⊢
    refine .inr ?_
    rw [List.getLast?_concat]
    by_contra different
    -- A last character that is no separator stands in the last piece.
    obtain ⟨others, piece, split⟩ := (List.eq_nil_or_concat (splitOn separator before)).resolve_left
      (splitOn_ne_nil separator before)
    rw [List.concat_eq_append] at split
    have whole := join_splitOn separator before
    rw [split] at whole
    rw [← whole, join_concat_append, splitOn_join _ (by simp)] at pieces
    · simpa using (List.append_inj' pieces rfl).2
    · intro other member
      have absent : ∀ other ∈ others ++ [piece], separator ∉ other :=
        fun other isPiece => not_mem_of_mem_splitOn (split ▸ isPiece)
      rcases List.mem_append.mp member with inOthers | isLast
      · exact absent other (List.mem_append_left _ inOthers)
      · rw [List.mem_singleton.mp isLast, List.mem_append, List.mem_singleton]
        rintro (inPiece | same)
        · exact absent piece (by simp) inPiece
        · exact different (congrArg some same.symm)

/-! ### Texts put together -/

/-- What holds of some texts holds of all of them together, if it carries over to two texts. -/
theorem flatMap_of_append {kind : List Char → Prop} (ofEmpty : kind [])
    (append : ∀ {left right : List Char}, kind left → kind right → kind (left ++ right))
    {α : Type} {items : List α} {text : α → List Char} (each : ∀ item ∈ items, kind (text item)) :
    kind (items.flatMap text) := by
  induction items with
  | nil => exact ofEmpty
  | cons first rest inductionHypothesis =>
    obtain ⟨ofFirst, ofRest⟩ := List.forall_mem_cons.mp each
    rw [List.flatMap_cons]
    exact append ofFirst (inductionHypothesis ofRest)

/-- It holds of them with a separator in between as well, if it holds of that. -/
theorem join_of_append {kind : List Char → Prop} (ofEmpty : kind [])
    (append : ∀ {left right : List Char}, kind left → kind right → kind (left ++ right))
    {separator : List Char} (ofSeparator : kind separator) {pieces : List (List Char)}
    (each : ∀ piece ∈ pieces, kind piece) : kind (join separator pieces) := by
  induction pieces with
  | nil => exact ofEmpty
  | cons first rest inductionHypothesis =>
    obtain ⟨ofFirst, ofRest⟩ := List.forall_mem_cons.mp each
    cases rest with
    | nil => rwa [join_singleton]
    | cons second others =>
      rw [join_cons_cons]
      exact append (append ofFirst ofSeparator) (inductionHypothesis ofRest)

/-! ### First and last separators -/

theorem forall_ne_of_not_mem {separator : Char} {text : List Char} (absent : separator ∉ text) :
    ∀ c ∈ text, decide (c ≠ separator) = true := by
  intro c member
  rw [decide_eq_true_eq]
  rintro rfl
  exact absent member

theorem beforeFirst_append {separator : Char} {left : List Char} (absent : separator ∉ left)
    (right : List Char) : beforeFirst separator (left ++ separator :: right) = left := by
  rw [beforeFirst, List.takeWhile_append_of_pos (forall_ne_of_not_mem absent)]
  simp

theorem beforeFirst_of_not_mem {separator : Char} {text : List Char} (absent : separator ∉ text) :
    beforeFirst separator text = text :=
  List.takeWhile_eq_self_iff.mpr (forall_ne_of_not_mem absent)

theorem dropWhile_ne_append {separator : Char} {left : List Char} (absent : separator ∉ left)
    (right : List Char) :
    (left ++ separator :: right).dropWhile (fun c => decide (c ≠ separator)) =
      separator :: right := by
  rw [List.dropWhile_append_of_pos (forall_ne_of_not_mem absent)]
  simp

/-- The first separator of a text is determined by the text. -/
theorem eq_and_eq_of_append_cons {separator : Char} {left right leftRest rightRest : List Char}
    (absentLeft : separator ∉ left) (absentRight : separator ∉ right)
    (same : left ++ separator :: leftRest = right ++ separator :: rightRest) :
    left = right ∧ leftRest = rightRest := by
  have fronts := congrArg (beforeFirst separator) same
  rw [beforeFirst_append absentLeft, beforeFirst_append absentRight] at fronts
  subst fronts
  exact ⟨rfl, (List.cons.inj (List.append_cancel_left same)).2⟩

theorem dropWhile_ne_of_not_mem {separator : Char} {text : List Char} (absent : separator ∉ text) :
    text.dropWhile (fun c => decide (c ≠ separator)) = [] := by
  rw [List.dropWhile_eq_nil_iff]
  exact forall_ne_of_not_mem absent

theorem afterLast_of_not_mem {separator : Char} {text : List Char} (absent : separator ∉ text) :
    afterLast separator text = text := by
  have reversed : separator ∉ text.reverse := fun member => absent (List.mem_reverse.mp member)
  rw [afterLast, List.takeWhile_eq_self_iff.mpr (forall_ne_of_not_mem reversed),
    List.reverse_reverse]

/-- Nothing before a separator counts. -/
theorem afterLast_append_cons (separator : Char) (left right : List Char) :
    afterLast separator (left ++ separator :: right) = afterLast separator right := by
  rw [afterLast, afterLast, List.reverse_append, List.reverse_cons, List.append_assoc,
    List.singleton_append, List.takeWhile_append, List.takeWhile_cons_of_neg (by simp),
    List.append_nil]
  split
  · next all =>
    rw [(List.takeWhile_sublist _).eq_of_length all]
  · rfl

theorem afterLast_append_of_not_mem {separator : Char} (left : List Char) {right : List Char}
    (absent : separator ∉ right) :
    afterLast separator (left ++ right) = afterLast separator left ++ right := by
  have reversed : separator ∉ right.reverse := fun member => absent (List.mem_reverse.mp member)
  rw [afterLast, List.reverse_append, List.takeWhile_append_of_pos (forall_ne_of_not_mem reversed),
    List.reverse_append, List.reverse_reverse]
  rfl

theorem afterLast_append {separator : Char} (left : List Char) {right : List Char}
    (absent : separator ∉ right) : afterLast separator (left ++ separator :: right) = right := by
  rw [afterLast_append_cons, afterLast_of_not_mem absent]

theorem afterLast_suffix (separator : Char) (text : List Char) :
    afterLast separator text <:+ text := by
  rw [← List.reverse_prefix, afterLast, List.reverse_reverse]
  exact List.takeWhile_prefix _

/-- The last separator of a text. -/
theorem exists_last_of_mem {separator : Char} {text : List Char} (member : separator ∈ text) :
    ∃ front tail, text = front ++ separator :: tail ∧ separator ∉ tail := by
  obtain ⟨back, rest, reversed, absent⟩ :=
    List.eq_append_cons_of_mem (List.mem_reverse.mpr member)
  refine ⟨rest.reverse, back.reverse, ?_, fun inBack => absent (List.mem_reverse.mp inBack)⟩
  rw [← List.reverse_reverse text, reversed]
  simp

end SharpTypes.Text

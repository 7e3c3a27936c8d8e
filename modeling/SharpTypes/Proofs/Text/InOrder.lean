/-
Texts that stand in another one behind each other. They may have anything before, between and after
them but do not overlap, so together they are no longer than the text. What stands in order inside
of each of them stands in order in the whole.
-/

import Mathlib.Data.List.Infix
import Mathlib.Tactic.Common
import SharpTypes.Proofs.Text.Separator

namespace SharpTypes.Text

/-- The pieces stand in the text, each behind the end of the one before it. -/
inductive StandInOrder : List (List Char) → List Char → Prop where
  | none (text : List Char) : StandInOrder [] text
  | next {piece rest : List Char} {pieces : List (List Char)} (gap : List Char)
      (later : StandInOrder pieces rest) : StandInOrder (piece :: pieces) (gap ++ piece ++ rest)

namespace StandInOrder

variable {pieces : List (List Char)} {text : List Char}

theorem prepend (inOrder : StandInOrder pieces text) (front : List Char) :
    StandInOrder pieces (front ++ text) := by
  cases inOrder with
  | none => exact .none _
  | next gap later =>
    rw [List.append_assoc, ← List.append_assoc, ← List.append_assoc]
    exact .next (front ++ gap) later

theorem append {others : List (List Char)} {behind : List Char}
    (inOrder : StandInOrder pieces text) (inBehind : StandInOrder others behind) :
    StandInOrder (pieces ++ others) (text ++ behind) := by
  induction inOrder with
  | none text => exact inBehind.prepend text
  | next gap _ inductionHypothesis =>
    rw [List.append_assoc]
    exact .next gap inductionHypothesis

theorem within {inner : List Char} (inOrder : StandInOrder pieces inner)
    (inside : inner <:+: text) : StandInOrder pieces text := by
  obtain ⟨front, back, rfl⟩ := inside
  have whole := (inOrder.prepend front).append (.none back)
  rwa [List.append_nil] at whole

theorem singleton {piece : List Char} (inside : piece <:+: text) : StandInOrder [piece] text := by
  have here : StandInOrder [piece] ([] ++ piece ++ []) := .next [] (.none [])
  rw [List.append_nil, List.nil_append] at here
  exact here.within inside

/-- What stands in order in each piece stands in order in the text. -/
theorem flatMap (inOrder : StandInOrder pieces text) {parts : List Char → List (List Char)}
    (each : ∀ piece ∈ pieces, StandInOrder (parts piece) piece) :
    StandInOrder (pieces.flatMap parts) text := by
  induction inOrder with
  | none text => exact .none text
  | next gap _ inductionHypothesis =>
    obtain ⟨ofFirst, ofRest⟩ := List.forall_mem_cons.mp each
    rw [List.append_assoc]
    exact (ofFirst.append (inductionHypothesis ofRest)).prepend gap

/-- So it does behind other pieces. -/
theorem append_flatMap {fronts : List (List Char)} {parts : List Char → List (List Char)}
    (inOrder : StandInOrder (fronts ++ pieces) text)
    (each : ∀ piece ∈ pieces, StandInOrder (parts piece) piece) :
    StandInOrder (fronts ++ pieces.flatMap parts) text := by
  induction fronts generalizing text with
  | nil => exact inOrder.flatMap each
  | cons front others inductionHypothesis =>
    cases inOrder with
    | next gap later => exact .next gap (inductionHypothesis later)

theorem sublist (inOrder : StandInOrder pieces text) {kept : List (List Char)}
    (isSublist : kept.Sublist pieces) : StandInOrder kept text := by
  induction isSublist generalizing text with
  | slnil => exact inOrder
  | cons piece _ inductionHypothesis =>
    cases inOrder with
    | next gap later => exact (inductionHypothesis later).prepend _
  | cons_cons piece _ inductionHypothesis =>
    cases inOrder with
    | next gap later => exact .next gap (inductionHypothesis later)

/-- The pieces do not overlap, so the text is at least as long as all of them together. -/
theorem byteSize_flatten_le (inOrder : StandInOrder pieces text) :
    byteSize pieces.flatten ≤ byteSize text := by
  induction inOrder with
  | none => exact Nat.zero_le _
  | next gap _ inductionHypothesis =>
    rw [List.flatten_cons, byteSize_append, byteSize_append, byteSize_append]
    omega

end StandInOrder

theorem byteSize_le_of_isInfix {part text : List Char} (inside : part <:+: text) :
    byteSize part ≤ byteSize text := by
  obtain ⟨before, after, rfl⟩ := inside
  rw [byteSize_append, byteSize_append]
  omega

/-- Joined texts stand in the join in order. -/
theorem standInOrder_join (separator : List Char) (pieces : List (List Char)) :
    StandInOrder pieces (join separator pieces) := by
  induction pieces with
  | nil => exact .none _
  | cons first rest inductionHypothesis =>
    cases rest with
    | nil =>
      rw [join_singleton]
      exact .singleton (List.infix_refl first)
    | cons second others =>
      rw [join_cons_cons, List.append_assoc]
      exact .next [] (inductionHypothesis.prepend separator)

end SharpTypes.Text

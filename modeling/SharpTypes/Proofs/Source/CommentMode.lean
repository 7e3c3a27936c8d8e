/-
Removing comments as an automaton. Reading source text from the start, one is in code, in a line
comment or in a block comment, and the next one or two characters say what is emitted and what one
is in behind them. What is emitted is the text without its comments. No comment opens in it: a slash
right in front of a comment would have opened one itself, so none is left there to open one with
what stands behind the comment.
-/

import Mathlib.Data.List.Infix
import Mathlib.Tactic.Common
import SharpTypes.Proofs.Checked.Comment
import SharpTypes.Proofs.Source.MarkerReading

namespace SharpTypes.Source.Comment

open Text

/-! ### The automaton -/

/-- What one is in, reading source text. -/
inductive Mode where
  | code
  | line
  | block
  deriving DecidableEq, Repr

/-- What is emitted while the text is read. A line comment ends in front of the line end, and a
block comment behind the first `*/` after the two characters that open it. -/
def emitted : Mode → List Char → List Char
  | _, [] => []
  | .code, '/' :: '/' :: rest => emitted .line rest
  | .code, '/' :: '*' :: rest => emitted .block rest
  | .code, c :: rest => c :: emitted .code rest
  | .line, '\n' :: rest => '\n' :: emitted .code rest
  | .line, _ :: rest => emitted .line rest
  | .block, '*' :: '/' :: rest => emitted .code rest
  | .block, _ :: rest => emitted .block rest

/-- What is left of the text behind the comment that one is in. -/
def Mode.leave : Mode → List Char → List Char
  | .code, text => text
  | .line, text => afterLine text
  | .block, text => afterBlock text

/-- What is emitted is what is left behind the open comment, without its comments. -/
theorem emitted_eq (mode : Mode) (text : List Char) :
    emitted mode text = strip (mode.leave text) := by
  fun_induction emitted mode text with
  | case1 mode =>
    have nothing : mode.leave [] = [] := by cases mode <;> rfl
    rw [nothing, strip]
  | case2 rest inductionHypothesis =>
    rw [inductionHypothesis]
    exact (strip.eq_2 rest).symm
  | case3 rest inductionHypothesis =>
    rw [inductionHypothesis]
    exact (strip.eq_3 rest).symm
  | case4 c rest noLine noBlock inductionHypothesis =>
    rw [inductionHypothesis]
    exact (strip.eq_4 c rest noLine noBlock).symm
  | case5 rest inductionHypothesis =>
    have atEnd : afterLine ('\n' :: rest) = '\n' :: rest := rfl
    rw [inductionHypothesis, Mode.leave, Mode.leave, atEnd, strip_cons (by decide)]
  | case6 c rest inside inductionHypothesis =>
    have further : afterLine (c :: rest) = afterLine rest :=
      List.dropWhile_cons_of_pos (decide_eq_true inside)
    rw [inductionHypothesis, Mode.leave, Mode.leave, further]
  | case7 rest inductionHypothesis => exact inductionHypothesis
  | case8 c rest inside inductionHypothesis =>
    have further : afterBlock (c :: rest) = afterBlock rest := afterBlock.eq_3 c rest inside
    rw [inductionHypothesis, Mode.leave, Mode.leave, further]

/-! ### What is left opens no comment -/

/-- Whether a comment opens where the character stands behind a slash. -/
def opensBehindSlash (c : Char) : Bool :=
  c == '/' || c == '*'

theorem isFree_cons {c : Char} {rest : List Char} (free : IsFree rest)
    (closed : c = '/' → Stops opensBehindSlash rest) : IsFree (c :: rest) := by
  have absent {d : Char} (opens : opensBehindSlash d = true) (inside : ['/', d] <:+: c :: rest) :
      ['/', d] <:+: rest := by
    rcases List.infix_cons_iff.mp inside with ⟨behind, same⟩ | later
    · obtain ⟨rfl, rfl⟩ := List.cons.inj same
      have stop := closed rfl d rfl
      rw [opens] at stop
      cases stop
    · exact later
  exact ⟨fun line => free.1 (absent rfl line), fun block => free.2 (absent rfl block)⟩

/-- What is left without comments opens none. -/
theorem isFree_strip (text : List Char) : IsFree (strip text) := by
  fun_induction strip text with
  | case1 => exact isFree_of_not_mem List.not_mem_nil
  | case2 rest inductionHypothesis => exact inductionHypothesis
  | case3 rest inductionHypothesis => exact inductionHypothesis
  | case4 c rest noLine noBlock inductionHypothesis =>
    refine isFree_cons inductionHypothesis ?_
    rintro rfl
    -- The character behind a slash that stays is no slash itself, so it stays as well.
    cases rest with
    | nil =>
      rw [strip]
      exact stops_nil _
    | cons d later =>
      have notSlash : d ≠ '/' := fun same => noLine later rfl (by rw [same])
      have notStar : d ≠ '*' := fun same => noBlock later rfl (by rw [same])
      rw [strip_cons notSlash]
      exact stops_cons (by simp [opensBehindSlash, notSlash, notStar]) _

theorem strip_of_isFree {text : List Char} (free : IsFree text) : strip text = text := by
  fun_induction strip text with
  | case1 => rfl
  | case2 rest _ => exact absurd ⟨[], rest, rfl⟩ free.1
  | case3 rest _ => exact absurd ⟨[], rest, rfl⟩ free.2
  | case4 c rest _ _ inductionHypothesis =>
    rw [inductionHypothesis (free.of_infix (List.suffix_cons c rest).isInfix)]

/-- Exactly the texts that open no comment stay as they are. -/
theorem strip_eq_self_iff (text : List Char) : strip text = text ↔ IsFree text :=
  ⟨fun same => same ▸ isFree_strip text, strip_of_isFree⟩

/-- Removing comments, by characters or by byte offsets, is what the automaton does. Nothing that is
left opens a comment, a text that opens none stays as it is, and so removing comments once is
enough. -/
theorem strip_runs_automaton (text : List Char) :
    strip text = emitted .code text ∧ Checked.strip text = .ok (emitted .code text) ∧
      IsFree (strip text) ∧ (strip text = text ↔ IsFree text) ∧
      strip (strip text) = strip text := by
  have same : strip text = emitted .code text := (emitted_eq .code text).symm
  refine ⟨same, ?_, isFree_strip text, strip_eq_self_iff text, ?_⟩
  · rw [Checked.strip_eq, same]
  · exact strip_of_isFree (isFree_strip text)

/-- A comment between two slashes joins nothing, and `/*/` opens a comment without closing it. -/
example : emitted .code "a / b //* c\n/*/ d */ e/".toList = "a / b \n e/".toList := by decide

end SharpTypes.Source.Comment

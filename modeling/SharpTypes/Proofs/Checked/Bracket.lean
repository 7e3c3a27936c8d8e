/-
Brackets by offsets. The bracket that closes an open one is found by counting: the depth goes up and
down and is at zero behind the closing bracket, never below. What is in between is sliced out, one
byte behind the opening bracket, and so are the parts between separators.
-/

import Mathlib.Tactic.Common
import SharpTypes.Proofs.Checked.Access
import SharpTypes.Source.Bracket

namespace SharpTypes.Checked

open Text Source

variable {bracket : Bracket} {text rest : List Char} {start position : Nat}

/-! ### The closing bracket -/

/-- The offset of the bracket that brings the depth to zero, from the offset of a character on. -/
def closingFrom (bracket : Bracket) : Nat → Nat → List Char → Except Fault (Option Nat)
  | _, _, [] => .ok none
  | offset, depth, c :: rest =>
    if c = bracket.opening then closingFrom bracket (offset + c.utf8Size) (depth + 1) rest
    else if c = bracket.closing then do
      let outer ← subtract depth 1
      if outer = 0 then .ok (some offset)
      else closingFrom bracket (offset + c.utf8Size) outer rest
    else closingFrom bracket (offset + c.utf8Size) depth rest

/-- The offset of the bracket that closes the one at an offset. -/
def findClosing (bracket : Bracket) (text : List Char) (start : Nat) :
    Except Fault (Option Nat) := do
  let opened ← sliceFrom text start
  if opened.head? = some bracket.opening then
    return (← closingFrom bracket 0 0 opened).map (start + ·)
  else return none

/-- Inside of a bracket the depth is one or more, so one can be subtracted. -/
theorem closingFrom_succ (offset depth : Nat) (rest : List Char) :
    closingFrom bracket offset (depth + 1) rest =
      .ok ((bracket.untilClosing depth rest).map fun found => offset + byteSize found.1) := by
  -- What is found behind a character is found one character further.
  have further (offset : Nat) (c : Char) (found : Option (List Char × List Char)) :
      (found.map fun found => offset + c.utf8Size + byteSize found.1) =
        (found.map fun found => (c :: found.1, found.2)).map fun found =>
          offset + byteSize found.1 := by
    rw [Option.map_map]
    exact Option.map_congr fun found _ => Nat.add_assoc ..
  fun_induction Bracket.untilClosing bracket depth rest generalizing offset with
  | case1 => rfl
  | case2 depth rest inductionHypothesis =>
    rw [closingFrom, if_pos rfl, inductionHypothesis, further]
  | case3 rest notOpening =>
    rw [closingFrom, if_neg notOpening, if_pos rfl, Nat.add_comm, subtract_add, ok_bind, if_pos rfl]
    rfl
  | case4 rest inner notOpening inductionHypothesis =>
    rw [closingFrom, if_neg notOpening, if_pos rfl, Nat.add_comm, subtract_add, ok_bind,
      if_neg (Nat.succ_ne_zero inner), inductionHypothesis, further]
  | case5 depth c rest notOpening notClosing inductionHypothesis =>
    rw [closingFrom, if_neg notOpening, if_neg notClosing, inductionHypothesis, further]

/-- The search goes wrong only at an offset that is none, whatever the brackets are. -/
theorem findClosing_eq (bracket : Bracket) (text : List Char) (start : Nat) :
    findClosing bracket text start = (bracket.closingOffset text start).mapError .badOffset := by
  unfold findClosing Bracket.closingOffset sliceFrom
  cases dropBytes start text with
  | error fault => rfl
  | ok opened =>
    show (Except.ok opened >>= _) = Except.ok _
    rw [ok_bind]
    cases opened with
    | nil => rfl
    | cons c rest =>
      rw [Bracket.enclosed?]
      by_cases opens : c = bracket.opening
      · subst opens
        rw [if_pos rfl, if_pos List.head?_cons, closingFrom, if_pos rfl, closingFrom_succ, ok_bind,
          Option.map_map, Nat.zero_add]
        exact congrArg Except.ok (Option.map_congr fun found _ => (Nat.add_assoc ..).symm)
      · rw [if_neg opens, if_neg (by simpa using opens)]
        rfl

/-! ### The interior -/

/-- What the bracket at an offset encloses, and the offset of the closing one. -/
def enclosed (bracket : Bracket) (text : List Char) (start : Nat) :
    Except Fault (Option (List Char × Nat)) := do
  match ← findClosing bracket text start with
  | none => return none
  | some stop => return some (← slice text (start + 1) stop, stop)

/-- The interior of the first bracket in a text. -/
def body (bracket : Bracket) (text : List Char) : Except Fault (Option (List Char)) :=
  match offsetOf? bracket.opening text with
  | none => return none
  | some start => do return (← enclosed bracket text start).map Prod.fst

/-- At a good offset there is what the bracket encloses, up to an offset from which the text goes on
with the closing bracket. An opening bracket of one byte is needed. -/
theorem enclosed_eq (narrow : bracket.opening.utf8Size = 1) (here : GoesOn text start rest) :
    (bracket.enclosed? rest = none ∧ enclosed bracket text start = .ok none) ∨
      ∃ interior behind stop, bracket.enclosed? rest = some (interior, behind) ∧
        enclosed bracket text start = .ok (some (interior, stop)) ∧
        GoesOn text stop (bracket.closing :: behind) := by
  have opened : dropBytes start text = .ok rest := by
    obtain ⟨before, rfl, rfl⟩ := here
    exact dropBytes_append before rest
  have searched : findClosing bracket text start =
      .ok ((bracket.enclosed? rest).map fun found =>
        start + bracket.opening.utf8Size + byteSize found.1) := by
    rw [findClosing_eq, Bracket.closingOffset, opened]
    rfl
  rw [enclosed, searched, ok_bind, narrow]
  cases found : bracket.enclosed? rest with
  | none => exact .inl ⟨rfl, rfl⟩
  | some parts =>
    obtain ⟨interior, behind⟩ := parts
    have inside : GoesOn text (start + 1) (interior ++ bracket.closing :: behind) := by
      rw [Bracket.eq_of_enclosed? found, List.cons_append] at here
      exact narrow ▸ here.forward_cons
    refine .inr ⟨interior, behind, _, rfl, ?_, inside.forward⟩
    show (slice text (start + 1) (start + 1 + byteSize interior) >>= _) = _
    rw [slice_eq_ok inside inside.forward, ok_bind]
    rfl

theorem body_eq (narrow : bracket.opening.utf8Size = 1) (text : List Char) :
    body bracket text = .ok (bracket.body? text) := by
  unfold body Bracket.body?
  rcases offsetOf?_cases bracket.opening text with
    ⟨absent, all⟩ | ⟨start, behind, found, reached, here⟩
  · rw [absent, all]
    rfl
  · rw [found, reached]
    dsimp only
    rcases enclosed_eq narrow here with
      ⟨unmatched, unclosed⟩ | ⟨interior, after, stop, matched, closed, _⟩
    · rw [unclosed, unmatched, ok_bind]
      rfl
    · rw [closed, matched, ok_bind]
      rfl

/-! ### The parts between separators -/

/-- The parts from a position on, where `start` is the offset behind the last separator. -/
def splitFrom (bracket : Bracket) (separator : Char) (text : List Char) :
    Int → Nat → Nat → List Char → Except Fault (List (List Char))
  | _, start, _, [] => do return [trim (← sliceFrom text start)]
  | depth, start, position, c :: rest =>
    if c = bracket.opening then
      splitFrom bracket separator text (depth + 1) start (position + c.utf8Size) rest
    else if c = bracket.closing then
      splitFrom bracket separator text (depth - 1) start (position + c.utf8Size) rest
    else if c = separator ∧ depth = 0 then do
      let part ← slice text start position
      let next := position + c.utf8Size
      return trim part :: (← splitFrom bracket separator text depth next next rest)
    else splitFrom bracket separator text depth start (position + c.utf8Size) rest

/-- The trimmed parts between the separators outside all brackets. -/
def split (bracket : Bracket) (separator : Char) (text : List Char) :
    Except Fault (List (List Char)) :=
  if text.all isBlank then .ok [] else splitFrom bracket separator text 0 0 0 text

/-- What stands between the last separator and the position is added to the first slice of the rest.
-/
theorem splitFrom_eq {separator : Char} {pending : List Char} (depth : Int)
    (here : GoesOn text start (pending ++ rest)) (there : GoesOn text position rest) :
    splitFrom bracket separator text depth start position rest =
      .ok (((bracket.slices separator depth rest).modifyHead (pending ++ ·)).map trim) := by
  fun_induction Bracket.slices bracket separator depth rest
    generalizing start position pending with
  | case1 depth =>
    rw [List.append_nil] at here
    rw [splitFrom, sliceFrom_eq_ok_iff.mpr here, ok_bind, List.modifyHead_cons, List.append_nil]
    rfl
  | case2 depth rest inductionHypothesis =>
    rw [splitFrom, if_pos rfl, inductionHypothesis here.regroup there.forward_cons,
      modifyHead_pending]
  | case3 depth rest notOpening inductionHypothesis =>
    rw [splitFrom, if_neg notOpening, if_pos rfl,
      inductionHypothesis here.regroup there.forward_cons, modifyHead_pending]
  | case4 depth c rest notOpening notClosing separates inductionHypothesis =>
    have next : GoesOn text (position + c.utf8Size) ([] ++ rest) := there.forward_cons
    rw [splitFrom, if_neg notOpening, if_neg notClosing, if_pos separates, slice_eq_ok here there,
      ok_bind]
    dsimp only
    rw [inductionHypothesis next next, ok_bind, List.modifyHead_cons, List.append_nil,
      List.map_cons, modifyHead_nil]
    rfl
  | case5 depth c rest notOpening notClosing passed inductionHypothesis =>
    rw [splitFrom, if_neg notOpening, if_neg notClosing, if_neg passed,
      inductionHypothesis here.regroup there.forward_cons, modifyHead_pending]

theorem split_eq (bracket : Bracket) (separator : Char) (text : List Char) :
    split bracket separator text = .ok (bracket.split separator text) := by
  have parts : splitFrom bracket separator text 0 0 0 text =
      .ok (((bracket.slices separator 0 text).modifyHead ([] ++ ·)).map trim) :=
    splitFrom_eq 0 (goesOn_zero text) (goesOn_zero text)
  unfold split Bracket.split
  split
  · rfl
  · rw [parts, modifyHead_nil]

end SharpTypes.Checked

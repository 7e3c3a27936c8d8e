/-
Brackets in source text: finding the one that closes, and splitting a list at the separators outside
all brackets. Nothing but the two brackets of the pair at hand is looked at, so quotes and other
kinds of bracket do not shield what they enclose.
-/

import SharpTypes.Text.Class
import SharpTypes.Text.Pieces

namespace SharpTypes.Source

open Text

/-- A pair of brackets. -/
structure Bracket where
  opening : Char
  closing : Char
  deriving DecidableEq, Repr

namespace Bracket

/-- The brackets around the body of a declaration. -/
def curly : Bracket := ⟨'{', '}'⟩

/-- The brackets around type arguments. -/
def angle : Bracket := ⟨'<', '>'⟩

/-- The brackets around an expression. -/
def round : Bracket := ⟨'(', ')'⟩

/-! ### The closing bracket -/

/-- What stands before the bracket that closes an open pair, and what follows it, where `depth`
further pairs have been opened inside. The opening bracket is looked for first, so a pair of equal
brackets never closes. -/
def untilClosing (bracket : Bracket) : Nat → List Char → Option (List Char × List Char)
  | _, [] => none
  | depth, c :: rest =>
    if c = bracket.opening then
      (untilClosing bracket (depth + 1) rest).map fun found => (c :: found.1, found.2)
    else if c = bracket.closing then
      match depth with
      | 0 => some ([], rest)
      | inner + 1 => (untilClosing bracket inner rest).map fun found => (c :: found.1, found.2)
    else
      (untilClosing bracket depth rest).map fun found => (c :: found.1, found.2)

/-- The interior of the bracket that the text opens with, and what follows the closing one. -/
def enclosed? (bracket : Bracket) : List Char → Option (List Char × List Char)
  | [] => none
  | c :: rest => if c = bracket.opening then untilClosing bracket 0 rest else none

/-- The interior of the first bracket in the text. -/
def body? (bracket : Bracket) (text : List Char) : Option (List Char) :=
  (bracket.enclosed? (text.dropWhile (· ≠ bracket.opening))).map Prod.fst

/-- The offset of the bracket that closes the one at the given offset. -/
def closingOffset (bracket : Bracket) (text : List Char) (start : Nat) :
    Except BadOffset (Option Nat) := do
  let opened ← dropBytes start text
  return (bracket.enclosed? opened).map fun found =>
    start + bracket.opening.utf8Size + byteSize found.1

/-- The interior, the closing bracket and the rest make up the text. -/
theorem eq_of_untilClosing {bracket : Bracket} {depth : Nat} {text interior rest : List Char}
    (found : untilClosing bracket depth text = some (interior, rest)) :
    text = interior ++ bracket.closing :: rest := by
  induction text generalizing depth interior with
  | nil => simp [untilClosing] at found
  | cons c later inductionHypothesis =>
    unfold untilClosing at found
    split at found
    · obtain ⟨⟨inside, after⟩, holds, same⟩ := Option.map_eq_some_iff.1 found
      obtain ⟨rfl, rfl⟩ := Prod.mk.inj same
      simp [inductionHypothesis holds]
    · split at found
      · next isClosing =>
        split at found
        · obtain ⟨rfl, rfl⟩ := Prod.mk.inj (Option.some.inj found)
          simp [isClosing]
        · obtain ⟨⟨inside, after⟩, holds, same⟩ := Option.map_eq_some_iff.1 found
          obtain ⟨rfl, rfl⟩ := Prod.mk.inj same
          simp [inductionHypothesis holds]
      · obtain ⟨⟨inside, after⟩, holds, same⟩ := Option.map_eq_some_iff.1 found
        obtain ⟨rfl, rfl⟩ := Prod.mk.inj same
        simp [inductionHypothesis holds]

/-- An enclosed part starts with the opening bracket and ends with the closing one. -/
theorem eq_of_enclosed? {bracket : Bracket} {text interior rest : List Char}
    (found : bracket.enclosed? text = some (interior, rest)) :
    text = bracket.opening :: interior ++ bracket.closing :: rest := by
  cases text with
  | nil => simp [enclosed?] at found
  | cons c later =>
    rw [enclosed?] at found
    split at found
    · next isOpening => simp [isOpening, eq_of_untilClosing found]
    · simp at found

theorem length_of_enclosed? {bracket : Bracket} {text interior rest : List Char}
    (found : bracket.enclosed? text = some (interior, rest)) :
    interior.length + rest.length + 2 = text.length := by
  rw [eq_of_enclosed? found]
  simp only [List.cons_append, List.length_cons, List.length_append]
  omega

/-! ### Splitting outside brackets -/

/-- The slices between the separators at depth zero, where the text starts at the given depth. A
closing bracket too many makes the depth negative, and separators count again once as many are
opened. -/
def slices (bracket : Bracket) (separator : Char) : Int → List Char → List (List Char)
  | _, [] => [[]]
  | depth, c :: rest =>
    if c = bracket.opening then (slices bracket separator (depth + 1) rest).modifyHead (c :: ·)
    else if c = bracket.closing then
      (slices bracket separator (depth - 1) rest).modifyHead (c :: ·)
    else if c = separator ∧ depth = 0 then [] :: slices bracket separator depth rest
    else (slices bracket separator depth rest).modifyHead (c :: ·)

/-- The trimmed parts between the separators outside all brackets. Empty parts stay, so that a
caller can tell a list with a gap; a blank text has no parts. -/
def split (bracket : Bracket) (separator : Char) (text : List Char) : List (List Char) :=
  if text.all isBlank then [] else (slices bracket separator 0 text).map trim

theorem length_le_of_mem_slices {bracket : Bracket} {separator : Char} {depth : Int}
    {text slice : List Char} (member : slice ∈ slices bracket separator depth text) :
    slice.length ≤ text.length := by
  have ofHead {c : Char} {rest : List Char} {pieces : List (List Char)}
      (bound : ∀ piece ∈ pieces, piece.length ≤ rest.length) :
      ∀ piece ∈ pieces.modifyHead (c :: ·), piece.length ≤ (c :: rest).length := by
    cases pieces with
    | nil => simp
    | cons first others =>
      intro piece inside
      rcases List.mem_cons.1 (by simpa using inside) with rfl | later
      · simpa using bound first List.mem_cons_self
      · exact Nat.le_succ_of_le (bound piece (List.mem_cons_of_mem _ later))
  induction text generalizing depth slice with
  | nil => simp_all [slices]
  | cons c rest inductionHypothesis =>
    unfold slices at member
    split at member
    · exact ofHead (fun _ inside => inductionHypothesis inside) slice member
    · split at member
      · exact ofHead (fun _ inside => inductionHypothesis inside) slice member
      · split at member
        · rcases List.mem_cons.1 member with rfl | later
          · simp
          · exact Nat.le_succ_of_le (inductionHypothesis later)
        · exact ofHead (fun _ inside => inductionHypothesis inside) slice member

/-- No part is longer than the text. -/
theorem length_le_of_mem_split {bracket : Bracket} {separator : Char} {text part : List Char}
    (member : part ∈ bracket.split separator text) : part.length ≤ text.length := by
  unfold split at member
  split at member
  · simp at member
  · obtain ⟨slice, inside, rfl⟩ := List.mem_map.1 member
    exact Nat.le_trans (length_trim_le slice) (length_le_of_mem_slices inside)

end Bracket

end SharpTypes.Source

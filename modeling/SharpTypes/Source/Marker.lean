/-
Markers. A declaration opts in by an attribute of a chosen name, written `[Name]`, `[NameAttribute]`
or with arguments in parentheses, and blanks between the parts. Markers are found from left to right
and do not overlap.
-/

import SharpTypes.Text.Class
import SharpTypes.Text.Pieces

namespace SharpTypes.Source.Marker

open Text

/-- What follows an argument list in parentheses, which is opened and closed by the next parenthesis
and holds no square bracket that closes. -/
def afterArguments? : List Char → Option (List Char)
  | '(' :: rest =>
    match rest.dropWhile fun c => c ≠ ')' && c ≠ ']' with
    | ')' :: after => some after
    | _ => none
  | _ => none

/-- What follows the rest of a marker after its name: an optional `Attribute`, optional arguments
and the closing bracket. -/
def afterName? (text : List Char) : Option (List Char) :=
  let suffixed := trimStart ((dropStart? "Attribute".toList text).getD text)
  match trimStart ((afterArguments? suffixed).getD suffixed) with
  | ']' :: rest => some rest
  | _ => none

/-- What follows the marker of the given name that starts after the opening bracket. The name may
itself start with blanks, so every number of blanks before it is tried, the greatest first. -/
def afterOpening? (name text : List Char) : Option (List Char) :=
  let blanks := (text.takeWhile isBlank).length
  (List.range (blanks + 1)).reverse.findSome? fun skipped =>
    (dropStart? name (text.drop skipped)).bind afterName?

/-- What follows the marker that the text starts with. -/
def after? (name : List Char) : List Char → Option (List Char)
  | '[' :: text => afterOpening? name text
  | _ => none

/-! ### What follows is shorter -/

theorem length_afterArguments?_le {text rest : List Char}
    (found : afterArguments? text = some rest) : rest.length ≤ text.length := by
  unfold afterArguments? at found
  split at found
  · next inside =>
    have bound := (List.dropWhile_sublist (p := fun c => decide (c ≠ ')') && decide (c ≠ ']'))
      (l := inside)).length_le
    split at found
    · next after same =>
      obtain rfl := Option.some.inj found
      simp only [same, List.length_cons] at bound ⊢
      omega
    · simp at found
  · simp at found

theorem length_afterName?_le {text rest : List Char} (found : afterName? text = some rest) :
    rest.length ≤ text.length := by
  unfold afterName? at found
  simp only at found
  have suffixed : ((dropStart? "Attribute".toList text).getD text).length ≤ text.length := by
    cases given : dropStart? "Attribute".toList text with
    | none => simp
    | some later =>
      have sizes := congrArg List.length (dropStart?_eq_some_iff.1 given)
      simp only [List.length_append] at sizes
      simp only [Option.getD_some]
      omega
  generalize (dropStart? "Attribute".toList text).getD text = body at found suffixed
  have arguments :
      ((afterArguments? (trimStart body)).getD (trimStart body)).length ≤ body.length := by
    have trimmed := length_trimStart_le body
    cases given : afterArguments? (trimStart body) with
    | none => simpa using trimmed
    | some later => exact Nat.le_trans (length_afterArguments?_le given) trimmed
  generalize (afterArguments? (trimStart body)).getD (trimStart body) = closing at found arguments
  have trimmed := length_trimStart_le closing
  split at found
  · next same =>
    obtain rfl := Option.some.inj found
    simp only [same, List.length_cons] at trimmed
    omega
  · simp at found

theorem length_after?_lt {name text rest : List Char} (found : after? name text = some rest) :
    rest.length < text.length := by
  unfold after? at found
  split at found
  · next opened =>
    obtain ⟨skipped, _, holds⟩ := List.exists_of_findSome?_eq_some found
    obtain ⟨named, given, closed⟩ := Option.bind_eq_some_iff.1 holds
    have sizes := congrArg List.length (dropStart?_eq_some_iff.1 given)
    have bound := length_afterName?_le closed
    simp only [List.length_drop, List.length_append] at sizes
    simp only [List.length_cons]
    omega
  · simp at found

/-! ### All markers -/

/-- A marker in a text. -/
structure Occurrence where
  /-- Where the marker starts, in bytes. -/
  offset : Nat
  /-- The text after it. -/
  rest : List Char
  deriving DecidableEq, Repr

/-- The markers of a text that starts at the given offset. -/
def occurrencesFrom (name : List Char) (offset : Nat) (text : List Char) : List Occurrence :=
  match text with
  | [] => []
  | c :: later =>
    match _found : after? name (c :: later) with
    | some rest =>
      let marker := (c :: later).take (later.length + 1 - rest.length)
      ⟨offset, rest⟩ :: occurrencesFrom name (offset + byteSize marker) rest
    | none => occurrencesFrom name (offset + c.utf8Size) later
termination_by text.length
decreasing_by
  · exact length_after?_lt (by assumption)
  · simp

/-- The markers of a text, from left to right. -/
def occurrences (name text : List Char) : List Occurrence :=
  occurrencesFrom name 0 text

end SharpTypes.Source.Marker

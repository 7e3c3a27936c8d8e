/-
The first line of a declaration. After further attributes comes `public`, then `enum` or, behind any
of a few modifiers, `class`, then the name; for a class, its type parameters and its first base type
may follow. Every reader here returns what it read and the text after it, and reads nothing if the
text does not start as it should.
-/

import SharpTypes.Source.Bracket
import SharpTypes.Source.TypeShape

namespace SharpTypes.Source

open Text

/-! ### Words -/

/-- What follows a keyword and the blanks after it, of which there is at least one. -/
def afterKeyword? (keyword text : List Char) : Option (List Char) :=
  match dropStart? keyword text with
  | some (c :: rest) => if isBlank c then some (trimStart rest) else none
  | _ => none

/-- The longest word that the text starts with, and what follows it. -/
def word? (text : List Char) : Option (List Char × List Char) :=
  match text.takeWhile isWord with
  | [] => none
  | word => some (word, text.dropWhile isWord)

theorem length_afterKeyword?_lt {keyword text rest : List Char}
    (found : afterKeyword? keyword text = some rest) : rest.length < text.length := by
  unfold afterKeyword? at found
  split at found
  · next c later given =>
    have sizes := congrArg List.length (dropStart?_eq_some_iff.1 given)
    have trimmed := length_trimStart_le later
    split at found
    · obtain rfl := Option.some.inj found
      simp only [List.length_append, List.length_cons] at sizes
      omega
    · simp at found
  · simp at found

namespace Header

/-! ### Attributes and modifiers -/

/-- What follows one attribute section, which ends at the next closing bracket. -/
def afterAttribute? (text : List Char) : Option (List Char) :=
  match trimStart text with
  | '[' :: inside =>
    match inside.dropWhile (· ≠ ']') with
    | _ :: rest => some rest
    | [] => none
  | _ => none

theorem length_afterAttribute?_lt {text rest : List Char}
    (found : afterAttribute? text = some rest) : rest.length < text.length := by
  have trimmed := length_trimStart_le text
  unfold afterAttribute? at found
  split at found
  · next inside same =>
    have bound := (List.dropWhile_sublist (p := fun c => decide (c ≠ ']')) (l := inside)).length_le
    rw [same] at trimmed
    split at found
    · next later given =>
      obtain rfl := Option.some.inj found
      simp only [given, List.length_cons] at bound trimmed
      omega
    · simp at found
  · simp at found

/-- What follows all attribute sections at the start of the text. -/
def afterAttributes (text : List Char) : List Char :=
  match _found : afterAttribute? text with
  | some rest => afterAttributes rest
  | none => text
termination_by text.length
decreasing_by exact length_afterAttribute?_lt (by assumption)

/-- The modifiers that may stand before `class`. -/
def classModifiers : List (List Char) :=
  ["abstract", "sealed", "partial"].map String.toList

/-- What follows all class modifiers at the start of the text. -/
def afterClassModifiers (text : List Char) : List Char :=
  match _found : classModifiers.findSome? fun modifier => afterKeyword? modifier text with
  | some rest => afterClassModifiers rest
  | none => text
termination_by text.length
decreasing_by
  obtain ⟨_, _, holds⟩ := List.exists_of_findSome?_eq_some (by assumption)
  exact length_afterKeyword?_lt holds

/-- What follows the attributes and the keyword `public`. -/
def afterPublic? (text : List Char) : Option (List Char) :=
  afterKeyword? "public".toList (trimStart (afterAttributes text))

/-! ### Names -/

/-- The name of the enumeration that the text declares. -/
def enumeration? (text : List Char) : Option (List Char × List Char) :=
  ((afterPublic? text).bind (afterKeyword? "enum".toList)).bind word?

/-- The name of the class that the text declares. -/
def object? (text : List Char) : Option (List Char × List Char) :=
  ((afterPublic? text).bind fun rest =>
    afterKeyword? "class".toList (afterClassModifiers rest)).bind word?

/-- A list in angle brackets, without its empty parts. -/
def genericList? (text : List Char) : Option (List (List Char) × List Char) :=
  (Bracket.angle.enclosed? text).map fun found =>
    ((typeArguments found.1).filter fun part => !part.isEmpty, found.2)

/-- A list in angle brackets if the text starts with one, else no parts. -/
def genericList (text : List Char) : List (List Char) × List Char :=
  (genericList? text).getD ([], text)

/-- A type name, possibly qualified: a letter or `_`, then word characters and dots. -/
def qualifiedName? : List Char → Option (List Char × List Char)
  | [] => none
  | first :: rest =>
    if isLetter first || first == '_' then
      let belongs := fun c => isWord c || c == '.'
      some (first :: rest.takeWhile belongs, rest.dropWhile belongs)
    else none

/-- The first base type of a class: its name and its arguments. -/
structure BaseType where
  name : List Char
  arguments : List (List Char)
  deriving DecidableEq, Repr

/-- The base type that a colon at the start of the text introduces, if any. -/
def baseType (text : List Char) : Option BaseType × List Char :=
  match text with
  | ':' :: rest =>
    match qualifiedName? (trimStart rest) with
    | some (name, later) =>
      let (arguments, after) := genericList (trimStart later)
      (some ⟨name, arguments⟩, after)
    | none => (none, trimStart rest)
  | _ => (none, text)

end Header

end SharpTypes.Source

/-
The texts of type expressions, character by character. Where all names are identifiers, the text of
a type expression is made of characters that may stand in the type of a property, it starts with a
name, and each of its square brackets is closed at once.
-/

import Mathlib.Tactic.Common
import SharpTypes.Proofs.Source.Listing
import SharpTypes.Proofs.Source.TypeMeaning

namespace SharpTypes.Source

open Text

namespace Listing

/-- The kinds of characters in the text of a type expression: blanks, the characters of names, and
punctuation. -/
def IsTypeText (text : List Char) : Prop :=
  ∀ c ∈ text, Property.isTypeCharacter c = true

instance (text : List Char) : Decidable (IsTypeText text) :=
  inferInstanceAs (Decidable (∀ c ∈ text, Property.isTypeCharacter c = true))

theorem IsTypeText.append {left right : List Char} (isLeft : IsTypeText left)
    (isRight : IsTypeText right) : IsTypeText (left ++ right) :=
  List.forall_mem_append.mpr ⟨isLeft, isRight⟩

theorem isTypeText_of_blank {text : List Char} (blank : Blank text) : IsTypeText text := by
  intro c member
  simp [Property.isTypeCharacter, blank c member]

theorem isTypeText_of_isWordText {text : List Char} (word : IsWordText text) : IsTypeText text := by
  intro c member
  simp [Property.isTypeCharacter, word c member]

theorem IsTypeText.not_mem {text : List Char} (isTypeText : IsTypeText text) {c : Char}
    (different : Property.isTypeCharacter c = false) : c ∉ text := by
  intro member
  rw [isTypeText c member] at different
  cases different

theorem IsProper.isWordText {name : TypeName} (proper : IsProper name) : IsWordText name.text := by
  obtain ⟨⟨identifier, same⟩, _⟩ := proper
  rw [same]
  exact fun c member => identifier.isWord_of_mem member

end Listing

open Listing

/-! ### What a type expression is made of -/

/-- A kind of texts that type expressions belong to because all that they are made of does. -/
structure IsComposed (kind : List Char → Prop) : Prop where
  append : ∀ {left right : List Char}, kind left → kind right → kind (left ++ right)
  blank : ∀ {text : List Char}, Blank text → kind text
  word : ∀ {text : List Char}, IsWordText text → kind text
  brackets : kind ['[', ']']
  mark : ∀ c ∈ ['.', '<', '>', ',', '?'], kind [c]

namespace IsComposed

variable {kind : List Char → Prop}

section

variable (composed : IsComposed kind)
include composed

theorem cons {c : Char} {rest : List Char} (isMark : c ∈ ['.', '<', '>', ',', '?'])
    (isRest : kind rest) : kind (c :: rest) :=
  composed.append (composed.mark c isMark) isRest

theorem join {texts : List (List Char)} (isTexts : ∀ text ∈ texts, kind text) :
    kind (join [','] texts) :=
  join_of_append (composed.blank blank_nil) composed.append (composed.mark ',' (by decide)) isTexts

theorem qualifiedName {name : QualifiedName} {text : List Char} (written : name.Written text)
    (proper : ∀ part ∈ name.qualifiers ++ [name.last], IsProper part) : kind text := by
  induction written with
  | @last last before after blankBefore blankAfter =>
    have isWordText := (proper last (by simp)).isWordText
    exact composed.append (composed.append (composed.blank blankBefore) (composed.word isWordText))
      (composed.blank blankAfter)
  | @qualified qualifier last qualifiers before after rest blankBefore blankAfter _
      inductionHypothesis =>
    have isWordText := (proper qualifier (by simp)).isWordText
    refine composed.append (composed.append (composed.append (composed.blank blankBefore)
      (composed.word isWordText)) (composed.blank blankAfter)) ?_
    exact composed.cons (by decide) (inductionHypothesis fun part member =>
      proper part (List.mem_cons_of_mem _ member))

/-- A name and what stands in angle brackets behind it. -/
theorem angled {name : QualifiedName} {front interior after : List Char}
    (written : name.Written front) (proper : ∀ part ∈ name.qualifiers ++ [name.last], IsProper part)
    (inside : kind interior) (blankAfter : Blank after) :
    kind (front ++ '<' :: interior ++ '>' :: after) :=
  composed.append (composed.append (composed.qualifiedName written proper)
    (composed.cons (by decide) inside)) (composed.cons (by decide) (composed.blank blankAfter))

end

mutual

theorem typeExpression (composed : IsComposed kind) {text : List Char} :
    (type : TypeExpression) → type.Written text → (∀ name ∈ type.names, IsProper name) → kind text
  | .bare type, .bare written, proper => composed.bareTypeExpression type written proper
  | .nullable type, .nullable written blankAfter, proper =>
    composed.append (composed.bareTypeExpression type written proper)
      (composed.cons (by decide) (composed.blank blankAfter))

theorem bareTypeExpression (composed : IsComposed kind) {text : List Char} :
    (type : BareTypeExpression) → type.Written text → (∀ name ∈ type.names, IsProper name) →
      kind text
  | .name _, .name written, proper => composed.qualifiedName written proper
  | .array element, .array written blankAfter, proper =>
    composed.append (composed.typeExpression element written proper)
      (composed.append composed.brackets (composed.blank blankAfter))
  | .wrapper _ _ argument, .wrapper writtenName written blankAfter, proper =>
    composed.angled writtenName (List.forall_mem_append.mp proper).1
      (composed.typeExpression argument written (List.forall_mem_append.mp proper).2) blankAfter
  | .generic _ _ arguments, .generic writtenName written blankAfter, proper =>
    composed.angled writtenName (List.forall_mem_append.mp proper).1
      (composed.join
        (composed.typeArguments arguments written (List.forall_mem_append.mp proper).2))
      blankAfter

theorem typeArguments (composed : IsComposed kind) {texts : List (List Char)} :
    (arguments : TypeArguments) → arguments.Written texts →
      (∀ name ∈ arguments.names, IsProper name) → ∀ text ∈ texts, kind text
  | .one argument, .one written, proper =>
    List.forall_mem_singleton.mpr (composed.typeExpression argument written proper)
  | .more argument rest, .more written others, proper =>
    List.forall_mem_cons.mpr
      ⟨composed.typeExpression argument written (List.forall_mem_append.mp proper).1,
        composed.typeArguments rest others (List.forall_mem_append.mp proper).2⟩

end

end IsComposed

theorem isComposed_isTypeText : IsComposed IsTypeText where
  append := IsTypeText.append
  blank := isTypeText_of_blank
  word := isTypeText_of_isWordText
  brackets := by decide
  mark := by decide

theorem Listing.isTypeText_typeText (property : PropertyText) : IsTypeText property.typeText :=
  isComposed_isTypeText.typeExpression property.type property.written property.proper

/-! ### The first name -/

/-- The text starts with a proper name, blanks aside, and that is a whole word. -/
def StartsProper (text : List Char) : Prop :=
  ∃ before name rest, Blank before ∧ IsProper name ∧ Stops isWord rest ∧
    text = before ++ name.text ++ rest

theorem StartsProper.append {text behind : List Char} (starts : StartsProper text)
    (stops : Stops isWord behind) : StartsProper (text ++ behind) := by
  obtain ⟨before, name, rest, blank, proper, stopsRest, rfl⟩ := starts
  refine ⟨before, name, rest ++ behind, blank, proper, ?_, List.append_assoc ..⟩
  cases rest with
  | nil => exact stops
  | cons c later => exact stops_cons (stopsRest c rfl) _

theorem QualifiedName.startsProper_of_written {name : QualifiedName} {text : List Char}
    (written : name.Written text)
    (proper : ∀ part ∈ name.qualifiers ++ [name.last], IsProper part) : StartsProper text := by
  cases written with
  | @last last before after blankBefore blankAfter =>
    have stops := stops_blank_append blankAfter (stops_nil isWord)
    rw [List.append_nil] at stops
    exact ⟨before, last, after, blankBefore, proper last (by simp), stops, rfl⟩
  | @qualified qualifier _ _ before after rest blankBefore blankAfter _ =>
    refine ⟨before, qualifier, after ++ '.' :: rest, blankBefore, proper qualifier (by simp), ?_,
      List.append_assoc ..⟩
    exact stops_blank_append blankAfter (stops_cons (by decide) rest)

mutual

theorem TypeExpression.startsProper_of_written {text : List Char} :
    (type : TypeExpression) → type.Written text → (∀ name ∈ type.names, IsProper name) →
      StartsProper text
  | .bare type, .bare written, proper => type.startsProper_of_written written proper
  | .nullable type, .nullable written _, proper =>
    (type.startsProper_of_written written proper).append (stops_cons (by decide) _)

theorem BareTypeExpression.startsProper_of_written {text : List Char} :
    (type : BareTypeExpression) → type.Written text → (∀ name ∈ type.names, IsProper name) →
      StartsProper text
  | .name _, .name written, proper => QualifiedName.startsProper_of_written written proper
  | .array element, .array written _, proper =>
    (element.startsProper_of_written written proper).append (stops_cons (by decide) _)
  | .wrapper .., .wrapper writtenName _ _, proper => by
    rw [List.append_assoc]
    exact (QualifiedName.startsProper_of_written writtenName
      (List.forall_mem_append.mp proper).1).append (stops_cons (by decide) _)
  | .generic .., .generic writtenName _ _, proper => by
    rw [List.append_assoc]
    exact (QualifiedName.startsProper_of_written writtenName
      (List.forall_mem_append.mp proper).1).append (stops_cons (by decide) _)

end

end SharpTypes.Source

/-
Inert texts. A text is inert if it opens neither a comment nor an attribute: there is no slash in
it, and every square bracket in it is closed at once. All that is laid out behind the attributes of
a declaration is inert, the array suffixes of types included.
-/

import Mathlib.Tactic.Common
import SharpTypes.Proofs.Source.HeaderReading
import SharpTypes.Proofs.Source.PropertyReading

namespace SharpTypes.Source

open Text Listing

/-- The text opens neither a comment nor an attribute. -/
inductive Inert : List Char → Prop where
  | nil : Inert []
  | plain {c : Char} {rest : List Char} (notSlash : c ≠ '/') (notOpening : c ≠ '[')
      (inert : Inert rest) : Inert (c :: rest)
  | brackets {rest : List Char} (inert : Inert rest) : Inert ('[' :: ']' :: rest)

theorem Inert.append {left right : List Char} (inertLeft : Inert left) (inertRight : Inert right) :
    Inert (left ++ right) := by
  induction inertLeft with
  | nil => exact inertRight
  | plain notSlash notOpening _ inductionHypothesis =>
    exact .plain notSlash notOpening inductionHypothesis
  | brackets _ inductionHypothesis => exact .brackets inductionHypothesis

theorem inert_of_not_mem {text : List Char} (slashFree : '/' ∉ text) (bracketFree : '[' ∉ text) :
    Inert text := by
  induction text with
  | nil => exact .nil
  | cons c rest inductionHypothesis =>
    rw [List.mem_cons, not_or] at slashFree bracketFree
    exact .plain (Ne.symm slashFree.1) (Ne.symm bracketFree.1)
      (inductionHypothesis slashFree.2 bracketFree.2)

theorem inert_of_blank {text : List Char} (blank : Blank text) : Inert text :=
  inert_of_not_mem (not_mem_of_blank blank (by decide)) (not_mem_of_blank blank (by decide))

theorem inert_of_isWordText {text : List Char} (word : IsWordText text) : Inert text := by
  have absent {c : Char} (noWord : isWord c = false) : c ∉ text := by
    intro member
    rw [word c member] at noWord
    cases noWord
  exact inert_of_not_mem (absent (by decide +kernel)) (absent (by decide +kernel))

theorem isComposed_inert : IsComposed Inert where
  append := Inert.append
  blank := inert_of_blank
  word := inert_of_isWordText
  brackets := .brackets .nil
  mark := by
    intro c isMark
    refine inert_of_not_mem ?_ ?_ <;> revert c isMark <;> decide

namespace Listing

theorem inert_identifier (identifier : Identifier) : Inert identifier.text :=
  inert_of_isWordText fun _ => identifier.isWord_of_mem

theorem inert_modifiers {words : List (List Char)}
    (isWords : ∀ word ∈ words, word ≠ [] ∧ IsWordText word)
    (modifiers : List (ModifierText words)) : Inert (modifiers.flatMap ModifierText.text) :=
  flatMap_of_append .nil .append fun modifier _ =>
    (inert_of_isWordText (isWords modifier.word modifier.known).2).append
      (inert_of_blank modifier.gap.blank)

/-! ### Classes -/

theorem inert_closing : Inert ['}'] :=
  inert_of_not_mem (by decide) (by decide)

theorem inert_opened {body : List Char} (inert : Inert body) : Inert ('{' :: body) :=
  .plain (by decide) (by decide) inert

theorem inert_accessors (property : PropertyText) : Inert property.accessors := by
  have getter : Inert "get;".toList := inert_of_not_mem (by decide) (by decide)
  have setter : Inert "set;".toList := inert_of_not_mem (by decide) (by decide)
  exact (((((inert_opened (inert_of_blank property.openSpacing.blank)).append getter).append
    (inert_of_blank property.getSpacing.blank)).append setter).append
      (inert_of_blank property.setSpacing.blank)).append inert_closing

theorem inert_property (property : PropertyText) : Inert property.text := by
  have opening : Inert "public".toList := inert_of_isWordText (by decide +kernel)
  have before := inert_modifiers Property.isWordText_of_mem_modifiers property.before
  have after := inert_modifiers Property.isWordText_of_mem_modifiers property.after
  have type : Inert property.typeText :=
    isComposed_inert.typeExpression property.type property.written property.proper
  exact (((((((before.append opening).append (inert_of_blank property.publicGap.blank)).append
    after).append type).append (inert_of_blank property.typeGap.blank)).append
      (inert_identifier property.name)).append (inert_of_blank property.nameSpacing.blank)).append
        (inert_accessors property)

theorem inert_classBody (text : ClassText) : Inert text.body := by
  refine Inert.append ?_ (inert_of_blank text.closingSpacing.blank)
  exact flatMap_of_append .nil .append fun entry _ =>
    (inert_of_blank entry.1.blank).append (inert_property entry.2)

theorem inert_angled {texts : List (List Char)} (inert : ∀ text ∈ texts, Inert text) :
    Inert (angled texts) :=
  (isComposed_inert.cons (by decide) (isComposed_inert.join inert)).append
    (isComposed_inert.mark '>' (by decide))

theorem inert_base (base : BaseText) : Inert base.text := by
  have absent {c : Char} (notDot : c ≠ '.') (noWord : isWord c = false) : c ∉ base.name := by
    intro member
    rcases mem_join member with dot | ⟨text, isText, inside⟩
    · exact notDot (List.mem_singleton.mp dot)
    · obtain ⟨identifier, _, rfl⟩ := List.mem_map.mp isText
      exact identifier.not_mem noWord inside
  have name : Inert base.name :=
    inert_of_not_mem (absent (by decide) (by decide +kernel))
      (absent (by decide) (by decide +kernel))
  have arguments : Inert ((base.arguments.map fun list => angled list.texts).getD []) := by
    cases base.arguments with
    | none => exact .nil
    | some list =>
      exact inert_angled (isComposed_inert.typeArguments list.arguments list.written list.proper)
  have opened : Inert (':' :: base.colonSpacing.text) :=
    .plain (by decide) (by decide) (inert_of_blank base.colonSpacing.blank)
  exact (((opened.append name).append (inert_of_blank base.nameSpacing.blank)).append
    arguments).append (inert_of_blank base.spacing.blank)

theorem inert_signature (text : ClassText) : Inert text.signature := by
  have parameters : Inert (if text.parameters = [] then []
      else angled (text.parameters.map ParameterText.text)) := by
    split
    · exact .nil
    · refine inert_angled fun part isPart => ?_
      obtain ⟨parameter, _, rfl⟩ := List.mem_map.mp isPart
      exact ((inert_of_blank parameter.before.blank).append
        (inert_identifier parameter.name)).append (inert_of_blank parameter.after.blank)
  have base : Inert ((text.base.map BaseText.text).getD []) := by
    cases text.base with
    | none => exact .nil
    | some base => exact inert_base base
  exact (((inert_of_blank text.nameSpacing.blank).append parameters).append
    (inert_of_blank text.parametersSpacing.blank)).append base

theorem inert_classHead (text : ClassText) : Inert text.head := by
  have opening : Inert "public".toList := inert_of_isWordText (by decide +kernel)
  have keyword : Inert "class".toList := inert_of_isWordText Header.isWordText_class
  have modifiers := inert_modifiers Header.isWordText_of_mem_classModifiers text.modifiers
  exact (((((opening.append (inert_of_blank text.publicGap.blank)).append modifiers).append
    keyword).append (inert_of_blank text.classGap.blank)).append
      (inert_identifier text.name)).append (inert_signature text)

theorem inert_class (text : ClassText) : Inert text.text := by
  rw [text.text_eq]
  exact ((inert_classHead text).append (inert_opened (inert_classBody text))).append inert_closing

/-! ### Enumerations -/

theorem inert_value (value : ValueText) : Inert value.text := by
  refine (((inert_of_blank value.before.blank).append (inert_identifier value.name)).append
    (inert_of_blank value.after.blank)).append ?_
  cases value.initialiser with
  | none => exact .nil
  | some initialiser =>
    exact .plain (by decide) (by decide) (inert_of_not_mem (initialiser.plain '/' (by decide))
      (initialiser.plain '[' (by decide)))

theorem inert_enumerationHead (text : EnumerationText) : Inert text.head := by
  have opening : Inert "public".toList := inert_of_isWordText (by decide +kernel)
  have keyword : Inert "enum".toList := inert_of_isWordText Header.isWordText_enum
  exact ((((opening.append (inert_of_blank text.publicGap.blank)).append keyword).append
    (inert_of_blank text.enumGap.blank)).append (inert_identifier text.name)).append
      (inert_of_blank text.nameSpacing.blank)

theorem inert_enumeration (text : EnumerationText) : Inert text.text := by
  have values : Inert (join [','] (text.values.map ValueText.text)) := by
    refine isComposed_inert.join fun part isPart => ?_
    obtain ⟨value, _, rfl⟩ := List.mem_map.mp isPart
    exact inert_value value
  rw [text.text_eq]
  exact ((inert_enumerationHead text).append (inert_opened
    ((inert_of_blank text.bodySpacing.blank).append values))).append inert_closing

/-- The head of a declaration is inert. -/
theorem inert_head (shape : ShapeText) : Inert shape.head := by
  cases shape with
  | enumeration text => exact inert_enumerationHead text
  | object text => exact inert_classHead text

/-- A declaration without its attributes is inert. -/
theorem inert_shape (shape : ShapeText) : Inert shape.text := by
  cases shape with
  | enumeration text => exact inert_enumeration text
  | object text => exact inert_class text

theorem inert_filler (filler : Filler) : Inert filler.text :=
  inert_of_not_mem filler.slashFree filler.bracketFree

end Listing

end SharpTypes.Source

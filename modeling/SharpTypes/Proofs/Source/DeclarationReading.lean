/-
Declarations are read as they are laid out. The body of a declaration is what stands between its
braces, the values of an enumeration are the names in front of its initialisers, and whatever stands
behind the closing brace changes nothing.
-/

import Mathlib.Tactic.Common
import SharpTypes.Proofs.Source.HeaderReading
import SharpTypes.Proofs.Source.PropertyReading

namespace SharpTypes.Source

open Text Listing

/-! ### Bodies -/

/-- Whatever stands before the first opening brace does not matter for the body. -/
theorem Bracket.body?_passed {before : List Char} (unopened : '{' ∉ before) (rest : List Char) :
    Bracket.curly.body? (before ++ rest) = Bracket.curly.body? rest := by
  rw [Bracket.body?, Bracket.body?]
  congr 2
  exact List.dropWhile_append_of_pos (forall_ne_of_not_mem unopened)

theorem Bracket.body?_append {before body : List Char} {outside : Char → Prop}
    (unopened : '{' ∉ before) (balanced : Bracket.curly.Balanced outside body) (rest : List Char) :
    Bracket.curly.body? (before ++ '{' :: (body ++ '}' :: rest)) = some body := by
  have closed : Bracket.curly.enclosed? ('{' :: (body ++ '}' :: rest)) = some (body, rest) :=
    Bracket.enclosed?_of_balanced (by decide) balanced rest
  rw [Bracket.body?_passed unopened, Bracket.body?, List.dropWhile_cons_of_neg (by decide), closed]
  rfl

theorem Bracket.body?_trimStart (text : List Char) :
    Bracket.curly.body? (trimStart text) = Bracket.curly.body? text := by
  obtain ⟨blank, isBlanks, same⟩ := exists_blank_append_trimStart text
  conv_rhs => rw [same]
  exact (Bracket.body?_passed (not_mem_of_blank isBlanks (by decide)) _).symm

namespace Listing

theorem isTypeText_modifiers {words : List (List Char)}
    (isWords : ∀ word ∈ words, word ≠ [] ∧ IsWordText word)
    (modifiers : List (ModifierText words)) :
    IsTypeText (modifiers.flatMap ModifierText.text) := by
  intro c member
  obtain ⟨modifier, _, inside⟩ := List.mem_flatMap.mp member
  rcases List.mem_append.mp inside with inWord | inGap
  · exact isTypeText_of_isWordText (isWords modifier.word modifier.known).2 c inWord
  · exact isTypeText_of_blank modifier.gap.blank c inGap

theorem Identifier.isTypeText (identifier : Identifier) : IsTypeText identifier.text :=
  isTypeText_of_isWordText fun _ => identifier.isWord_of_mem

/-- What stands before the accessors of a property is made of the characters of types. -/
theorem exists_front (property : PropertyText) :
    ∃ front, property.text = front ++ property.accessors ∧ IsTypeText front := by
  refine ⟨_, rfl, ?_⟩
  have before := isTypeText_modifiers Property.isWordText_of_mem_modifiers property.before
  have after := isTypeText_modifiers Property.isWordText_of_mem_modifiers property.after
  have publicText : IsTypeText "public".toList := isTypeText_of_isWordText (by decide +kernel)
  have type := isTypeText_typeText property
  have opened := (before.append publicText).append (isTypeText_of_blank property.publicGap.blank)
  exact ((((opened.append after).append type).append
    (isTypeText_of_blank property.typeGap.blank)).append
      (Identifier.isTypeText property.name)).append (isTypeText_of_blank property.nameSpacing.blank)

theorem balanced_of_isTypeText {text : List Char} (isTypeText : IsTypeText text) :
    Bracket.curly.Balanced (fun _ => True) text := by
  exact Bracket.balanced_of_not_mem (isTypeText.not_mem (by decide))
    (isTypeText.not_mem (by decide))

theorem balanced_accessors (property : PropertyText) :
    Bracket.curly.Balanced (fun _ => True) property.accessors := by
  have split : property.accessors = '{' :: (property.openSpacing.text ++ "get;".toList ++
      property.getSpacing.text ++ "set;".toList ++ property.setSpacing.text) ++ '}' :: [] := rfl
  have blank (spacing : Spacing) : Bracket.curly.Balanced (fun _ => True) spacing.text :=
    balanced_of_isTypeText (isTypeText_of_blank spacing.blank)
  rw [split]
  have getter : Bracket.curly.Balanced (fun _ => True) "get;".toList :=
    Bracket.balanced_of_not_mem (by decide) (by decide)
  have setter : Bracket.curly.Balanced (fun _ => True) "set;".toList :=
    Bracket.balanced_of_not_mem (by decide) (by decide)
  exact .enclosed (((((blank _).append getter).append (blank _)).append setter).append (blank _))
    .nil

/-- The braces in the body of a class match. -/
theorem balanced_classBody (text : ClassText) :
    Bracket.curly.Balanced (fun _ => True) text.body := by
  have closing : Bracket.curly.Balanced (fun _ => True) text.closingSpacing.text :=
    balanced_of_isTypeText (isTypeText_of_blank text.closingSpacing.blank)
  refine Bracket.Balanced.append ?_ closing
  induction text.properties with
  | nil => exact .nil
  | cons entry rest inductionHypothesis =>
    obtain ⟨spacing, property⟩ := entry
    obtain ⟨front, split, isTypeText⟩ := exists_front property
    rw [List.flatMap_cons]
    dsimp only
    rw [split]
    exact ((balanced_of_isTypeText (isTypeText_of_blank spacing.blank)).append
      ((balanced_of_isTypeText isTypeText).append (balanced_accessors property))).append
        inductionHypothesis

/-! ### Values -/

theorem balanced_value (value : ValueText) :
    Bracket.round.Balanced (· ≠ ',') value.text := by
  have named : Bracket.round.Balanced (· ≠ ',')
      (value.before.text ++ value.name.text ++ value.after.text) := by
    refine Bracket.balanced_of_forall fun c member => ⟨?_, ?_, ?_⟩ <;> rintro rfl <;>
      exact value.name.not_mem_padded value.before.blank value.after.blank (by decide) (by decide)
        member
  refine named.append ?_
  cases value.initialiser with
  | none => exact .nil
  | some initialiser =>
    exact .plain (by decide) (by decide) (by decide) initialiser.balanced

/-- Attributes in front of a value do not belong to it. -/
theorem value?_append_of_isAttributes {front : List Char} (isAttributes : Header.IsAttributes front)
    (entry : List Char) : DeclarationText.value? (front ++ entry) =
      DeclarationText.value? entry := by
  rw [DeclarationText.value?, DeclarationText.value?, isAttributes]

theorem value?_trimStart (entry : List Char) :
    DeclarationText.value? (trimStart entry) = DeclarationText.value? entry := by
  rw [DeclarationText.value?, DeclarationText.value?, Header.trimStart_afterAttributes_trimStart]

theorem value?_blank_append {blank : List Char} (isBlanks : Blank blank) (entry : List Char) :
    DeclarationText.value? (blank ++ entry) = DeclarationText.value? entry := by
  rw [← value?_trimStart, trimStart_blank_append isBlanks, value?_trimStart]

theorem value?_append_blank (entry : List Char) {blank : List Char} (isBlanks : Blank blank) :
    DeclarationText.value? (entry ++ blank) = DeclarationText.value? entry := by
  rw [DeclarationText.value?, DeclarationText.value?,
    Header.afterAttributes_append_blank entry isBlanks]
  have same (text : List Char) : trim (beforeFirst '=' (trimStart (text ++ blank))) =
      trim (beforeFirst '=' (trimStart text)) := by
    rcases blank_or_inked text with nothing | inked
    · rw [trimStart_of_blank nothing,
        trimStart_of_blank (List.forall_mem_append.mpr ⟨nothing, isBlanks⟩)]
    · rw [trimStart_append_of_inked inked]
      by_cases signed : '=' ∈ trimStart text
      · obtain ⟨front, behind, split, absent⟩ := List.eq_append_cons_of_mem signed
        rw [split, List.append_assoc, List.cons_append, beforeFirst_append absent,
          beforeFirst_append absent]
      · have unsigned : '=' ∉ trimStart text ++ blank := by
          rw [List.mem_append, not_or]
          exact ⟨signed, not_mem_of_blank isBlanks (by decide)⟩
        rw [beforeFirst_of_not_mem signed, beforeFirst_of_not_mem unsigned,
          trim_append_blank isBlanks]
  rw [same]

theorem value?_nil : DeclarationText.value? [] = none := by
  rw [DeclarationText.value?, Header.afterAttributes_of_none rfl]
  rfl

/-- Blanks around an entry do not matter. -/
theorem value?_trim (entry : List Char) :
    DeclarationText.value? (trim entry) = DeclarationText.value? entry := by
  obtain ⟨blank, isBlanks, same⟩ := exists_trimEnd_append_blank (trimStart entry)
  rw [trim, ← value?_trimStart entry]
  conv_rhs => rw [same]
  exact (value?_append_blank _ isBlanks).symm

/-- The name of a value is what stands before its initialiser. -/
theorem value?_value (value : ValueText) :
    DeclarationText.value? value.text = some value.name.text := by
  have blankAfter := value.after.blank
  have unsigned : '=' ∉ value.name.text ++ value.after.text :=
    value.name.not_mem_padded blank_nil blankAfter (by decide) (by decide)
  have trimmed : trim (value.name.text ++ value.after.text) = value.name.text :=
    value.name.trim_padded blank_nil blankAfter
  have notOpening : value.name.first ≠ '[' := by
    intro same
    exact value.name.not_mem (c := '[') (by decide) (same ▸ List.mem_cons_self)
  have named (behind : List Char) : DeclarationText.value? (value.name.text ++ behind) =
      if isIdentifier (trim (beforeFirst '=' (value.name.text ++ behind))) then
        some (trim (beforeFirst '=' (value.name.text ++ behind))) else none := by
    have noAttributes : Header.afterAttribute? (value.name.text ++ behind) = none :=
      Header.afterAttribute?_eq_none blank_nil (value.name.stops_isBlank [] _ rfl) notOpening
    rw [DeclarationText.value?, Header.afterAttributes_of_none noAttributes,
      trimStart_of_stops (value.name.stops_isBlank behind)]
  rw [ValueText.text, List.append_assoc, List.append_assoc, value?_blank_append value.before.blank,
    named, ← List.append_assoc]
  have before : beforeFirst '=' (value.name.text ++ value.after.text ++
      (value.initialiser.map fun initialiser => '=' :: initialiser.text).getD []) =
        value.name.text ++ value.after.text := by
    cases value.initialiser with
    | none =>
      rw [Option.map_none, Option.getD_none, List.append_nil]
      exact beforeFirst_of_not_mem unsigned
    | some initialiser => exact beforeFirst_append unsigned initialiser.text
  rw [before, trimmed, if_pos value.name.isIdentifier_text]

/-! ### Lists of values -/

theorem balanced_of_blanks {blank : List Char} (isBlanks : Blank blank) :
    Bracket.round.Balanced (· ≠ ',') blank := by
  refine Bracket.balanced_of_forall fun c member => ⟨?_, ?_, ?_⟩ <;> rintro rfl <;>
    exact not_mem_of_blank isBlanks (by decide) member

/-- The values of a body are those of its slices. -/
theorem values_eq (body : List Char) : DeclarationText.values body =
    (Bracket.round.slices ',' 0 body).filterMap DeclarationText.value? := by
  rw [DeclarationText.values, Bracket.split]
  split
  · next blank =>
    have isBlanks : Blank body := List.all_eq_true.mp blank
    have balanced := balanced_of_blanks isBlanks
    have nothing := value?_append_blank [] isBlanks
    rw [List.nil_append, value?_nil] at nothing
    rw [Bracket.slices_of_balanced (by decide) balanced, List.filterMap_cons, nothing]
  · rw [List.filterMap_map]
    exact List.filterMap_congr fun slice _ => value?_trim slice

/-- A slice declares the value that it is read as, if any. -/
theorem values_append {text : List Char} (balanced : Bracket.round.Balanced (· ≠ ',') text)
    (rest : List Char) : DeclarationText.values (text ++ ',' :: rest) =
      (DeclarationText.value? text).toList ++ DeclarationText.values rest := by
  rw [values_eq, values_eq, Bracket.slices_append_separator (by decide) (by decide) (by decide)
    balanced, List.filterMap_cons]
  cases DeclarationText.value? text <;> rfl

theorem values_of_balanced {text : List Char} (balanced : Bracket.round.Balanced (· ≠ ',') text) :
    DeclarationText.values text = (DeclarationText.value? text).toList := by
  rw [values_eq, Bracket.slices_of_balanced (by decide) balanced, List.filterMap_cons]
  cases DeclarationText.value? text <;> rfl

/-- Blanks in front of a body do not matter. -/
theorem values_blank_append {blank : List Char} (isBlanks : Blank blank) (body : List Char) :
    DeclarationText.values (blank ++ body) = DeclarationText.values body := by
  rw [values_eq, values_eq, Bracket.slices_append (by decide) (balanced_of_blanks isBlanks)]
  cases Bracket.round.slices ',' 0 body with
  | nil => rfl
  | cons first others =>
    rw [List.modifyHead_cons, List.filterMap_cons, List.filterMap_cons,
      value?_blank_append isBlanks]

theorem values_join (values : List ValueText) :
    DeclarationText.values (join [','] (values.map ValueText.text)) =
      values.map fun value => value.name.text := by
  induction values with
  | nil =>
    rw [List.map_nil, join_nil, values_of_balanced .nil, value?_nil]
    rfl
  | cons first rest inductionHypothesis =>
    cases rest with
    | nil =>
      rw [List.map_singleton, join_singleton, values_of_balanced (balanced_value first),
        value?_value]
      rfl
    | cons second others =>
      rw [List.map_cons, List.map_cons, join_cons_cons, List.append_assoc, List.singleton_append,
        values_append (balanced_value first), ← List.map_cons, inductionHypothesis, value?_value]
      rfl

/-- The values of an enumeration are read, blanks before the first one or not. -/
theorem values_body (text : EnumerationText) :
    DeclarationText.values text.body = text.values.map fun value => value.name.text := by
  rw [EnumerationText.body, values_blank_append text.bodySpacing.blank, values_join]

/-- There is no brace in a value. -/
theorem braceBalanced_value (value : ValueText) :
    Bracket.curly.Balanced (fun _ => True) value.text := by
  have braceFree {brace : Char} (isBrace : brace ∈ ['{', '}']) : brace ∉ value.text := by
    have notBlank : isBlank brace = false := by revert brace; decide
    have noWord : isWord brace = false := by revert brace; decide +kernel
    have notSign : brace ≠ '=' := by revert brace; decide
    intro inside
    rcases List.mem_append.mp inside with inName | inInitialiser
    · exact value.name.not_mem_padded value.before.blank value.after.blank notBlank noWord inName
    cases given : value.initialiser with
    | none => simp [given] at inInitialiser
    | some initialiser =>
      rw [given] at inInitialiser
      rcases List.mem_cons.mp inInitialiser with sign | inText
      · exact notSign sign
      · refine initialiser.plain brace ?_ inText
        simp only [List.mem_cons, List.not_mem_nil, or_false] at isBrace ⊢
        tauto
  exact Bracket.balanced_of_not_mem (braceFree (by decide)) (braceFree (by decide))

/-- The braces in the body of an enumeration match if those in its entries do. -/
theorem braceBalanced_entries (spacing : Spacing) {entries : List (List Char)}
    (balanced : ∀ entry ∈ entries, Bracket.curly.Balanced (fun _ => True) entry) :
    Bracket.curly.Balanced (fun _ => True) (spacing.text ++ join [','] entries) := by
  have blank : Bracket.curly.Balanced (fun _ => True) spacing.text :=
    balanced_of_isTypeText (isTypeText_of_blank spacing.blank)
  have comma : Bracket.curly.Balanced (fun _ => True) [','] :=
    Bracket.balanced_of_not_mem (by decide) (by decide)
  exact blank.append (join_of_append .nil .append comma balanced)

theorem balanced_enumerationBody (text : EnumerationText) :
    Bracket.curly.Balanced (fun _ => True) text.body :=
  braceBalanced_entries text.bodySpacing
    (List.forall_mem_map.mpr fun value _ => braceBalanced_value value)

/-! ### Heads -/

/-- Behind the head of an enumeration its body is read, and that is the next one there is. -/
theorem of?_enumerationHead {front : List Char} (isAttributes : Header.IsAttributes front)
    (spacing : Spacing) (text : EnumerationText) {behind : List Char}
    (stops : Stops isWord behind) :
    DeclarationText.of? (front ++ (spacing.text ++ (text.head ++ behind))) =
      (Bracket.curly.body? behind).map fun body => .enumeration text.name.text body := by
  have split : text.head ++ behind = "public".toList ++ text.publicGap.text ++
      ("enum".toList ++ text.enumGap.text ++ (text.name.text ++
        (text.nameSpacing.text ++ behind))) := by
    -- Left as literals, the keywords would be unfolded character by character.
    unfold EnumerationText.head
    generalize "public".toList = opening
    generalize "enum".toList = keyword
    simp only [List.append_assoc]
  have stopsName := stops_blank_append text.nameSpacing.blank stops
  rw [split, DeclarationText.of?, DeclarationText.enumeration?,
    Header.enumeration?_append isAttributes spacing text stopsName, Option.bind_some,
    DeclarationText.object?, Header.object?_enumeration isAttributes, Option.bind_none,
    Option.or_none]
  dsimp only
  rw [Bracket.body?_passed (not_mem_of_blank text.nameSpacing.blank (by decide))]

/-- The name of a class ends where its signature begins. -/
theorem stops_signature (text : ClassText) {behind : List Char} (ends : Header.Ends behind) :
    Stops isWord (text.signature ++ behind) := by
  have base : Stops isWord ((text.base.map BaseText.text).getD [] ++ behind) := by
    cases text.base with
    | none => exact ends.stops_isWord
    | some base => exact stops_cons (by decide +kernel) _
  have stops := stops_blank_append text.parametersSpacing.blank base
  rw [ClassText.signature, List.append_assoc, List.append_assoc, List.append_assoc]
  refine stops_blank_append text.nameSpacing.blank ?_
  split
  · exact stops
  · exact stops_cons (by decide +kernel) _

/-- Behind the head of a class its body is read, and that is the next one there is. -/
theorem of?_classHead {front : List Char} (isAttributes : Header.IsAttributes front)
    (spacing : Spacing) (text : ClassText) {behind : List Char} (ends : Header.Ends behind) :
    DeclarationText.of? (front ++ (spacing.text ++ (text.head ++ behind))) =
      (Bracket.curly.body? behind).map fun body => .object (text.withBody body) := by
  have split : text.head ++ behind = "public".toList ++ text.publicGap.text ++
      Header.classText text (text.signature ++ behind) := by
    unfold ClassText.head Header.classText
    generalize "public".toList = opening
    generalize "class".toList = keyword
    simp only [List.append_assoc]
  obtain ⟨afterParameters, parameters, sameParameters⟩ := Header.genericList_signature text ends
  obtain ⟨afterBase, base, sameBase⟩ := Header.baseType_baseText text ends
  rw [split, DeclarationText.of?, DeclarationText.enumeration?,
    Header.enumeration?_class isAttributes, Option.bind_none, Option.none_or,
    DeclarationText.object?, Header.object?_append isAttributes spacing text
      (stops_signature text ends), Option.bind_some]
  dsimp only
  rw [parameters]
  dsimp only
  rw [sameParameters, base]
  dsimp only
  rw [← Bracket.body?_trimStart, sameBase, Bracket.body?_trimStart]
  rfl

/-- What stands behind the head of a declaration does not go on with it. -/
def ShapeText.Ends : ShapeText → List Char → Prop
  | .enumeration _, behind => Stops isWord behind
  | .object _, behind => Header.Ends behind

/-- A declaration takes the next body there is. -/
theorem of?_head {front : List Char} (isAttributes : Header.IsAttributes front)
    (spacing : Spacing) {shape : ShapeText} {behind : List Char} (ends : shape.Ends behind) :
    DeclarationText.of? (front ++ (spacing.text ++ (shape.head ++ behind))) =
      (Bracket.curly.body? behind).map shape.withBody := by
  cases shape with
  | enumeration text => exact of?_enumerationHead isAttributes spacing text ends
  | object text => exact of?_classHead isAttributes spacing text ends

/-- The declaration of a class with the given properties. Static ones are left out. -/
def ClassText.declarationWith (text : ClassText) (properties : List PropertyText) :
    Declaration where
  name := text.name.text
  body := .object {
    members := (properties.filter fun property => !property.isStatic).map PropertyText.member
    base := text.base.map BaseText.name
    parameters := text.parameters.map fun parameter => parameter.name.text
    baseArguments := ((text.base.map BaseText.argumentTexts).getD []).map trim }

/-- A class has the properties that are read in its body. -/
theorem declaration_withBody (text : ClassText) {body : List Char}
    {properties : List PropertyText}
    (read : Property.properties body = properties.map Property.readingOf) :
    DeclarationText.declaration (.object (text.withBody body)) =
      text.declarationWith properties := by
  rw [DeclarationText.declaration, ClassText.withBody, Property.members_of_properties read,
    ClassText.declarationWith]
  cases text.base with
  | none => rfl
  | some base => rfl

/-! ### Whole declarations -/

variable {front : List Char} (isAttributes : Header.IsAttributes front) (spacing : Spacing)
include isAttributes

/-- An enumeration behind its marker is read. -/
theorem of?_enumeration (text : EnumerationText) (rest : List Char) :
    (DeclarationText.of? (front ++ (spacing.text ++ (text.text ++ rest)))).map
      DeclarationText.declaration = some text.declaration := by
  have split : text.text ++ rest = text.head ++ '{' :: (text.body ++ '}' :: rest) := by
    rw [text.text_eq]
    simp only [List.append_assoc, List.cons_append, List.nil_append]
  have body := Bracket.body?_append List.not_mem_nil (balanced_enumerationBody text) rest
  rw [List.nil_append] at body
  rw [split, of?_enumerationHead isAttributes spacing text (stops_cons (by decide) _), body,
    Option.map_some, Option.map_some, DeclarationText.declaration, values_body]
  rfl

/-- A class behind its marker is read. -/
theorem of?_class (text : ClassText) (rest : List Char) :
    (DeclarationText.of? (front ++ (spacing.text ++ (text.text ++ rest)))).map
      DeclarationText.declaration = some text.declaration := by
  have split : text.text ++ rest = text.head ++ '{' :: (text.body ++ '}' :: rest) := by
    rw [text.text_eq]
    simp only [List.append_assoc, List.cons_append, List.nil_append]
  have body := Bracket.body?_append List.not_mem_nil (balanced_classBody text) rest
  rw [List.nil_append] at body
  have read : Property.properties text.body =
      (text.properties.map Prod.snd).map Property.readingOf := by
    rw [Property.properties_body, List.map_map]
    rfl
  rw [split, of?_classHead isAttributes spacing text (Header.ends_brace _), body, Option.map_some,
    Option.map_some, declaration_withBody text read]
  rfl

end Listing

end SharpTypes.Source

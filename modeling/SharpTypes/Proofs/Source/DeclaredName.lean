/-
The names in declarations that were read from a source text, whatever the text is. A declared name
is a word, and the name of a base type is made of words and dots, so that it comes to nothing but
its last segment.
-/

import Mathlib.Tactic.Common
import SharpTypes.Proofs.Source.WrittenName
import SharpTypes.Source.SourceText

namespace SharpTypes.Source

open Text

/-! ### Readers of names -/

theorem isWordText_of_word? {text word rest : List Char} (found : word? text = some (word, rest)) :
    word ≠ [] ∧ IsWordText word := by
  unfold word? at found
  split at found
  · cases found
  · next filled =>
    obtain ⟨rfl, _⟩ := Prod.mk.inj (Option.some.inj found)
    exact ⟨filled, fun c member => List.mem_takeWhile_imp member⟩

/-- Whether a text is made of word characters and dots only. -/
def IsQualifiedText (text : List Char) : Prop :=
  ∀ c ∈ text, isWord c = true ∨ c = '.'

namespace Header

theorem isQualifiedText_of_qualifiedName? {text name rest : List Char}
    (found : qualifiedName? text = some (name, rest)) : IsQualifiedText name := by
  cases text with
  | nil => cases found
  | cons first later =>
    rw [qualifiedName?] at found
    split_ifs at found with starts
    obtain ⟨rfl, _⟩ := Prod.mk.inj (Option.some.inj found)
    refine List.forall_mem_cons.mpr ⟨.inl ?_, fun c member => ?_⟩
    · rw [Bool.or_eq_true, beq_iff_eq] at starts
      rcases starts with letter | rfl
      · exact isWord_of_isLetter letter
      · decide
    · simpa using List.mem_takeWhile_imp member

theorem isQualifiedText_of_baseType {text rest : List Char} {base : BaseType}
    (found : baseType text = (some base, rest)) : IsQualifiedText base.name := by
  unfold baseType at found
  split at found
  · split at found
    · next name later named =>
      obtain ⟨same, _⟩ := Prod.mk.inj found
      obtain rfl := Option.some.inj same
      exact isQualifiedText_of_qualifiedName? named
    · cases (Prod.mk.inj found).1
  · cases (Prod.mk.inj found).1

end Header

/-! ### Declarations -/

/-- A declaration is named by a word. If it has a base type, that is named by words and dots, and
without one there are no arguments of it. -/
structure IsReadable (declaration : Declaration) : Prop where
  named : declaration.name ≠ []
  isWordText : IsWordText declaration.name
  base : ∀ shape, declaration.body = .object shape → ∀ base, shape.base = some base →
    IsQualifiedText base
  bound : ∀ shape, declaration.body = .object shape → shape.base = none →
    shape.baseArguments = []

theorem DeclarationText.isReadable_of_of? {text : List Char} {written : DeclarationText}
    (found : of? text = some written) : IsReadable written.declaration := by
  rcases Option.or_eq_some_iff.mp found with isEnumeration | ⟨_, isObject⟩
  · obtain ⟨⟨name, rest⟩, header, inBody⟩ := Option.bind_eq_some_iff.mp isEnumeration
    obtain ⟨body, _, rfl⟩ := Option.map_eq_some_iff.mp inBody
    obtain ⟨_, _, word⟩ := Option.bind_eq_some_iff.mp header
    obtain ⟨notEmpty, isWordText⟩ := isWordText_of_word? word
    exact ⟨notEmpty, isWordText, nofun, nofun⟩
  · obtain ⟨⟨name, rest⟩, header, inBody⟩ := Option.bind_eq_some_iff.mp isObject
    obtain ⟨body, _, rfl⟩ := Option.map_eq_some_iff.mp inBody
    obtain ⟨_, _, word⟩ := Option.bind_eq_some_iff.mp header
    obtain ⟨notEmpty, isWordText⟩ := isWordText_of_word? word
    refine ⟨notEmpty, isWordText, ?_, ?_⟩
    · rintro shape isShape base isBase
      obtain rfl := DeclarationBody.object.inj isShape
      obtain ⟨type, isType, rfl⟩ := Option.map_eq_some_iff.mp isBase
      exact Header.isQualifiedText_of_baseType (Prod.ext isType rfl)
    · rintro shape isShape noBase
      obtain rfl := DeclarationBody.object.inj isShape
      show (Option.map Header.BaseType.arguments _).getD [] = []
      rw [Option.map_eq_none_iff.mp noBase]
      rfl

/-- Every declaration in a source text is readable. -/
theorem isReadable_of_mem_declarations {marker source : List Char} {declaration : Declaration}
    (member : declaration ∈ declarations marker source) : IsReadable declaration := by
  obtain ⟨occurrence, _, found⟩ := List.mem_filterMap.mp member
  obtain ⟨written, isWritten, rfl⟩ := Option.map_eq_some_iff.mp found
  exact DeclarationText.isReadable_of_of? isWritten

/-! ### What the name of a base type comes to -/

/-- A trimmed name is its own last segment exactly if it holds no dot. -/
theorem eq_lastSegment_iff {text : List Char} (trimmed : trim text = text) :
    text = lastSegment text ↔ '.' ∉ text := by
  constructor
  · intro same member
    rw [same] at member
    exact not_mem_afterLast '.' text (mem_of_mem_trim member)
  · intro absent
    rw [lastSegment, afterLast_of_not_mem absent, trimmed]

namespace IsQualifiedText

variable {text : List Char}

theorem not_mem (qualified : IsQualifiedText text) {c : Char} (notWord : isWord c = false)
    (notDot : c ≠ '.') : c ∉ text := by
  intro member
  rcases qualified c member with word | dot
  · rw [word] at notWord
    cases notWord
  · exact notDot dot

theorem trim_eq (qualified : IsQualifiedText text) : trim text = text := by
  have notBlank (c : Char) (member : c ∈ text) : isBlank c = false := by
    rcases qualified c member with word | rfl
    · exact isBlank_of_isWord word
    · decide
  exact trim_of_ends (fun c first => notBlank c (List.mem_of_mem_head? first))
    fun c last => notBlank c (List.mem_of_mem_getLast? last)

theorem resolve_eq (qualified : IsQualifiedText text) :
    resolve text = (namedType (lastSegment text)).single := by
  have unmarked : bareType text = text := by
    unfold bareType
    rw [qualified.trim_eq]
    split
    · next inner marked =>
      have same := dropEnd?_eq_some_iff.mp marked
      refine absurd ?_ (qualified.not_mem (c := '?') (by decide) (by decide))
      rw [same]
      exact List.mem_append_right _ List.mem_cons_self
    · rfl
  have noArray : dropEnd? "[]".toList text = none := by
    rw [Option.eq_none_iff_forall_not_mem]
    intro inner found
    have same := dropEnd?_eq_some_iff.mp found
    refine qualified.not_mem (c := ']') (by decide) (by decide) ?_
    rw [same]
    exact List.mem_append_right _ (by decide)
  have noArguments : GenericText.of? text = none :=
    genericText_of_not_mem (qualified.not_mem (by decide) (by decide))
  rw [Source.resolve_eq, unmarked, TypeShape.of, noArray]
  dsimp only
  rw [noArguments]
  rfl

/-- The only name that the name of a base type comes to refer to is its last segment. -/
theorem eq_lastSegment_of_mentions (qualified : IsQualifiedText text) {name : List Char}
    (mentions : (resolve text).type.Mentions name) : name = lastSegment text := by
  rw [qualified.resolve_eq] at mentions
  exact TypeShape.eq_of_mentions_namedType mentions

end IsQualifiedText

end SharpTypes.Source

/-
Closing brackets that belong to no array suffix. A suffix with anything in its brackets is taken for
a part of the name in front of it, and its commas cut the argument it stands in. Both leave a name
with a closing bracket of its own: the name with the suffix, and what stands behind the last comma.
-/

import Mathlib.Tactic.Common
import SharpTypes.Proofs.Declaration.Sentence
import SharpTypes.Proofs.Source.RankedType
import SharpTypes.Proofs.Source.WrittenName

namespace SharpTypes.Source

open Text Listing TargetType

/-! ### Loose brackets -/

theorem ofName?_append_bracket (front : List Char) :
    Primitive.ofName? (front ++ [']']) = none := by
  have others : ∀ entry ∈ primitiveNames, ∀ known ∈ entry.2.map String.toList, ']' ∉ known := by
    decide
  rw [Primitive.ofName?, Option.map_eq_none_iff, List.find?_eq_none]
  intro entry isEntry known
  rw [List.contains_iff_mem] at known
  exact others entry isEntry _ known (List.mem_append_right _ List.mem_cons_self)

/-- What stands behind the last dot ends as the text ends. -/
theorem exists_lastSegment_append_bracket (front : List Char) {after : List Char}
    (blankAfter : Blank after) :
    ∃ kept, kept <:+ front ∧ lastSegment (front ++ ']' :: after) = kept ++ [']'] := by
  have dotFree : '.' ∉ ']' :: after :=
    List.not_mem_cons_of_ne_of_not_mem (by decide) (not_mem_of_blank blankAfter (by decide))
  refine ⟨trimStart (afterLast '.' front), ?_, ?_⟩
  · exact (trimStart_suffix _).trans (afterLast_suffix '.' front)
  · rw [lastSegment, afterLast_append_of_not_mem _ dotFree,
      trim_append_cons (by decide) blankAfter]

theorem getLast?_ne_of_suffix {front kept : List Char} (isSuffix : kept <:+ front) {c : Char}
    (other : front.getLast? ≠ some c) : kept.getLast? ≠ some c := by
  obtain ⟨before, rfl⟩ := isSuffix
  intro last
  rw [List.getLast?_append, last] at other
  exact other rfl

/-- An array suffix stands at the end only with nothing in its brackets. -/
theorem dropEnd?_brackets_of_loose {front after : List Char} (loose : front.getLast? ≠ some '[')
    (blankAfter : Blank after) :
    dropEnd? "[]".toList (trim (front ++ ']' :: after)) = none := by
  rw [trim_append_cons (by decide) blankAfter, Option.eq_none_iff_forall_not_mem]
  intro inner found
  have same : trimStart front ++ [']'] = inner ++ ['['] ++ [']'] :=
    (dropEnd?_eq_some_iff.mp found).trans (List.append_assoc inner ['['] [']']).symm
  refine getLast?_ne_of_suffix (trimStart_suffix front) loose ?_
  rw [List.append_cancel_right same, List.getLast?_concat]

/-- A text without arguments that ends in a closing bracket of its own is taken for a name. -/
theorem refersLoosely_of_end {front after : List Char} (unopened : '<' ∉ front)
    (loose : front.getLast? ≠ some '[') (blankAfter : Blank after) :
    (resolve (front ++ ']' :: after)).type.RefersLoosely := by
  have unmarked : dropEnd? ['?'] (trim (front ++ ']' :: after)) = none :=
    dropEnd?_trim_of_ne rfl (by decide) (by decide) blankAfter front
  have noArray : dropEnd? "[]".toList (trim (front ++ ']' :: after)) = none :=
    dropEnd?_brackets_of_loose loose blankAfter
  have noArguments : GenericText.of? (trim (front ++ ']' :: after)) = none := by
    refine genericText_of_not_mem fun member => ?_
    exact List.not_mem_append unopened (List.not_mem_cons_of_ne_of_not_mem (by decide)
      (not_mem_of_blank blankAfter (by decide))) (mem_of_mem_trim member)
  obtain ⟨kept, isSuffix, last⟩ := exists_lastSegment_append_bracket front blankAfter
  have named : (resolve (front ++ ']' :: after)).type = .reference (kept ++ [']']) [] := by
    rw [resolve_eq, bareType_of_unmarked unmarked, TypeShape.of, noArray]
    dsimp only
    rw [noArguments]
    dsimp only [TypeShape.combine, TargetType.single]
    rw [QualifiedName.lastSegment_trim, last, namedType, ofName?_append_bracket]
  rw [named]
  exact ⟨_, .here [], fun paired => getLast?_ne_of_suffix isSuffix loose (paired kept [] rfl)⟩

namespace Rank

variable (rank : Rank) (after : Spacing)

theorem getLast?_ne : rank.text.getLast? ≠ some '[' := fun last =>
  rank.not_mem (by decide) (by decide) (List.mem_of_getLast? last)

theorem getLast?_append_ne (ranked : rank.text ≠ []) (text : List Char) :
    (text ++ '[' :: rank.text).getLast? ≠ some '[' := by
  have same : text ++ '[' :: rank.text = text ++ ['['] ++ rank.text := by simp
  rw [same, List.getLast?_append_of_ne_nil _ ranked]
  exact rank.getLast?_ne

/-- Behind a name every suffix but `[]` is taken for a part of the name. -/
theorem refersLoosely {text : List Char} (ranked : rank.text ≠ []) (unopened : '<' ∉ text) :
    (resolve (text ++ rank.suffix after)).type.RefersLoosely := by
  rw [rank.append_suffix]
  refine refersLoosely_of_end (List.not_mem_append unopened ?_)
    (rank.getLast?_append_ne ranked text) after.blank
  exact List.not_mem_cons_of_ne_of_not_mem (by decide) (rank.not_mem (by decide) (by decide))

theorem resolve_suffix (unranked : rank.text = []) (text : List Char) :
    resolve (text ++ rank.suffix after) = ⟨(resolve text).type, true⟩ := by
  rw [suffix, unranked]
  exact resolve_brackets text after.blank

end Rank

/-! ### Behind the last comma -/

/-- A text without commas and angle brackets that refers to a name with a loose bracket. -/
structure LooseTail (text : List Char) : Prop where
  flat : ∀ c ∈ [',', '<', '>'], c ∉ text
  inked : Inked text
  loose : (resolve text).type.RefersLoosely

namespace LooseTail

variable {text : List Char}

theorem mark (tail : LooseTail text) (unmarked : dropEnd? ['?'] (trim text) = none)
    (after : Spacing) : LooseTail (text ++ '?' :: after.text) where
  flat := by
    have marks : ∀ c ∈ [',', '<', '>'], c ≠ '?' ∧ isBlank c = false := by decide
    intro c isMark
    exact List.not_mem_append (tail.flat c isMark)
      (List.not_mem_cons_of_ne_of_not_mem (marks c isMark).1
        (not_mem_of_blank after.blank (marks c isMark).2))
  inked := tail.inked.append_left _
  loose := by
    rw [resolve_mark unmarked after.blank]
    exact tail.loose

theorem suffix (tail : LooseTail text) (rank : Rank) (noComma : ',' ∉ rank.text)
    (after : Spacing) : LooseTail (text ++ rank.suffix after) where
  flat := by
    intro c isMark
    refine List.not_mem_append (tail.flat c isMark) ?_
    simp only [List.mem_cons, List.not_mem_nil, or_false] at isMark
    rcases isMark with rfl | rfl | rfl
    · rw [← List.count_eq_zero, rank.count_suffix]
      exact List.count_eq_zero.mpr noComma
    · exact rank.not_mem_suffix after (by decide) (by decide)
    · exact rank.not_mem_suffix after (by decide) (by decide)
  inked := tail.inked.append_left _
  loose := by
    by_cases unranked : rank.text = []
    · rw [rank.resolve_suffix after unranked]
      exact tail.loose
    · exact rank.refersLoosely after unranked (tail.flat '<' (by decide))

/-- Behind the last comma in the brackets of a suffix. -/
theorem of_rank {inside : List Char} (blank : Blank inside) (after : Spacing) :
    LooseTail (inside ++ ']' :: after.text) where
  flat := by
    have marks : ∀ c ∈ [',', '<', '>'], c ≠ ']' ∧ isBlank c = false := by decide
    intro c isMark
    exact List.not_mem_append (not_mem_of_blank blank (marks c isMark).2)
      (List.not_mem_cons_of_ne_of_not_mem (marks c isMark).1
        (not_mem_of_blank after.blank (marks c isMark).2))
  inked := (inked_cons (by decide) _).append_right inside
  loose := by
    refine refersLoosely_of_end (not_mem_of_blank blank (by decide)) (fun last => ?_) after.blank
    exact not_mem_of_blank blank (c := '[') (by decide) (List.mem_of_getLast? last)

end LooseTail

/-- The text is cut at a comma with a loose tail behind it. -/
def IsBroken (text tail : List Char) : Prop :=
  ∃ front, text = front ++ ',' :: tail ∧ Bracket.angle.rise front = 0 ∧ LooseTail tail

theorem IsBroken.append {text tail behind : List Char} (broken : IsBroken text tail)
    (loose : LooseTail (tail ++ behind)) : IsBroken (text ++ behind) (tail ++ behind) := by
  obtain ⟨front, rfl, level, -⟩ := broken
  exact ⟨front, by rw [List.append_assoc]; rfl, level, loose⟩

theorem isBroken_suffix {element : List Char} (level : Bracket.angle.rise element = 0) (rank : Rank)
    (comma : ',' ∈ rank.text) (after : Spacing) :
    ∃ inside, IsBroken (element ++ rank.suffix after) (inside ++ ']' :: after.text) := by
  obtain ⟨before, inside, same, noComma⟩ := exists_last_of_mem comma
  have blank : Blank inside := fun c member => by
    refine (rank.plain c ?_).resolve_right fun isComma => noComma (isComma ▸ member)
    rw [same]
    exact List.mem_append_right _ (List.mem_cons_of_mem _ member)
  have flat : ∀ c ∈ ['<', '>'], c ∉ '[' :: before := by
    have marks : ∀ c ∈ ['<', '>'], c ≠ '[' ∧ c ≠ ',' ∧ isBlank c = false := by decide
    intro c isMark
    refine List.not_mem_cons_of_ne_of_not_mem (marks c isMark).1 fun member => ?_
    refine rank.not_mem (marks c isMark).2.2 (marks c isMark).2.1 ?_
    rw [same]
    exact List.mem_append_left _ member
  refine ⟨inside, element ++ '[' :: before, ?_, ?_, .of_rank blank after⟩
  · rw [Rank.suffix, same]
    simp
  · rw [Bracket.rise_append, level, Bracket.rise_of_not_mem (flat '<' (by decide))
      (flat '>' (by decide))]
    rfl

mutual

/-- A type expression with commas outside of its angle brackets is cut behind the last of them. -/
theorem RankedType.exists_isBroken :
    (type : RankedType) → type.commas ≠ 0 → ∃ tail, IsBroken type.text tail
  | .bare type, commas => by
    obtain ⟨tail, broken, -⟩ := type.exists_isBroken commas
    exact ⟨tail, broken⟩
  | .nullable type after, commas => by
    obtain ⟨tail, broken, unmarked⟩ := type.exists_isBroken commas
    have ⟨_, _, _, loose⟩ := broken
    exact ⟨_, broken.append (loose.mark unmarked after)⟩

/-- A type expression with commas outside of its angle brackets is cut behind the last of them. -/
theorem BareRankedType.exists_isBroken :
    (type : BareRankedType) → type.commas ≠ 0 →
      ∃ tail, IsBroken type.text tail ∧ dropEnd? ['?'] (trim tail) = none
  | .array element rank after, commas => by
    by_cases comma : ',' ∈ rank.text
    · obtain ⟨inside, broken⟩ := isBroken_suffix element.rise_text rank comma after
      exact ⟨_, broken, dropEnd?_trim_of_ne rfl (by decide) (by decide) after.blank inside⟩
    · have others : element.commas ≠ 0 := by
        rw [BareRankedType.commas, List.count_eq_zero_of_not_mem comma] at commas
        exact commas
      obtain ⟨tail, broken⟩ := element.exists_isBroken others
      have ⟨_, _, _, loose⟩ := broken
      exact ⟨_, broken.append (loose.suffix rank comma after), rank.unmarked_suffix after tail⟩
  | .name _, commas => absurd rfl commas
  | .wrapper .., commas => absurd rfl commas
  | .generic .., commas => absurd rfl commas

end

/-! ### Arguments -/

/-- What is told of the parts of a list of arguments: there are as many as there are verdicts, the
first and the last are not empty, the last is as its verdict says, and if all are sound, so is each
part, and otherwise one refers to a loose bracket. -/
structure AreToldBy (verdicts : List Bool) (parts : List (List Char)) : Prop where
  length : verdicts.length = parts.length
  first : ∀ part ∈ parts.head?, part ≠ []
  last : ∀ verdict ∈ verdicts.getLast?, ∀ part ∈ parts.getLast?,
    part ≠ [] ∧ (resolve part).type.IsJudged verdict
  sound : (∀ verdict ∈ verdicts, verdict = true) → ∀ part ∈ parts,
    part ≠ [] ∧ (resolve part).type.RefersToNames
  loose : false ∈ verdicts → ∃ part ∈ parts, part ≠ [] ∧ (resolve part).type.RefersLoosely

theorem AreToldBy.append {verdicts others : List Bool} {parts later : List (List Char)}
    (told : AreToldBy verdicts parts) (toldLater : AreToldBy others later)
    (notEmpty : later ≠ []) : AreToldBy (verdicts ++ others) (parts ++ later) where
  length := by rw [List.length_append, List.length_append, told.length, toldLater.length]
  first := by
    intro part isFirst
    cases parts with
    | nil => exact toldLater.first part isFirst
    | cons first rest => exact told.first part isFirst
  last := by
    have someOthers : others ≠ [] := by
      rw [ne_eq, ← List.length_eq_zero_iff, toldLater.length, List.length_eq_zero_iff]
      exact notEmpty
    rw [List.getLast?_append_of_ne_nil _ notEmpty, List.getLast?_append_of_ne_nil _ someOthers]
    exact toldLater.last
  sound := by
    intro all
    obtain ⟨here, there⟩ := List.forall_mem_append.mp all
    exact List.forall_mem_append.mpr ⟨told.sound here, toldLater.sound there⟩
  loose := by
    intro unsound
    rcases List.mem_append.mp unsound with here | there
    · obtain ⟨part, isPart, broken⟩ := told.loose here
      exact ⟨part, List.mem_append_left _ isPart, broken⟩
    · obtain ⟨part, isPart, broken⟩ := toldLater.loose there
      exact ⟨part, List.mem_append_right _ isPart, broken⟩

theorem areToldBy_single {verdict : Bool} {part : List Char} (notEmpty : part ≠ [])
    (judged : (resolve part).type.IsJudged verdict) : AreToldBy [verdict] [part] where
  length := rfl
  first := by
    rintro _ ⟨⟩
    exact notEmpty
  last := by
    rintro _ ⟨⟩ _ ⟨⟩
    exact ⟨notEmpty, judged⟩
  sound := by
    intro all
    obtain rfl := all verdict (List.mem_singleton_self _)
    exact List.forall_mem_singleton.mpr ⟨notEmpty, judged⟩
  loose := by
    intro unsound
    obtain rfl := List.mem_singleton.mp unsound
    exact ⟨part, List.mem_singleton_self _, notEmpty, judged⟩

theorem areToldBy_replicate {count : Nat} {first last : List Char} {middle : List (List Char)}
    (size : middle.length + 1 = count) (someFirst : first ≠ []) (someLast : last ≠ [])
    (loose : (resolve last).type.RefersLoosely) :
    AreToldBy (List.replicate (count + 1) false) (first :: middle ++ [last]) where
  length := by
    subst size
    simp
  first := by
    rintro _ ⟨⟩
    exact someFirst
  last := by
    intro verdict isLast part isPart
    obtain rfl := List.eq_of_mem_replicate (List.mem_of_getLast? isLast)
    rw [List.getLast?_concat] at isPart
    obtain rfl := Option.some.inj isPart
    exact ⟨someLast, loose⟩
  sound := fun all => absurd (all false (by simp)) Bool.false_ne_true
  loose := fun _ => ⟨last, by simp, someLast, loose⟩

/-- The parts of an argument. -/
theorem RankedType.areToldBy (type : RankedType)
    (judged : (resolve type.text).type.IsJudged type.isSound) :
    AreToldBy (partsOf type.commas type.isSound)
      ((Bracket.angle.slices ',' 0 type.text).map trim) := by
  have inked := type.startsWithName.inked
  by_cases uncut : type.commas = 0
  · have balanced : Bracket.angle.Balanced (· ≠ ',') type.text :=
      type.balanced (fun _ other => other) (.inl uncut)
    have whole := Bracket.slices_of_balanced (by decide) balanced
    rw [partsOf, if_pos uncut, whole, List.map_singleton]
    refine areToldBy_single (trim_ne_nil inked) ?_
    rw [resolve_of_trim_eq (trim_trim type.text)]
    exact judged
  · -- The first part holds the name, and the last one is what stands behind the last comma.
    obtain ⟨tail, front, split, level, loose⟩ := type.exists_isBroken uncut
    obtain ⟨first, middle, pieces⟩ :=
      List.exists_cons_of_ne_nil (Bracket.slices_ne_nil Bracket.angle ',' 0 front)
    have single : Bracket.angle.slices ',' 0 tail = [tail] := by
      refine Bracket.slices_of_balanced (by decide) (Bracket.balanced_of_forall fun c member => ?_)
      refine ⟨?_, ?_, ?_⟩ <;> rintro rfl <;> exact loose.flat _ (by decide) member
    have cut : Bracket.angle.slices ',' 0 type.text = first :: (middle ++ [tail]) := by
      rw [split, Bracket.slices_append_level Bracket.delimits_angle (by rw [level]; rfl), pieces,
        single]
      rfl
    have size : (middle.map trim).length + 1 = type.commas := by
      have total := Bracket.length_slices Bracket.delimits_angle type.text
      rw [type.length_cuts, cut] at total
      simp only [List.length_cons, List.length_append, List.length_nil] at total
      rw [List.length_map]
      omega
    rw [partsOf, if_neg uncut, cut, List.map_cons, List.map_append, List.map_singleton]
    refine areToldBy_replicate size (trim_ne_nil (type.startsWithName.inked_of_slices cut))
      (trim_ne_nil loose.inked) ?_
    rw [resolve_of_trim_eq (trim_trim tail)]
    exact loose.loose

end SharpTypes.Source

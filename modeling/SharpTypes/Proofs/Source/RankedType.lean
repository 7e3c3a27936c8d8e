/-
Type expressions with array suffixes of any rank, laid out as text. The brackets of a suffix hold
one comma less than the array has dimensions, and blanks. Such commas stand outside of all angle
brackets, so that a list of arguments is cut at them, and the text behind the last of them starts
with a closing bracket that nothing opens.
-/

import Mathlib.Tactic.Common
import SharpTypes.Proofs.Source.Listing
import SharpTypes.Proofs.Source.Splitting

namespace SharpTypes.Source

open Text Listing

/-! ### Syntax -/

/-- A written name whose last part is a word of letters, digits and underscores. -/
structure ProperName extends NameText where
  proper : ∀ c ∈ name.last.text, isIdentifierCharacter c = true

/-- What stands in the brackets of an array suffix. -/
structure Rank where
  text : List Char
  plain : ∀ c ∈ text, isBlank c = true ∨ c = ','

mutual

/-- A type expression. What is nullable is not made nullable again. -/
inductive RankedType where
  | bare (type : BareRankedType)
  | nullable (type : BareRankedType) (after : Spacing)

/-- A type expression without a nullable mark at its end. -/
inductive BareRankedType where
  | name (name : ProperName)
  | array (element : RankedType) (rank : Rank) (after : Spacing)
  | wrapper (name : ProperName) (isWrapper : name.name.last.text = "Nullable".toList)
      (argument : RankedType) (after : Spacing)
  | generic (name : ProperName) (notWrapper : name.name.last.text ≠ "Nullable".toList)
      (arguments : RankedArguments) (after : Spacing)

/-- The arguments of a generic type, at least one. -/
inductive RankedArguments where
  | one (argument : RankedType)
  | more (argument : RankedType) (rest : RankedArguments)

end

/-- An array suffix and the blanks behind it. -/
def Rank.suffix (rank : Rank) (after : Spacing) : List Char :=
  '[' :: rank.text ++ ']' :: after.text

mutual

/-- The text of a type expression. -/
def RankedType.text : RankedType → List Char
  | .bare type => type.text
  | .nullable type after => type.text ++ '?' :: after.text

/-- The text of a type expression without a nullable mark. -/
def BareRankedType.text : BareRankedType → List Char
  | .name name => name.text
  | .array element rank after => element.text ++ rank.suffix after
  | .wrapper name _ argument after => name.text ++ '<' :: argument.text ++ '>' :: after.text
  | .generic name _ arguments after =>
    name.text ++ '<' :: join [','] arguments.texts ++ '>' :: after.text

/-- The texts of the arguments. -/
def RankedArguments.texts : RankedArguments → List (List Char)
  | .one argument => [argument.text]
  | .more argument rest => argument.text :: rest.texts

end

/-! ### Soundness -/

mutual

/-- The number of commas outside of all angle brackets. -/
def RankedType.commas : RankedType → Nat
  | .bare type => type.commas
  | .nullable type _ => type.commas

/-- The number of commas outside of all angle brackets. -/
def BareRankedType.commas : BareRankedType → Nat
  | .array element rank _ => element.commas + rank.text.count ','
  | .name _ => 0
  | .wrapper .. => 0
  | .generic .. => 0

end

mutual

/-- Whether there is a generic application behind the suffixes and marks. -/
def RankedType.isApplied : RankedType → Bool
  | .bare type => type.isApplied
  | .nullable type _ => type.isApplied

/-- Whether there is a generic application behind the suffixes. -/
def BareRankedType.isApplied : BareRankedType → Bool
  | .array element _ _ => element.isApplied
  | .name _ => false
  | .wrapper .. => true
  | .generic .. => true

end

/-- The parts an argument is cut into. One with commas outside of angle brackets is broken. -/
def partsOf (commas : Nat) (isSound : Bool) : List Bool :=
  if commas = 0 then [isSound] else List.replicate (commas + 1) false

/-- Whether a dictionary comes to names only. It counts with its value, and has the loosest type if
it has not two parts. -/
def dictionarySound : List Bool → Bool
  | [_, value] => value
  | _ => true

/-- Whether a collection comes to names only. It counts with its element, and has the loosest type
if it has not one part. -/
def collectionSound : List Bool → Bool
  | [element] => element
  | _ => true

/-- Whether a generic name comes to names only, from the parts of its arguments. -/
def appliedSound (name : List Char) (parts : List Bool) : Bool :=
  if dictionaryNames.contains name then dictionarySound parts
  else if collectionNames.contains name then collectionSound parts
  else parts.all id

mutual

/-- Whether the type expression comes to names only. -/
def RankedType.isSound : RankedType → Bool
  | .bare type => type.isSound
  | .nullable type _ => type.isSound

/-- Whether the type expression comes to names only. Behind a name each suffix has to be `[]`, and
behind a generic application all others are lost. -/
def BareRankedType.isSound : BareRankedType → Bool
  | .name _ => true
  | .array element rank _ => element.isSound && (rank.text.isEmpty || element.isApplied)
  | .wrapper _ _ argument _ => argument.isSound
  | .generic name _ arguments _ => appliedSound name.name.last.text arguments.parts

/-- The parts that a list of arguments is cut into. -/
def RankedArguments.parts : RankedArguments → List Bool
  | .one argument => partsOf argument.commas argument.isSound
  | .more argument rest => partsOf argument.commas argument.isSound ++ rest.parts

end

/-! ### Plain suffixes -/

mutual

/-- Whether nothing stands in the brackets of any array suffix. -/
def RankedType.isPlain : RankedType → Bool
  | .bare type => type.isPlain
  | .nullable type _ => type.isPlain

/-- Whether nothing stands in the brackets of any array suffix. -/
def BareRankedType.isPlain : BareRankedType → Bool
  | .name _ => true
  | .array element rank _ => element.isPlain && rank.text.isEmpty
  | .wrapper _ _ argument _ => argument.isPlain
  | .generic _ _ arguments _ => arguments.isPlain

/-- Whether nothing stands in the brackets of any array suffix. -/
def RankedArguments.isPlain : RankedArguments → Bool
  | .one argument => argument.isPlain
  | .more argument rest => argument.isPlain && rest.isPlain

end

mutual

theorem RankedType.commas_of_isPlain :
    (type : RankedType) → type.isPlain = true → type.commas = 0
  | .bare type, plain => type.commas_of_isPlain plain
  | .nullable type _, plain => type.commas_of_isPlain plain

theorem BareRankedType.commas_of_isPlain :
    (type : BareRankedType) → type.isPlain = true → type.commas = 0
  | .array element rank _, plain => by
    obtain ⟨plainElement, unranked⟩ := Bool.and_eq_true_iff.mp plain
    rw [BareRankedType.commas, element.commas_of_isPlain plainElement, List.isEmpty_iff.mp unranked]
    rfl
  | .name _, _ => rfl
  | .wrapper .., _ => rfl
  | .generic .., _ => rfl

end

theorem appliedSound_of_forall {parts : List Bool} (all : ∀ part ∈ parts, part = true)
    (name : List Char) : appliedSound name parts = true := by
  rw [appliedSound]
  split_ifs
  · rw [dictionarySound.eq_def]
    split
    · exact all _ (by simp)
    · rfl
  · rw [collectionSound.eq_def]
    split
    · exact all _ (by simp)
    · rfl
  · exact List.all_eq_true.mpr all

mutual

/-- With plain suffixes only, a type expression is sound. -/
theorem RankedType.isSound_of_isPlain :
    (type : RankedType) → type.isPlain = true → type.isSound = true
  | .bare type, plain => type.isSound_of_isPlain plain
  | .nullable type _, plain => type.isSound_of_isPlain plain

theorem BareRankedType.isSound_of_isPlain :
    (type : BareRankedType) → type.isPlain = true → type.isSound = true
  | .name _, _ => rfl
  | .array element rank _, plain => by
    obtain ⟨plainElement, unranked⟩ := Bool.and_eq_true_iff.mp plain
    rw [BareRankedType.isSound, element.isSound_of_isPlain plainElement, unranked]
    rfl
  | .wrapper _ _ argument _, plain => argument.isSound_of_isPlain plain
  | .generic _ _ arguments _, plain =>
    appliedSound_of_forall (arguments.forall_parts_of_isPlain plain) _

theorem RankedArguments.forall_parts_of_isPlain :
    (arguments : RankedArguments) → arguments.isPlain = true → ∀ part ∈ arguments.parts, part = true
  | .one argument, plain => by
    rw [RankedArguments.parts, partsOf, if_pos (argument.commas_of_isPlain plain)]
    exact List.forall_mem_singleton.mpr (argument.isSound_of_isPlain plain)
  | .more argument rest, plain => by
    obtain ⟨plainArgument, plainRest⟩ := Bool.and_eq_true_iff.mp plain
    rw [RankedArguments.parts, partsOf, if_pos (argument.commas_of_isPlain plainArgument)]
    exact List.forall_mem_cons.mpr
      ⟨argument.isSound_of_isPlain plainArgument, rest.forall_parts_of_isPlain plainRest⟩

end

/-! ### Suffixes -/

namespace Rank

variable (rank : Rank) (after : Spacing)

theorem not_mem {c : Char} (notBlank : isBlank c = false) (notComma : c ≠ ',') : c ∉ rank.text := by
  intro member
  rcases rank.plain c member with blank | comma
  · rw [notBlank] at blank
    cases blank
  · exact notComma comma

theorem not_mem_suffix {c : Char} (notBlank : isBlank c = false) (other : c ∉ [',', '[', ']']) :
    c ∉ rank.suffix after := by
  simp only [List.mem_cons, List.not_mem_nil, or_false, not_or] at other
  obtain ⟨notComma, notOpening, notClosing⟩ := other
  simp only [suffix, List.cons_append, List.mem_cons, List.mem_append, not_or]
  exact ⟨notOpening, rank.not_mem notBlank notComma, notClosing,
    not_mem_of_blank after.blank notBlank⟩

theorem count_suffix : (rank.suffix after).count ',' = rank.text.count ',' := by
  have noComma : after.text.count ',' = 0 :=
    List.count_eq_zero_of_not_mem (not_mem_of_blank after.blank (by decide))
  simp [suffix, noComma]

/-- A comma may only stand in the brackets where commas are allowed. -/
theorem balanced_suffix {outside : Char → Prop} (others : ∀ c, c ≠ ',' → outside c)
    (separated : rank.text.count ',' = 0 ∨ outside ',') :
    Bracket.angle.Balanced outside (rank.suffix after) := by
  refine Bracket.balanced_of_forall fun c member => ⟨?_, ?_, ?_⟩
  · by_cases comma : c = ','
    · subst comma
      refine separated.resolve_left fun noComma => ?_
      rw [← rank.count_suffix after] at noComma
      exact List.count_eq_zero.mp noComma member
    · exact others c comma
  · rintro rfl
    exact rank.not_mem_suffix after (by decide) (by decide) member
  · rintro rfl
    exact rank.not_mem_suffix after (by decide) (by decide) member

end Rank

/-! ### Balance -/

mutual

/-- The text of a type expression balances its angle brackets, and commas stand outside of them
where they are allowed. -/
theorem RankedType.balanced {outside : Char → Prop} (others : ∀ c, c ≠ ',' → outside c) :
    (type : RankedType) → type.commas = 0 ∨ outside ',' → Bracket.angle.Balanced outside type.text
  | .bare type, separated => type.balanced others separated
  | .nullable type after, separated =>
    (type.balanced others separated).append (.plain (others _ (by decide)) (by decide) (by decide)
      ((balanced_of_blank after.blank).mono others))

theorem BareRankedType.balanced {outside : Char → Prop} (others : ∀ c, c ≠ ',' → outside c) :
    (type : BareRankedType) → type.commas = 0 ∨ outside ',' →
      Bracket.angle.Balanced outside type.text
  | .name name, _ => (QualifiedName.balanced_of_written name.written).mono others
  | .array element rank after, separated =>
    (element.balanced others (separated.imp_left Nat.eq_zero_of_add_eq_zero_right)).append
      (rank.balanced_suffix after others (separated.imp_left Nat.eq_zero_of_add_eq_zero_left))
  | .wrapper name _ argument after, _ => by
    rw [BareRankedType.text, List.append_assoc]
    exact ((QualifiedName.balanced_of_written name.written).mono others).append
      (.enclosed (argument.balanced (fun _ _ => trivial) (.inr trivial))
        ((balanced_of_blank after.blank).mono others))
  | .generic name _ arguments after, _ => by
    rw [BareRankedType.text, List.append_assoc]
    exact ((QualifiedName.balanced_of_written name.written).mono others).append
      (.enclosed (join_of_append .nil .append (.plain trivial (by decide) (by decide) .nil)
        arguments.balanced) ((balanced_of_blank after.blank).mono others))

theorem RankedArguments.balanced : (arguments : RankedArguments) →
    ∀ text ∈ arguments.texts, Bracket.angle.Balanced (fun _ => True) text
  | .one argument =>
    List.forall_mem_singleton.mpr (argument.balanced (fun _ _ => trivial) (.inr trivial))
  | .more argument rest =>
    List.forall_mem_cons.mpr
      ⟨argument.balanced (fun _ _ => trivial) (.inr trivial), rest.balanced⟩

end

theorem RankedType.rise_text (type : RankedType) : Bracket.angle.rise type.text = 0 :=
  (type.balanced (fun _ _ => trivial) (.inr trivial)).rise_eq_zero (by decide)

theorem BareRankedType.rise_text (type : BareRankedType) : Bracket.angle.rise type.text = 0 :=
  (type.balanced (fun _ _ => trivial) (.inr trivial)).rise_eq_zero (by decide)

/-! ### Commas -/

theorem Rank.length_cuts_suffix (rank : Rank) (after : Spacing) :
    (Bracket.angle.cuts ',' 0 (rank.suffix after)).length = rank.text.count ',' := by
  rw [Bracket.length_cuts_of_flat (by decide) (rank.not_mem_suffix after (by decide) (by decide))
    (rank.not_mem_suffix after (by decide) (by decide)), rank.count_suffix]

mutual

/-- The text of a type expression is cut at its commas outside of angle brackets. -/
theorem RankedType.length_cuts :
    (type : RankedType) → (Bracket.angle.cuts ',' 0 type.text).length = type.commas
  | .bare type => type.length_cuts
  | .nullable type after => by
    have mark : Bracket.angle.Balanced (· ≠ ',') ('?' :: after.text) :=
      .plain (by decide) (by decide) (by decide) (balanced_of_blank after.blank)
    rw [RankedType.text, Bracket.length_cuts_append (by decide) type.rise_text, type.length_cuts,
      Bracket.length_cuts_of_balanced Bracket.delimits_angle mark]
    rfl

/-- The text of a type expression is cut at its commas outside of angle brackets. -/
theorem BareRankedType.length_cuts :
    (type : BareRankedType) → (Bracket.angle.cuts ',' 0 type.text).length = type.commas
  | .array element rank after => by
    rw [BareRankedType.text, Bracket.length_cuts_append (by decide) element.rise_text,
      element.length_cuts, rank.length_cuts_suffix]
    rfl
  | .name name => Bracket.length_cuts_of_balanced Bracket.delimits_angle
    ((BareRankedType.name name).balanced (fun _ other => other) (.inl rfl))
  | .wrapper name isWrapper argument after =>
    Bracket.length_cuts_of_balanced Bracket.delimits_angle
      ((BareRankedType.wrapper name isWrapper argument after).balanced (fun _ other => other)
        (.inl rfl))
  | .generic name notWrapper arguments after =>
    Bracket.length_cuts_of_balanced Bracket.delimits_angle
      ((BareRankedType.generic name notWrapper arguments after).balanced (fun _ other => other)
        (.inl rfl))

end

/-! ### The name in front -/

/-- The text starts with a written name. -/
def StartsWithName (text : List Char) : Prop :=
  ∃ (name : QualifiedName) (front rest : List Char), name.Written front ∧ text = front ++ rest

theorem StartsWithName.append {text : List Char} (starts : StartsWithName text)
    (rest : List Char) : StartsWithName (text ++ rest) := by
  obtain ⟨name, front, behind, written, rfl⟩ := starts
  exact ⟨name, front, behind ++ rest, written, List.append_assoc ..⟩

theorem StartsWithName.inked {text : List Char} (starts : StartsWithName text) : Inked text := by
  obtain ⟨_, _, rest, written, rfl⟩ := starts
  exact (QualifiedName.inked_of_written written).append_left rest

/-- The name belongs to the first slice. -/
theorem StartsWithName.inked_of_slices {text first : List Char} {others : List (List Char)}
    (starts : StartsWithName text) (cut : Bracket.angle.slices ',' 0 text = first :: others) :
    Inked first := by
  obtain ⟨_, front, rest, written, rfl⟩ := starts
  rw [Bracket.slices_append (by decide) (QualifiedName.balanced_of_written written)] at cut
  obtain ⟨slice, later, pieces⟩ :=
    List.exists_cons_of_ne_nil (Bracket.slices_ne_nil Bracket.angle ',' 0 rest)
  rw [pieces, List.modifyHead_cons] at cut
  obtain ⟨rfl, -⟩ := List.cons.inj cut
  exact (QualifiedName.inked_of_written written).append_left slice

theorem NameText.startsWithName (name : NameText) (rest : List Char) :
    StartsWithName (name.text ++ rest) :=
  ⟨name.name, name.text, rest, name.written, rfl⟩

mutual

theorem RankedType.startsWithName : (type : RankedType) → StartsWithName type.text
  | .bare type => type.startsWithName
  | .nullable type _ => type.startsWithName.append _

theorem BareRankedType.startsWithName : (type : BareRankedType) → StartsWithName type.text
  | .name name => ⟨name.name, name.text, [], name.written, (List.append_nil _).symm⟩
  | .array element _ _ => element.startsWithName.append _
  | .wrapper name _ _ _ => (name.startsWithName _).append _
  | .generic name _ _ _ => (name.startsWithName _).append _

end

mutual

/-- Behind a name no angle bracket opens. -/
theorem RankedType.not_mem_of_not_isApplied :
    (type : RankedType) → type.isApplied = false → '<' ∉ type.text
  | .bare type, free => type.not_mem_of_not_isApplied free
  | .nullable type after, free => List.not_mem_append (type.not_mem_of_not_isApplied free)
    (List.not_mem_cons_of_ne_of_not_mem (by decide) (not_mem_of_blank after.blank (by decide)))

/-- Behind a name no angle bracket opens. -/
theorem BareRankedType.not_mem_of_not_isApplied :
    (type : BareRankedType) → type.isApplied = false → '<' ∉ type.text
  | .name name, _ => QualifiedName.not_mem_of_written name.written (by decide)
  | .array element rank after, free => List.not_mem_append (element.not_mem_of_not_isApplied free)
    (rank.not_mem_suffix after (by decide) (by decide))
  | .wrapper .., free => by cases free
  | .generic .., free => by cases free

end

theorem RankedArguments.exists_texts (arguments : RankedArguments) :
    ∃ (first : RankedType) (others : List (List Char)), arguments.texts = first.text :: others := by
  cases arguments with
  | one argument => exact ⟨argument, [], rfl⟩
  | more argument rest => exact ⟨argument, rest.texts, rfl⟩

theorem RankedArguments.inked_join (arguments : RankedArguments) :
    Inked (join [','] arguments.texts) := by
  obtain ⟨first, others, same⟩ := arguments.exists_texts
  obtain ⟨c, inside, notBlank⟩ := first.startsWithName.inked
  rw [same]
  exact ⟨c, mem_join_of_mem [','] List.mem_cons_self inside, notBlank⟩

/-! ### Ends -/

theorem Rank.append_suffix (rank : Rank) (after : Spacing) (text : List Char) :
    text ++ rank.suffix after = text ++ '[' :: rank.text ++ ']' :: after.text :=
  (List.append_assoc ..).symm

theorem Rank.unmarked_suffix (rank : Rank) (after : Spacing) (text : List Char) :
    dropEnd? ['?'] (trim (text ++ rank.suffix after)) = none := by
  rw [rank.append_suffix]
  exact dropEnd?_trim_of_ne rfl (by decide) (by decide) after.blank _

theorem BareRankedType.unmarked (type : BareRankedType) :
    dropEnd? ['?'] (trim type.text) = none := by
  cases type with
  | name name =>
    exact (BareTypeExpression.name name.name).unmarked_of_written (.name name.written)
  | array element rank after => exact rank.unmarked_suffix after element.text
  | wrapper _ _ _ after =>
    exact dropEnd?_trim_of_ne rfl (by decide) (by decide) after.blank _
  | generic _ _ _ after =>
    exact dropEnd?_trim_of_ne rfl (by decide) (by decide) after.blank _

end SharpTypes.Source

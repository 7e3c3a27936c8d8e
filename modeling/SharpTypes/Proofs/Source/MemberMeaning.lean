/-
The type of a member. One nullable mark at the end of a type expression belongs to the member, and
so does the wrapper around the whole of it. An array of the wrapper is the exception: the wrapper
is looked for in front of the first angle bracket, array suffixes behind the last one or not.
-/

import Mathlib.Tactic.Common
import SharpTypes.Proofs.Source.TypeMeaning

namespace SharpTypes.Source

open Text

/-! ### Nullable members -/

/-- The names under which the wrapper makes a member nullable. -/
def wrapperNames : List (List Char) :=
  ["Nullable", "System.Nullable"].map String.toList

mutual

/-- Whether the wrapper stands around everything but array suffixes and nullable marks. -/
def TypeExpression.isWrapped : TypeExpression → Bool
  | .bare type => type.isWrapped
  | .nullable type => type.isWrapped

/-- Whether the wrapper stands around everything but array suffixes and nullable marks. -/
def BareTypeExpression.isWrapped : BareTypeExpression → Bool
  | .name _ => false
  | .array element => element.isWrapped
  | .wrapper .. => true
  | .generic .. => false

end

namespace TypeExpression

/-- Whether an array suffix at the end hides that the elements are wrapped. -/
def hidesWrapper : TypeExpression → Bool
  | .bare (.array element) => element.isWrapped
  | _ => false

/-- Whether a type expression makes a member nullable, if it is written as the text. The wrapper
does only under its names, with no blank inside them. -/
def isNullable (text : List Char) : TypeExpression → Bool
  | .nullable _ => true
  | .bare (.wrapper ..) => wrapperNames.contains (trim (beforeFirst '<' text))
  | .bare _ => false

/-- What a member of the type means. -/
def member (type : TypeExpression) (name text : List Char) : Member :=
  ⟨name, type.meaning.type, type.meaning.isArray, type.isNullable text⟩

end TypeExpression

/-! ### Texts without the wrapper -/

/-- The first angle bracket of the text, if there is one, is not that of the wrapper. -/
def Unwrapped (text : List Char) : Prop :=
  '<' ∉ text ∨ ∃ front rest, text = front ++ '<' :: rest ∧ '<' ∉ front ∧ Inked front ∧
    lastSegment front ≠ "Nullable".toList

theorem Unwrapped.append {text behind : List Char} (unwrapped : Unwrapped text)
    (unopened : '<' ∉ behind) : Unwrapped (text ++ behind) := by
  rcases unwrapped with noBracket | ⟨front, rest, rfl, unopenedFront, inked, different⟩
  · exact .inl (List.not_mem_append noBracket unopened)
  · exact .inr ⟨front, rest ++ behind, List.append_assoc .., unopenedFront, inked, different⟩

mutual

theorem TypeExpression.unwrapped_of_written {text : List Char} :
    (type : TypeExpression) → type.Written text → type.isWrapped = false → Unwrapped text
  | .bare type, .bare written, free => type.unwrapped_of_written written free
  | .nullable type, .nullable written blankAfter, free =>
    (type.unwrapped_of_written written free).append
      (List.not_mem_cons_of_ne_of_not_mem (by decide) (not_mem_of_blank blankAfter (by decide)))

theorem BareTypeExpression.unwrapped_of_written {text : List Char} :
    (type : BareTypeExpression) → type.Written text → type.isWrapped = false → Unwrapped text
  | .name _, .name written, _ =>
    .inl (QualifiedName.not_mem_of_written written (by decide))
  | .array element, .array written blankAfter, free =>
    (element.unwrapped_of_written written free).append
      (List.not_mem_cons_of_ne_of_not_mem (by decide)
        (List.not_mem_cons_of_ne_of_not_mem (by decide)
          (not_mem_of_blank blankAfter (by decide))))
  | .wrapper .., _, free => by
    rw [BareTypeExpression.isWrapped] at free
    cases free
  | .generic _ notWrapper _, .generic writtenName _ _, _ => by
    have unopened := QualifiedName.not_mem_of_written writtenName (c := '<') (by decide)
    refine .inr ⟨_, _, List.append_assoc .., unopened,
      QualifiedName.inked_of_written writtenName, ?_⟩
    rw [QualifiedName.lastSegment_of_written writtenName]
    exact notWrapper

end

/-! ### Members -/

theorem lastSegment_of_mem_wrapperNames :
    ∀ name ∈ wrapperNames, lastSegment name = "Nullable".toList := by
  decide

theorem MemberType.of_wrapped {text name inner : List Char}
    (unmarked : dropEnd? ['?'] (trim text) = none)
    (applied : GenericText.of? (trim text) = some ⟨name, some inner⟩) :
    MemberType.of text =
      if wrapperNames.contains name then ⟨trim inner, true⟩ else ⟨trim text, false⟩ := by
  rw [MemberType.of, unmarked]
  dsimp only
  rw [applied]
  simp only [wrapperNames, List.map_cons, List.map_nil, List.contains_cons, List.contains_nil,
    Bool.or_false, Bool.or_eq_true, beq_iff_eq]

/-- Without a mark and without the wrapper the whole type is that of the member. -/
theorem MemberType.of_unwrapped {text : List Char} (unmarked : dropEnd? ['?'] (trim text) = none)
    (unwrapped : Unwrapped text) : MemberType.of text = ⟨trim text, false⟩ := by
  rcases unwrapped with noBracket | ⟨front, rest, rfl, unopened, inked, different⟩
  · have noArguments : GenericText.of? (trim text) = Option.none :=
      genericText_of_not_mem fun member => noBracket (mem_of_mem_trim member)
    rw [MemberType.of, unmarked]
    dsimp only
    rw [noArguments]
  · obtain ⟨kept, cut⟩ := exists_trimEnd_cons (c := '<') (by decide) rest
    have split : trim (front ++ '<' :: rest) = trimStart front ++ '<' :: kept := by
      rw [trim, trimStart_append_of_inked inked,
        trimEnd_append_of_inked _ (inked_cons (by decide) rest), cut]
    have unopenedStart : '<' ∉ trimStart front := fun member =>
      unopened ((List.dropWhile_sublist _).subset member)
    have notWrapper : trim front ∉ wrapperNames := by
      intro isName
      refine different ?_
      rw [← QualifiedName.lastSegment_trim, lastSegment_of_mem_wrapperNames _ isName]
    have read : GenericText.of? (trim (front ++ '<' :: rest)) = some
        ⟨trim front, (Bracket.angle.enclosed? ('<' :: kept)).map Prod.fst⟩ := by
      rw [split, GenericText.of?, dropWhile_ne_append unopenedStart,
        beforeFirst_append unopenedStart, trim_trimStart]
    cases closed : (Bracket.angle.enclosed? ('<' :: kept)).map Prod.fst with
    | none =>
      rw [MemberType.of, unmarked]
      dsimp only
      rw [read, closed]
    | some inner =>
      rw [closed] at read
      rw [MemberType.of_wrapped unmarked read, if_neg]
      rwa [List.contains_iff_mem]

theorem resolve_trim_of_written {type : TypeExpression} {text : List Char}
    (written : type.Written text) : resolve (trim text) = type.meaning :=
  (resolve_of_trim_eq (trim_trim text)).trans (type.resolve_of_written written)

/-- A mark at the end is that of the member. -/
theorem resolveMember_nullable {type : BareTypeExpression} {text after : List Char}
    (written : type.Written text) (blankAfter : Blank after) (name : List Char) :
    resolveMember name (text ++ '?' :: after) =
      ⟨name, type.meaning.type, type.meaning.isArray, true⟩ := by
  have inner : resolve (trimEnd (trimStart text)) = type.meaning :=
    resolve_trim_of_written (.bare written)
  rw [resolveMember, MemberType.of, dropEnd?_mark _ blankAfter]
  dsimp only
  rw [inner]

/-- The wrapper under one of its names is taken off, under any other it makes nothing nullable. -/
theorem resolveMember_wrapper {name : QualifiedName} {argument : TypeExpression}
    {front inner after : List Char} (isWrapper : name.last.text = "Nullable".toList)
    (writtenName : name.Written front) (written : argument.Written inner)
    (blankAfter : Blank after) (memberName : List Char) :
    resolveMember memberName (front ++ '<' :: inner ++ '>' :: after) =
      ⟨memberName, argument.meaning.type, argument.meaning.isArray,
        wrapperNames.contains (trim front)⟩ := by
  have whole : BareTypeExpression.Written (.wrapper name isWrapper argument)
      (front ++ '<' :: inner ++ '>' :: after) := .wrapper writtenName written blankAfter
  have applied := genericText_generic writtenName
    ((argument.balanced_of_written written).mono fun _ _ => trivial) after
  have ofWhole := resolve_trim_of_written (TypeExpression.Written.bare whole)
  rw [resolveMember, MemberType.of_wrapped
    (BareTypeExpression.unmarked_of_written _ whole) applied]
  cases wrapperNames.contains (trim front) with
  | true => rw [if_pos rfl, resolve_trim_of_written written]
  | false =>
    rw [if_neg Bool.false_ne_true, ofWhole]
    rfl

/-- A member comes to what its type means, if no array suffix hides the wrapper. -/
theorem resolveMember_of_written {type : TypeExpression} {text : List Char}
    (written : type.Written text) (shown : type.hidesWrapper = false) (name : List Char) :
    resolveMember name text = type.member name text := by
  cases written with
  | nullable written blankAfter => exact resolveMember_nullable written blankAfter name
  | @bare type _ written =>
    have unwrapped (free : type.isWrapped = false) : resolveMember name text =
        ⟨name, type.meaning.type, type.meaning.isArray, false⟩ := by
      rw [resolveMember, MemberType.of_unwrapped (type.unmarked_of_written written)
        (type.unwrapped_of_written written free), resolve_trim_of_written (.bare written)]
      rfl
    cases written with
    | name => exact unwrapped rfl
    | array => exact unwrapped shown
    | generic => exact unwrapped rfl
    | @wrapper _ isWrapper _ front inner after writtenName written blankAfter =>
      have named : beforeFirst '<' (front ++ '<' :: inner ++ '>' :: after) = front := by
        rw [List.append_assoc, List.cons_append, beforeFirst_append]
        exact QualifiedName.not_mem_of_written writtenName (by decide)
      rw [resolveMember_wrapper isWrapper writtenName written blankAfter, TypeExpression.member,
        TypeExpression.isNullable, named]
      rfl

end SharpTypes.Source

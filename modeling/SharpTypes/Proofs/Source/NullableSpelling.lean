/-
The two spellings of a nullable type: with a mark behind it, or with the wrapper around it. Inside
of type arguments they are read alike. At the outside of a type they are not read alike if array
suffixes follow: a member looks for the wrapper in front of the first angle bracket and takes what
it encloses for the whole type, so that the suffixes are lost and the elements make the member
nullable. This happens exactly behind the wrapper under one of its names.
-/

import Mathlib.Tactic.Common
import SharpTypes.Proofs.Source.Listing

namespace SharpTypes.Source

open Text Listing

/-! ### What the wrapper encloses -/

mutual

/-- What stands in the wrapper means, if the wrapper stands around everything but array suffixes and
nullable marks. -/
def TypeExpression.wrapped? : TypeExpression → Option Resolved
  | .bare type => type.wrapped?
  | .nullable type => type.wrapped?

/-- What stands in the wrapper means, if the wrapper stands around everything but array suffixes and
nullable marks. -/
def BareTypeExpression.wrapped? : BareTypeExpression → Option Resolved
  | .name _ => none
  | .array element => element.wrapped?
  | .wrapper _ _ argument => some argument.meaning
  | .generic .. => none

end

mutual

theorem TypeExpression.isWrapped_eq :
    (type : TypeExpression) → type.isWrapped = type.wrapped?.isSome
  | .bare type => type.isWrapped_eq
  | .nullable type => type.isWrapped_eq

theorem BareTypeExpression.isWrapped_eq :
    (type : BareTypeExpression) → type.isWrapped = type.wrapped?.isSome
  | .name _ => rfl
  | .array element => element.isWrapped_eq
  | .wrapper .. => rfl
  | .generic .. => rfl

end

mutual

/-- The wrapper and what follows it change nothing but the array mark. -/
theorem TypeExpression.type_of_wrapped? {inner : Resolved} :
    (type : TypeExpression) → type.wrapped? = some inner → type.meaning.type = inner.type
  | .bare type, found => type.type_of_wrapped? found
  | .nullable type, found => type.type_of_wrapped? found

theorem BareTypeExpression.type_of_wrapped? {inner : Resolved} :
    (type : BareTypeExpression) → type.wrapped? = some inner → type.meaning.type = inner.type
  | .name _, found => by cases found
  | .array element, found => element.type_of_wrapped? found
  | .wrapper _ _ argument, found => by
    obtain rfl := Option.some.inj found
    rfl
  | .generic .., found => by cases found

end

/-- The text starts with the wrapper around the text of something that means the given. -/
def StartsWrapped (inner : Resolved) (text : List Char) : Prop :=
  ∃ (name : QualifiedName) (argument : TypeExpression) (front enclosed behind : List Char),
    name.Written front ∧ argument.Written enclosed ∧ argument.meaning = inner ∧
      text = front ++ '<' :: enclosed ++ '>' :: behind

theorem StartsWrapped.append {inner : Resolved} {text : List Char}
    (starts : StartsWrapped inner text) (rest : List Char) :
    StartsWrapped inner (text ++ rest) := by
  obtain ⟨name, argument, front, enclosed, behind, writtenName, written, means, rfl⟩ := starts
  exact ⟨name, argument, front, enclosed, behind ++ rest, writtenName, written, means,
    List.append_assoc ..⟩

theorem StartsWrapped.opening_mem {inner : Resolved} {text : List Char}
    (starts : StartsWrapped inner text) : '<' ∈ text := by
  obtain ⟨_, _, front, enclosed, behind, _, _, _, rfl⟩ := starts
  simp

mutual

theorem TypeExpression.startsWrapped_of_written {inner : Resolved} {text : List Char} :
    (type : TypeExpression) → type.Written text → type.wrapped? = some inner →
      StartsWrapped inner text
  | .bare type, .bare written, found => type.startsWrapped_of_written written found
  | .nullable type, .nullable written _, found =>
    (type.startsWrapped_of_written written found).append _

theorem BareTypeExpression.startsWrapped_of_written {inner : Resolved} {text : List Char} :
    (type : BareTypeExpression) → type.Written text → type.wrapped? = some inner →
      StartsWrapped inner text
  | .name _, _, found => by cases found
  | .array element, .array written _, found =>
    (element.startsWrapped_of_written written found).append _
  | .wrapper name _ argument, .wrapper writtenName written _, found =>
    ⟨name, argument, _, _, _, writtenName, written, Option.some.inj found, rfl⟩
  | .generic .., _, found => by cases found

end

/-! ### Every member -/

/-- Whether what stands in front of the first angle bracket is a name of the wrapper. -/
def startsWithWrapperName (text : List Char) : Bool :=
  wrapperNames.contains (trim (beforeFirst '<' text))

theorem startsWithWrapperName_append {text : List Char} (opened : '<' ∈ text)
    (rest : List Char) : startsWithWrapperName (text ++ rest) = startsWithWrapperName text := by
  obtain ⟨front, behind, rfl, unopened⟩ := List.eq_append_cons_of_mem opened
  rw [startsWithWrapperName, startsWithWrapperName, List.append_assoc, List.cons_append,
    beforeFirst_append unopened, beforeFirst_append unopened]

/-- The member of a type, where the wrapper is found under one of its names or not. -/
def memberOf (name : List Char) (whole : Resolved) (wrapped? : Option Resolved) (named : Bool) :
    Member :=
  match wrapped?, named with
  | some inner, true => ⟨name, inner.type, inner.isArray, true⟩
  | _, _ => ⟨name, whole.type, whole.isArray, false⟩

/-- A member of a type without a mark at its end comes to what the wrapper encloses, if that is
found, and to the whole type otherwise. -/
theorem resolveMember_bare {type : BareTypeExpression} {text : List Char}
    (written : type.Written text) (name : List Char) :
    resolveMember name text =
      memberOf name type.meaning type.wrapped? (startsWithWrapperName text) := by
  have unmarked := type.unmarked_of_written written
  have whole := resolve_trim_of_written (TypeExpression.Written.bare written)
  cases found : type.wrapped? with
  | none =>
    have free : type.isWrapped = false := by rw [type.isWrapped_eq, found]; rfl
    rw [resolveMember, MemberType.of_unwrapped unmarked (type.unwrapped_of_written written free)]
    dsimp only
    rw [whole]
    rfl
  | some inner =>
    obtain ⟨wrapper, argument, front, enclosed, behind, writtenName, writtenArgument, rfl, rfl⟩ :=
      type.startsWrapped_of_written written found
    have applied := genericText_generic writtenName
      ((argument.balanced_of_written writtenArgument).mono fun _ _ => trivial) behind
    have named : beforeFirst '<' (front ++ '<' :: enclosed ++ '>' :: behind) = front := by
      rw [List.append_assoc, List.cons_append, beforeFirst_append]
      exact QualifiedName.not_mem_of_written writtenName (by decide)
    rw [resolveMember, MemberType.of_wrapped unmarked applied, startsWithWrapperName, named]
    cases wrapperNames.contains (trim front) with
    | true =>
      rw [if_pos rfl, resolve_trim_of_written writtenArgument]
      rfl
    | false =>
      rw [if_neg Bool.false_ne_true, whole]
      rfl

/-! ### Contexts -/

/-- A type expression with a hole in it, which stands under array suffixes and among type
arguments, laid out as text. -/
inductive TypeContext where
  | hole
  | array (inner : TypeContext) (after : Spacing)
  | wrapper (name : NameText) (isWrapper : name.name.last.text = "Nullable".toList)
      (inner : TypeContext) (after : Spacing)
  | generic (name : NameText) (notWrapper : name.name.last.text ≠ "Nullable".toList)
      (earlier : List TypeText) (inner : TypeContext) (later : List TypeText) (after : Spacing)

namespace TypeArguments

/-- The arguments, one after the other. -/
def ofCons : TypeExpression → List TypeExpression → TypeArguments
  | argument, [] => .one argument
  | argument, next :: later => .more argument (ofCons next later)

/-- One argument with others in front of it and behind it. -/
def around (earlier : List TypeExpression) (argument : TypeExpression)
    (later : List TypeExpression) : TypeArguments :=
  earlier.foldr .more (ofCons argument later)

theorem meanings_ofCons (argument : TypeExpression) (later : List TypeExpression) :
    (ofCons argument later).meanings = argument.meaning :: later.map TypeExpression.meaning := by
  induction later generalizing argument with
  | nil => rfl
  | cons next later inductionHypothesis =>
    rw [ofCons, meanings, inductionHypothesis]
    rfl

theorem meanings_around (earlier : List TypeExpression) (argument : TypeExpression)
    (later : List TypeExpression) :
    (around earlier argument later).meanings =
      earlier.map TypeExpression.meaning ++ argument.meaning ::
        later.map TypeExpression.meaning := by
  induction earlier with
  | nil => exact meanings_ofCons argument later
  | cons first earlier inductionHypothesis =>
    exact congrArg (first.meaning :: ·) inductionHypothesis

theorem written_ofCons {argument : TypeExpression} {text : List Char}
    (written : argument.Written text) (later : List TypeText) :
    (ofCons argument (later.map TypeText.type)).Written (text :: later.map TypeText.text) := by
  induction later generalizing argument text with
  | nil => exact .one written
  | cons next later inductionHypothesis => exact .more written (inductionHypothesis next.written)

theorem written_around (earlier : List TypeText) {argument : TypeExpression} {text : List Char}
    (written : argument.Written text) (later : List TypeText) :
    (around (earlier.map TypeText.type) argument (later.map TypeText.type)).Written
      (earlier.map TypeText.text ++ text :: later.map TypeText.text) := by
  induction earlier with
  | nil => exact written_ofCons written later
  | cons first earlier inductionHypothesis => exact .more first.written inductionHypothesis

end TypeArguments

namespace TypeContext

/-- The type expression with something in the place of the hole. -/
def plug : TypeContext → TypeExpression → TypeExpression
  | .hole, type => type
  | .array inner _, type => .bare (.array (inner.plug type))
  | .wrapper name isWrapper inner _, type => .bare (.wrapper name.name isWrapper (inner.plug type))
  | .generic name notWrapper earlier inner later _, type =>
    .bare (.generic name.name notWrapper
      (.around (earlier.map TypeText.type) (inner.plug type) (later.map TypeText.type)))

/-- The text with something in the place of the hole. -/
def fill : TypeContext → List Char → List Char
  | .hole, text => text
  | .array inner after, text => inner.fill text ++ '[' :: ']' :: after.text
  | .wrapper name _ inner after, text => name.text ++ '<' :: inner.fill text ++ '>' :: after.text
  | .generic name _ earlier inner later after, text =>
    name.text ++ '<' :: join [','] (earlier.map TypeText.text ++ inner.fill text ::
      later.map TypeText.text) ++ '>' :: after.text

theorem written_fill {type : TypeExpression} {text : List Char} (written : type.Written text)
    (context : TypeContext) : (context.plug type).Written (context.fill text) := by
  induction context with
  | hole => exact written
  | array inner after inductionHypothesis => exact .bare (.array inductionHypothesis after.blank)
  | wrapper name isWrapper inner after inductionHypothesis =>
    exact .bare (.wrapper name.written inductionHypothesis after.blank)
  | generic name notWrapper earlier inner later after inductionHypothesis =>
    exact .bare (.generic name.written
      (TypeArguments.written_around earlier inductionHypothesis later) after.blank)

/-- Only what stands in the hole means matters for the meaning of the whole. -/
theorem meaning_plug {left right : TypeExpression} (same : left.meaning = right.meaning)
    (context : TypeContext) : (context.plug left).meaning = (context.plug right).meaning := by
  induction context with
  | hole => exact same
  | array inner after inductionHypothesis =>
    simp only [plug, TypeExpression.meaning, BareTypeExpression.meaning, inductionHypothesis]
  | wrapper name isWrapper inner after inductionHypothesis => exact inductionHypothesis
  | generic name notWrapper earlier inner later after inductionHypothesis =>
    simp only [plug, TypeExpression.meaning, BareTypeExpression.meaning,
      TypeArguments.meanings_around, inductionHypothesis]

/-- Whether there is nothing around the hole but array suffixes, if anything. -/
def isSuffixes : TypeContext → Bool
  | .hole => true
  | .array inner _ => inner.isSuffixes
  | .wrapper .. => false
  | .generic .. => false

/-- Whether there is something around the hole, and nothing but array suffixes. -/
def isSuffixed : TypeContext → Bool
  | .array inner _ => inner.isSuffixes
  | _ => false

theorem of_isSuffixed {context : TypeContext} (suffixed : context.isSuffixed = true) :
    context ≠ .hole ∧ context.isSuffixes = true := by
  cases context with
  | array inner after => exact ⟨by rintro ⟨⟩, suffixed⟩
  | hole => cases suffixed
  | wrapper => cases suffixed
  | generic => cases suffixed

theorem of_not_isSuffixed {context : TypeContext} (free : context.isSuffixed = false) :
    context = .hole ∨ context.isSuffixes = false := by
  cases context with
  | hole => exact .inl rfl
  | array inner after => exact .inr free
  | wrapper => exact .inr rfl
  | generic => exact .inr rfl

/-- A type with something around it has no mark at its end. -/
theorem resolveMember_fill {context : TypeContext} (around : context ≠ .hole)
    {type : TypeExpression} {text : List Char} (written : type.Written text) (name : List Char) :
    resolveMember name (context.fill text) =
      memberOf name (context.plug type).meaning (context.plug type).wrapped?
        (startsWithWrapperName (context.fill text)) := by
  have whole := written_fill written context
  cases context with
  | hole => exact absurd rfl around
  | array | wrapper | generic =>
    cases whole with
    | bare bare => exact resolveMember_bare bare name

/-! ### Contexts with type arguments -/

/-- Outside of the hole a name is applied. -/
theorem exists_front_of_fill {context : TypeContext} (applied : context.isSuffixes = false) :
    ∃ front, '<' ∉ front ∧ ∀ text, ∃ rest, context.fill text = front ++ '<' :: rest := by
  induction context with
  | hole => cases applied
  | array inner after inductionHypothesis =>
    obtain ⟨front, unopened, starts⟩ := inductionHypothesis applied
    refine ⟨front, unopened, fun text => ?_⟩
    obtain ⟨rest, same⟩ := starts text
    exact ⟨rest ++ '[' :: ']' :: after.text, by rw [fill, same, List.append_assoc]; rfl⟩
  | wrapper name isWrapper inner after _ =>
    exact ⟨name.text, QualifiedName.not_mem_of_written name.written (by decide),
      fun text => ⟨_, List.append_assoc ..⟩⟩
  | generic name notWrapper earlier inner later after _ =>
    exact ⟨name.text, QualifiedName.not_mem_of_written name.written (by decide),
      fun text => ⟨_, List.append_assoc ..⟩⟩

theorem startsWithWrapperName_fill {context : TypeContext} (applied : context.isSuffixes = false)
    (left right : List Char) :
    startsWithWrapperName (context.fill left) = startsWithWrapperName (context.fill right) := by
  obtain ⟨front, unopened, starts⟩ := exists_front_of_fill applied
  obtain ⟨restLeft, sameLeft⟩ := starts left
  obtain ⟨restRight, sameRight⟩ := starts right
  rw [startsWithWrapperName, startsWithWrapperName, sameLeft, sameRight,
    beforeFirst_append unopened, beforeFirst_append unopened]

theorem wrapped?_plug {context : TypeContext} (applied : context.isSuffixes = false)
    {left right : TypeExpression} (same : left.meaning = right.meaning) :
    (context.plug left).wrapped? = (context.plug right).wrapped? := by
  induction context with
  | hole => cases applied
  | array inner after inductionHypothesis => exact inductionHypothesis applied
  | wrapper name isWrapper inner after _ => exact congrArg some (meaning_plug same inner)
  | generic => rfl

/-- Among type arguments only what stands in the hole means matters. -/
theorem resolveMember_fill_congr {context : TypeContext} (applied : context.isSuffixes = false)
    {left right : TypeExpression} (same : left.meaning = right.meaning)
    {leftText rightText : List Char} (writtenLeft : left.Written leftText)
    (writtenRight : right.Written rightText) (name : List Char) :
    resolveMember name (context.fill leftText) = resolveMember name (context.fill rightText) := by
  have around : context ≠ .hole := by
    rintro rfl
    cases applied
  rw [resolveMember_fill around writtenLeft, resolveMember_fill around writtenRight,
    meaning_plug same, wrapped?_plug applied same,
    startsWithWrapperName_fill applied leftText rightText]

/-! ### Array suffixes only -/

theorem exists_fill_eq_append {context : TypeContext} (suffixes : context.isSuffixes = true) :
    ∃ behind, ∀ text, context.fill text = text ++ behind := by
  induction context with
  | hole => exact ⟨[], fun text => (List.append_nil text).symm⟩
  | array inner after inductionHypothesis =>
    obtain ⟨behind, same⟩ := inductionHypothesis suffixes
    exact ⟨behind ++ '[' :: ']' :: after.text, fun text => by
      rw [fill, same, List.append_assoc]⟩
  | wrapper => cases suffixes
  | generic => cases suffixes

theorem wrapped?_plug_of_isSuffixes {context : TypeContext} (suffixes : context.isSuffixes = true)
    (type : TypeExpression) : (context.plug type).wrapped? = type.wrapped? := by
  induction context with
  | hole => rfl
  | array inner after inductionHypothesis => exact inductionHypothesis suffixes
  | wrapper => cases suffixes
  | generic => cases suffixes

theorem type_plug_of_isSuffixes {context : TypeContext} (suffixes : context.isSuffixes = true)
    (type : TypeExpression) : (context.plug type).meaning.type = type.meaning.type := by
  induction context with
  | hole => rfl
  | array inner after inductionHypothesis => exact inductionHypothesis suffixes
  | wrapper => cases suffixes
  | generic => cases suffixes

theorem meaning_plug_of_isSuffixed {context : TypeContext} (suffixed : context.isSuffixed = true)
    (type : TypeExpression) : (context.plug type).meaning = ⟨type.meaning.type, true⟩ := by
  cases context with
  | array inner after =>
    exact congrArg (Arrayed.mk · true) (type_plug_of_isSuffixes suffixed type)
  | hole => cases suffixed
  | wrapper => cases suffixed
  | generic => cases suffixed

end TypeContext

/-! ### The wrapper under its names -/

/-- What stands around the text of a type that is wrapped. -/
structure WrapperText where
  before : Spacing
  name : List Char
  known : name ∈ wrapperNames
  nameSpacing : Spacing
  after : Spacing

namespace WrapperText

/-- What stands in front of the angle bracket. -/
def front (wrapper : WrapperText) : List Char :=
  wrapper.before.text ++ wrapper.name ++ wrapper.nameSpacing.text

/-- The text with the wrapper around it. -/
def around (wrapper : WrapperText) (text : List Char) : List Char :=
  wrapper.front ++ '<' :: text ++ '>' :: wrapper.after.text

variable (wrapper : WrapperText)

theorem exists_written_front :
    ∃ name : QualifiedName, name.last.text = "Nullable".toList ∧ name.Written wrapper.front := by
  obtain ⟨before, name, known, nameSpacing, after⟩ := wrapper
  let last : TypeName := ⟨"Nullable".toList, by decide, by decide⟩
  let qualifier : TypeName := ⟨"System".toList, by decide, by decide⟩
  rcases List.mem_cons.mp known with rfl | others
  · exact ⟨⟨[], last⟩, rfl, .last before.blank nameSpacing.blank⟩
  · obtain rfl := List.mem_singleton.mp others
    refine ⟨⟨[qualifier], last⟩, rfl, ?_⟩
    have written : QualifiedName.Written ⟨[qualifier], last⟩
        (before.text ++ qualifier.text ++ [] ++ '.' :: ([] ++ last.text ++ nameSpacing.text)) :=
      .qualified before.blank blank_nil (.last blank_nil nameSpacing.blank)
    rw [List.append_nil, List.nil_append, List.append_assoc] at written
    rw [front, List.append_assoc]
    exact written

theorem startsWithWrapperName_around (text behind : List Char) :
    startsWithWrapperName (wrapper.around text ++ behind) = true := by
  obtain ⟨_, _, written⟩ := wrapper.exists_written_front
  have unopened := QualifiedName.not_mem_of_written written (c := '<') (by decide)
  have trimmed : ∀ name ∈ wrapperNames, trim name = name := by decide
  have split : wrapper.around text ++ behind =
      wrapper.front ++ '<' :: (text ++ '>' :: (wrapper.after.text ++ behind)) := by
    simp [around]
  rw [startsWithWrapperName, split, beforeFirst_append unopened, front,
    trim_append_blank wrapper.nameSpacing.blank, trim_blank_append wrapper.before.blank,
    trimmed _ wrapper.known]
  exact List.contains_iff_mem.mpr wrapper.known

/-- What the text with the wrapper around it is written for. -/
theorem exists_written_around {type : BareTypeExpression} {text : List Char}
    (written : type.Written text) :
    ∃ wrapped : BareTypeExpression, wrapped.Written (wrapper.around text) ∧
      wrapped.meaning = type.meaning ∧ wrapped.wrapped? = some type.meaning := by
  obtain ⟨name, isWrapper, writtenFront⟩ := wrapper.exists_written_front
  exact ⟨.wrapper name isWrapper (.bare type),
    .wrapper writtenFront (.bare written) wrapper.after.blank, rfl, rfl⟩

end WrapperText

/-! ### The two spellings -/

/-- Whether the wrapper stands around the type already, under one of its names, and what follows it
there does not change what is meant. -/
def BareTypeExpression.LosesSuffixes (type : BareTypeExpression) (text : List Char) : Prop :=
  ∃ inner, type.wrapped? = some inner ∧ inner.isArray = type.meaning.isArray ∧
    startsWithWrapperName text = true

variable {context : TypeContext} {type : BareTypeExpression} {text : List Char}

/-- Array suffixes behind the wrapper are lost, and the member becomes nullable. -/
theorem resolveMember_suffixed_wrapper (suffixed : context.isSuffixed = true)
    (written : type.Written text) (wrapper : WrapperText) (name : List Char) :
    resolveMember name (context.fill (wrapper.around text)) =
      ⟨name, type.meaning.type, type.meaning.isArray, true⟩ := by
  obtain ⟨around, suffixes⟩ := TypeContext.of_isSuffixed suffixed
  obtain ⟨wrapped, writtenAround, means, encloses⟩ := wrapper.exists_written_around written
  obtain ⟨behind, same⟩ := TypeContext.exists_fill_eq_append suffixes
  have named : startsWithWrapperName (context.fill (wrapper.around text)) = true := by
    rw [same, wrapper.startsWithWrapperName_around]
  have found : (context.plug (.bare wrapped)).wrapped? = some type.meaning :=
    (TypeContext.wrapped?_plug_of_isSuffixes suffixes _).trans encloses
  rw [TypeContext.resolveMember_fill around (.bare writtenAround), found, named]
  rfl

/-- Array suffixes behind a mark make an array of the type, unless the wrapper is found in front of
the mark. -/
theorem resolveMember_suffixed_mark (suffixed : context.isSuffixed = true)
    (written : type.Written text) (after : Spacing) (name : List Char) :
    resolveMember name (context.fill (text ++ '?' :: after.text)) =
      memberOf name ⟨type.meaning.type, true⟩ type.wrapped? (startsWithWrapperName text) := by
  obtain ⟨around, suffixes⟩ := TypeContext.of_isSuffixed suffixed
  obtain ⟨behind, same⟩ := TypeContext.exists_fill_eq_append suffixes
  have means : (context.plug (.nullable type)).meaning = ⟨type.meaning.type, true⟩ :=
    TypeContext.meaning_plug_of_isSuffixed suffixed _
  have encloses : (context.plug (.nullable type)).wrapped? = type.wrapped? :=
    TypeContext.wrapped?_plug_of_isSuffixes suffixes _
  rw [TypeContext.resolveMember_fill around (.nullable written after.blank), means, encloses]
  cases found : type.wrapped? with
  | none => rfl
  | some inner =>
    have opened : '<' ∈ text := (type.startsWrapped_of_written written found).opening_mem
    rw [same, List.append_assoc, startsWithWrapperName_append opened]

/-- Everywhere else the mark and the wrapper come to the same member. -/
theorem resolveMember_mark (free : context.isSuffixed = false) (written : type.Written text)
    (after : Spacing) (wrapper : WrapperText) (name : List Char) :
    resolveMember name (context.fill (text ++ '?' :: after.text)) =
      resolveMember name (context.fill (wrapper.around text)) := by
  obtain ⟨wrapped, writtenAround, means, encloses⟩ := wrapper.exists_written_around written
  rcases TypeContext.of_not_isSuffixed free with rfl | applied
  · have named : startsWithWrapperName (wrapper.around text) = true := by
      rw [← List.append_nil (wrapper.around text), wrapper.startsWithWrapperName_around]
    show resolveMember name (text ++ '?' :: after.text) = resolveMember name (wrapper.around text)
    rw [resolveMember_nullable written after.blank, resolveMember_bare writtenAround, encloses,
      named]
    rfl
  · have same : (TypeExpression.nullable type).meaning = (TypeExpression.bare wrapped).meaning :=
      means.symm
    exact TypeContext.resolveMember_fill_congr applied same (.nullable written after.blank)
      (.bare writtenAround) name

/-- Behind array suffixes the mark comes to the member that the wrapper comes to if it is preceded
by the wrapper itself. -/
theorem memberOf_suffixed_eq_iff (type : BareTypeExpression) (name text : List Char) :
    memberOf name ⟨type.meaning.type, true⟩ type.wrapped? (startsWithWrapperName text) =
        ⟨name, type.meaning.type, type.meaning.isArray, true⟩ ↔ type.LosesSuffixes text := by
  unfold BareTypeExpression.LosesSuffixes
  cases found : type.wrapped? with
  | none => simp [memberOf]
  | some inner =>
    rw [type.type_of_wrapped? found]
    cases startsWithWrapperName text <;> simp [memberOf]

/-- The two spellings of the wrapper always come to the same member. The mark comes to the same
member as well, but for array suffixes right behind: there the wrapper loses them and makes the
member nullable, while the mark makes an array that is not nullable. -/
theorem nullable_spellings_agree_iff (context : TypeContext) (written : type.Written text)
    (after : Spacing) (wrapper other : WrapperText) (name : List Char) :
    resolveMember name (context.fill (wrapper.around text)) =
        resolveMember name (context.fill (other.around text)) ∧
      (resolveMember name (context.fill (text ++ '?' :: after.text)) =
          resolveMember name (context.fill (wrapper.around text)) ↔
        (context.isSuffixed = true → type.LosesSuffixes text)) ∧
      (context.isSuffixed = true →
        resolveMember name (context.fill (wrapper.around text)) =
            ⟨name, type.meaning.type, type.meaning.isArray, true⟩ ∧
          (type.isWrapped = false →
            resolveMember name (context.fill (text ++ '?' :: after.text)) =
              ⟨name, type.meaning.type, true, false⟩)) := by
  cases suffixed : context.isSuffixed with
  | false =>
    have same := resolveMember_mark suffixed written after
    refine ⟨(same wrapper name).symm.trans (same other name), ?_, fun impossible => ?_⟩
    · exact ⟨fun _ impossible => absurd impossible Bool.false_ne_true, fun _ => same wrapper name⟩
    · exact absurd impossible Bool.false_ne_true
  | true =>
    -- The wrapper stands in front of the first angle bracket, and hides the suffixes behind it.
    have lost := resolveMember_suffixed_wrapper suffixed written
    have kept := resolveMember_suffixed_mark suffixed written after name
    refine ⟨(lost wrapper name).trans (lost other name).symm, ?_, fun _ => ⟨lost wrapper name,
      fun free => ?_⟩⟩
    · rw [kept, lost, memberOf_suffixed_eq_iff]
      exact ⟨fun loses _ => loses, fun loses => loses rfl⟩
    · rw [type.isWrapped_eq, Option.isSome_eq_false_iff, Option.isNone_iff_eq_none] at free
      rw [kept, free]
      rfl

/-- A list of arrays of numbers, with blanks around the mark and with a qualified wrapper. -/
theorem nullable_spellings_agree_for_numbers :
    resolveMember "Scores".toList "List<int ? []>".toList =
      resolveMember "Scores".toList "List< System.Nullable <int >[]>".toList := by
  let int : NameText := ⟨⟨[], ⟨"int".toList, by decide, by decide⟩⟩, "int ".toList,
    .last blank_nil (by decide : Blank [' '])⟩
  let list : NameText := ⟨⟨[], ⟨"List".toList, by decide, by decide⟩⟩, "List".toList,
    .last blank_nil blank_nil⟩
  let close : Spacing := ⟨[], blank_nil⟩
  let wide : Spacing := ⟨[' '], by decide⟩
  let context : TypeContext := .generic list (by decide) [] (.array .hole close) [] close
  let plain : WrapperText := ⟨close, "Nullable".toList, by decide, close, close⟩
  let qualified : WrapperText := ⟨wide, "System.Nullable".toList, by decide, wide, close⟩
  obtain ⟨wrappers, mark, -⟩ := nullable_spellings_agree_iff context
    (BareTypeExpression.Written.name int.written) wide plain qualified "Scores".toList
  have noSuffix : context.isSuffixed ≠ true := by decide
  exact (mark.mpr fun suffixed => absurd suffixed noSuffix).trans wrappers

/-- Behind the mark the suffix makes an array, behind the wrapper it is lost and the member becomes
nullable. -/
theorem nullable_spellings_differ_in_arrays :
    resolveMember "Scores".toList "int?[]".toList =
        ⟨"Scores".toList, .primitive .number, true, false⟩ ∧
      resolveMember "Scores".toList "Nullable<int>[]".toList =
        ⟨"Scores".toList, .primitive .number, false, true⟩ ∧
      resolveMember "Scores".toList "int?[]".toList ≠
        resolveMember "Scores".toList "Nullable<int>[]".toList := by
  let int : TypeName := ⟨"int".toList, by decide, by decide⟩
  let close : Spacing := ⟨[], blank_nil⟩
  let plain : WrapperText := ⟨close, "Nullable".toList, by decide, close, close⟩
  let context : TypeContext := .array .hole close
  have written : BareTypeExpression.Written (.name ⟨[], int⟩) "int".toList :=
    .name (.last blank_nil blank_nil)
  have suffixed : context.isSuffixed = true := rfl
  have mark := resolveMember_suffixed_mark suffixed written close "Scores".toList
  have wrapper := resolveMember_suffixed_wrapper suffixed written plain "Scores".toList
  refine ⟨mark, wrapper, fun same => ?_⟩
  have arrays := congrArg Member.isArray (mark.symm.trans (same.trans wrapper))
  exact absurd arrays (by decide)

end SharpTypes.Source

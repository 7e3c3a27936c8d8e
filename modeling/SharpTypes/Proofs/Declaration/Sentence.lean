/-
The grammar of written types. A type is a name, a name applied to arguments, or a record; an
argument, the value of a record and a property may be arrays; and a property may be absent. The
written form of a type is a sentence if all names that the type refers to are words of letters,
digits and underscores. In a sentence each closing square bracket stands right behind an opening
one, so the written form is none if a name that the type refers to has a loose closing bracket.
-/

import Mathlib.Tactic.Common
import SharpTypes.Proofs.Declaration.NamePlace

namespace SharpTypes

open Text

/-! ### Grammar -/

/-- A name is a word of letters, digits and underscores. -/
def IsName (text : List Char) : Prop :=
  text ≠ [] ∧ ∀ c ∈ text, isIdentifierCharacter c = true

/-- What a sentence is written for. -/
inductive Category where
  /-- A type that is no array. -/
  | single
  /-- A type or an array of it. -/
  | type
  /-- What a property holds. -/
  | member

/-- The sentences of the grammar of written types, by what they are written for. -/
inductive Sentence : Category → List Char → Prop where
  | name {name : List Char} (isName : IsName name) : Sentence .single name
  | applied {name : List Char} {arguments : List (List Char)} (isName : IsName name)
      (notEmpty : arguments ≠ []) (each : ∀ argument ∈ arguments, Sentence .type argument) :
      Sentence .single (name ++ '<' :: join ", ".toList arguments ++ ['>'])
  | record (key : MapKey) {value : List Char} (isValue : Sentence .type value) :
      Sentence .single ("Record<".toList ++ key.render ++ ", ".toList ++ value ++ ['>'])
  | type {text : List Char} (isType : Sentence .single text) : Sentence .type text
  | array {text : List Char} (isType : Sentence .single text) :
      Sentence .type (text ++ "[]".toList)
  | present {text : List Char} (isType : Sentence .type text) : Sentence .member text
  | nullable {text : List Char} (isType : Sentence .type text) :
      Sentence .member (text ++ " | null".toList)

/-! ### Brackets in sentences -/

/-- Each closing square bracket stands right behind an opening one. -/
def Paired (text : List Char) : Prop :=
  ∀ front behind, text = front ++ ']' :: behind → front.getLast? = some '['

theorem paired_of_not_mem {text : List Char} (absent : ']' ∉ text) : Paired text := by
  rintro front behind rfl
  exact absurd (List.mem_append_right _ List.mem_cons_self) absent

theorem paired_brackets : Paired "[]".toList := by
  intro front behind same
  rcases front with _ | ⟨first, _ | ⟨second, front⟩⟩
  · exact absurd (List.cons.inj same).1 (by decide)
  · exact congrArg some (List.cons.inj same).1.symm
  · simp at same

theorem Paired.append {left right : List Char} (pairedLeft : Paired left)
    (pairedRight : Paired right) : Paired (left ++ right) := by
  intro front behind same
  rcases List.append_eq_append_iff.mp same with ⟨others, rfl, rest⟩ | ⟨others, rfl, rest⟩
  · have last := pairedRight others behind rest
    rw [List.getLast?_append, last]
    rfl
  · cases others with
    | nil =>
      have last := pairedRight [] behind rest.symm
      cases last
    | cons c others =>
      obtain ⟨rfl, rfl⟩ := List.cons.inj rest
      exact pairedLeft front others rfl

theorem Paired.of_append_left {left right : List Char} (paired : Paired (left ++ right)) :
    Paired left := by
  rintro front behind rfl
  exact paired front (behind ++ right) (List.append_assoc ..)

theorem Paired.of_append_right {left right : List Char} (paired : Paired (left ++ right))
    (notOpened : left.getLast? ≠ some '[') : Paired right := by
  rintro front behind rfl
  have last := paired (left ++ front) behind (List.append_assoc ..).symm
  rw [List.getLast?_append] at last
  cases found : front.getLast? with
  | none =>
    rw [found] at last
    exact absurd last notOpened
  | some c =>
    rw [found] at last
    exact last

theorem IsName.not_mem {name : List Char} (isName : IsName name) {c : Char}
    (other : isIdentifierCharacter c = false) : c ∉ name := by
  intro member
  rw [isName.2 c member] at other
  cases other

theorem paired_of_isName {name : List Char} (isName : IsName name) : Paired name :=
  paired_of_not_mem (isName.not_mem (by decide))

/-- Sentences have no closing bracket of their own. -/
theorem Sentence.paired {category : Category} {text : List Char}
    (sentence : Sentence category text) : Paired text := by
  induction sentence with
  | name isName => exact paired_of_isName isName
  | applied isName _ _ inductionHypothesis =>
    have opening : Paired ['<'] := paired_of_not_mem (by decide)
    have comma : Paired ", ".toList := paired_of_not_mem (by decide)
    have list := join_of_append (paired_of_not_mem List.not_mem_nil) .append comma
      inductionHypothesis
    exact ((paired_of_isName isName).append (opening.append list)).append
      (paired_of_not_mem (by decide))
  | record key _ inductionHypothesis =>
    have front : Paired ("Record<".toList ++ key.render ++ ", ".toList) :=
      paired_of_not_mem (by cases key <;> decide)
    exact (front.append inductionHypothesis).append (paired_of_not_mem (by decide))
  | type _ inductionHypothesis => exact inductionHypothesis
  | array _ inductionHypothesis => exact inductionHypothesis.append paired_brackets
  | present _ inductionHypothesis => exact inductionHypothesis
  | nullable _ inductionHypothesis =>
    exact inductionHypothesis.append (paired_of_not_mem (by decide))

namespace TargetType

/-! ### Types with names only -/

/-- All names that the type refers to are words. -/
def RefersToNames (type : TargetType) : Prop :=
  ∀ name, type.Mentions name → IsName name

mutual

theorem sentence_render : (type : TargetType) → type.RefersToNames → Sentence .single type.render
  | .primitive kind, _ => by
    refine .name ⟨?_, ?_⟩ <;> cases kind <;> decide
  | .reference name arguments, named => by
    have isName : IsName name := named name (.here arguments)
    have each := sentence_renderAll arguments fun argument isArgument other mentions =>
      named other (.argument name isArgument mentions)
    by_cases noArguments : arguments = []
    · subst noArguments
      exact .name isName
    · rw [render_reference name noArguments]
      refine .applied isName (mt List.map_eq_nil_iff.mp noArguments) fun text isText => ?_
      obtain ⟨argument, isArgument, rfl⟩ := List.mem_map.mp isText
      exact each argument isArgument
  | .record key value, named =>
    .record key (sentence_renderArrayed value fun name mentions => named name (.value key mentions))

theorem sentence_renderArrayed :
    (resolved : Resolved) → resolved.type.RefersToNames → Sentence .type (renderArrayed resolved)
  | ⟨type, false⟩, named => .type (sentence_render type named)
  | ⟨type, true⟩, named => .array (sentence_render type named)

theorem sentence_renderAll : (arguments : List Resolved) →
    (∀ argument ∈ arguments, argument.type.RefersToNames) →
      ∀ argument ∈ arguments, Sentence .type (renderArrayed argument)
  | [], _ => List.forall_mem_nil _
  | first :: rest, named =>
    List.forall_mem_cons.mpr ⟨sentence_renderArrayed first (named first List.mem_cons_self),
      sentence_renderAll rest fun argument isArgument =>
        named argument (List.mem_cons_of_mem _ isArgument)⟩

end

/-! ### Types with loose brackets -/

/-- A name that the type refers to has a closing bracket of its own. -/
def RefersLoosely (type : TargetType) : Prop :=
  ∃ name, type.Mentions name ∧ ¬ Paired name

theorem paired_of_paired_renderArrayed {resolved : Resolved}
    (paired : Paired (renderArrayed resolved)) : Paired resolved.type.render := by
  obtain ⟨type, isArray⟩ := resolved
  cases isArray with
  | false => exact paired
  | true => exact paired.of_append_left

theorem paired_of_paired_join {pieces : List (List Char)} {piece : List Char}
    (paired : Paired (join ", ".toList pieces)) (member : piece ∈ pieces) : Paired piece := by
  induction pieces with
  | nil => cases member
  | cons first rest inductionHypothesis =>
    cases rest with
    | nil =>
      obtain rfl := List.mem_singleton.mp member
      rwa [join_singleton] at paired
    | cons second others =>
      rw [join_cons_cons] at paired
      rcases List.mem_cons.mp member with rfl | later
      · exact paired.of_append_left.of_append_left
      · refine inductionHypothesis (paired.of_append_right ?_) later
        rw [List.getLast?_append_of_ne_nil _ (by decide)]
        decide

/-- Where the brackets of the written form are paired, those of all names in it are. -/
theorem paired_of_mentions {name : List Char} {type : TargetType} (mentions : type.Mentions name)
    (paired : Paired type.render) : Paired name := by
  induction mentions with
  | here arguments =>
    by_cases noArguments : arguments = []
    · subst noArguments
      exact paired
    · rw [render_reference name noArguments, List.append_assoc] at paired
      exact paired.of_append_left
  | @argument other arguments argument isArgument _ inductionHypothesis =>
    have split : (reference other arguments).render =
        other ++ ['<'] ++ join ", ".toList (arguments.map renderArrayed) ++ ['>'] := by
      rw [render_reference other (List.ne_nil_of_mem isArgument)]
      simp
    rw [split] at paired
    have list := paired.of_append_left.of_append_right (by rw [List.getLast?_concat]; decide)
    exact inductionHypothesis (paired_of_paired_renderArrayed
      (paired_of_paired_join list (List.mem_map_of_mem isArgument)))
  | @value key value _ inductionHypothesis =>
    have split : (record key value).render =
        "Record<".toList ++ key.render ++ ", ".toList ++ renderArrayed value ++ ['>'] := rfl
    rw [split] at paired
    refine inductionHypothesis (paired_of_paired_renderArrayed ?_)
    refine paired.of_append_left.of_append_right ?_
    cases key <;> decide

theorem not_sentence_of_refersLoosely {type : TargetType} (loose : type.RefersLoosely)
    {category : Category} (behind : List Char) : ¬ Sentence category (type.render ++ behind) := by
  obtain ⟨name, mentions, notPaired⟩ := loose
  intro sentence
  exact notPaired (paired_of_mentions mentions sentence.paired.of_append_left)

/-- The type refers to names only, or else to a name with a closing bracket of its own. -/
def IsJudged : Bool → TargetType → Prop
  | true, type => type.RefersToNames
  | false, type => type.RefersLoosely

end TargetType

/-! ### Properties -/

namespace Member

variable {member : Member}

theorem sentence_renderType (named : member.type.RefersToNames) :
    Sentence .member member.renderType := by
  have single := TargetType.sentence_render member.type named
  have type : Sentence .type
      (member.type.render ++ if member.marksArray then "[]".toList else []) := by
    cases member.marksArray with
    | true => exact .array single
    | false =>
      rw [if_neg Bool.false_ne_true, List.append_nil]
      exact .type single
  rw [renderType]
  cases member.isNullable with
  | true => exact .nullable type
  | false =>
    rw [if_neg Bool.false_ne_true, List.append_nil]
    exact .present type

/-- The written type of a property is a sentence exactly if its type refers to names only. -/
theorem sentence_renderType_iff {sound : Bool} (judged : member.type.IsJudged sound) :
    Sentence .member member.renderType ↔ sound = true := by
  cases sound with
  | true => exact iff_of_true (sentence_renderType judged) rfl
  | false =>
    refine iff_of_false (fun sentence => ?_) Bool.false_ne_true
    rw [renderType, List.append_assoc] at sentence
    exact TargetType.not_sentence_of_refersLoosely judged _ sentence

end Member

end SharpTypes

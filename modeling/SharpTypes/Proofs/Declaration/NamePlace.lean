/-
Where names stand in the written form of a declaration. The type of every property, the base type
and its arguments stand there on their own, as they are written, and so does each name that the type
of a property refers to.
-/

import Mathlib.Tactic.Common
import SharpTypes.Declaration.Printer
import SharpTypes.Proofs.Output.ImportBlock
import SharpTypes.Proofs.Text.Standing

namespace SharpTypes

open Text

/-! ### Types -/

namespace TargetType

theorem renderFurther_eq (first : List Char) (rest : List Resolved) :
    first ++ renderFurther rest = join ", ".toList (first :: rest.map renderArrayed) := by
  induction rest generalizing first with
  | nil => rw [renderFurther, List.append_nil, List.map_nil, join_singleton]
  | cons second others inductionHypothesis =>
    rw [renderFurther, List.map_cons, join_cons_cons, ← inductionHypothesis]
    simp only [List.append_assoc]

/-- The arguments of a reference are written as a list. -/
theorem render_reference (name : List Char) {arguments : List Resolved}
    (notEmpty : arguments ≠ []) :
    (reference name arguments).render =
      name ++ '<' :: join ", ".toList (arguments.map renderArrayed) ++ ['>'] := by
  obtain ⟨first, rest, rfl⟩ := List.exists_cons_of_ne_nil notEmpty
  rw [List.map_cons, ← renderFurther_eq]
  show name ++ '<' :: renderArrayed first ++ renderFurther rest ++ ['>'] = _
  simp only [List.append_assoc, List.cons_append]

theorem standsIn_renderArrayed (resolved : Resolved) :
    StandsIn resolved.type.render (renderArrayed resolved) := by
  obtain ⟨type, isArray⟩ := resolved
  cases isArray with
  | false => exact .refl _
  | true => exact ⟨[], "[]".toList, rfl, .of_blank blank_nil, by decide⟩

theorem standsIn_join_arguments {pieces : List (List Char)} {piece : List Char}
    (member : piece ∈ pieces) : StandsIn piece (join ", ".toList pieces) :=
  standsIn_join (by decide) (by decide) (by decide) member

/-- A name that a type refers to stands in its written form on its own. -/
theorem standsIn_render_of_mentions {name : List Char} {type : TargetType}
    (mentions : type.Mentions name) : StandsIn name type.render := by
  induction mentions with
  | here arguments =>
    by_cases noArguments : arguments = []
    · subst noArguments
      exact .refl name
    · rw [render_reference name noArguments, List.append_assoc]
      refine ⟨[], _, rfl, .of_blank blank_nil, ?_⟩
      exact .of_mark (by decide) _
  | @argument other arguments argument isArgument _ inductionHypothesis =>
    have written : renderArrayed argument ∈ arguments.map renderArrayed :=
      List.mem_map_of_mem isArgument
    refine inductionHypothesis.trans ((standsIn_renderArrayed argument).trans
      ((standsIn_join_arguments written).trans ?_))
    rw [render_reference other (List.ne_nil_of_mem isArgument)]
    refine ⟨other ++ ['<'], ['>'], by simp, ?_, by decide⟩
    rw [List.reverse_append]
    exact .of_mark (by decide) _
  | @value key value _ inductionHypothesis =>
    refine inductionHypothesis.trans ((standsIn_renderArrayed value).trans ?_)
    refine ⟨"Record<".toList ++ key.render ++ ", ".toList, ['>'], rfl, ?_, by decide⟩
    cases key <;> decide

end TargetType

/-! ### Properties -/

theorem Member.standsWithin_render (naming : NamingConvention) (member : Member) :
    StandsWithin member.type.render (member.render naming) := by
  refine ⟨"  ".toList ++ propertyKey (naming.apply member.name) ++ ": ".toList,
    (if member.marksArray then "[]".toList else []) ++
      ((if member.isNullable then " | null".toList else []) ++ [';']), ?_, ⟨?_, ?_⟩, ?_, ?_⟩
  · rw [Member.render, Member.renderType]
    simp only [List.append_assoc]
  · rw [List.reverse_append]
    exact LeavesAlone.append_of_inked (by decide) (by decide) _
  · exact Inked.append_right _ (by decide)
  · cases member.marksArray <;> cases member.isNullable <;> decide
  · exact Inked.append_right _ (Inked.append_right _ (by decide))

/-! ### Declarations -/

namespace ClassShape

variable {shape : ClassShape} {base : List Char}

/-- The first line of an interface up to the brace. -/
def firstLine (shape : ClassShape) (name : List Char) : List Char :=
  shape.renderHeader name ++ " \x7b".toList

theorem firstLine_of_base (isBase : shape.base = some base) (name : List Char) :
    shape.firstLine name =
      "export interface ".toList ++ name ++ renderParameters shape.parameters ++
        " extends ".toList ++ base ++ (renderParameters shape.baseArguments ++ " \x7b".toList) := by
  unfold firstLine renderHeader
  rw [isBase]
  simp only [List.append_assoc]

/-- The base type is what follows `extends`. -/
theorem exists_extends (isBase : shape.base = some base) (name : List Char) :
    ∃ front back, shape.firstLine name = front ++ " extends ".toList ++ base ++ back ∧
      LeavesAlone back ∧ Inked back := by
  refine ⟨_, _, firstLine_of_base isBase name, ?_, Inked.append_right _ (by decide)⟩
  unfold renderParameters
  split
  · decide
  · rw [List.append_assoc, List.append_assoc]
    exact .of_mark (by decide) _

theorem standsWithin_base (isBase : shape.base = some base) (name : List Char) :
    StandsWithin base (shape.firstLine name) := by
  obtain ⟨front, back, same, aloneBack, inkedBack⟩ := exists_extends isBase name
  refine ⟨front ++ " extends ".toList, back, same, ⟨?_, ?_⟩, aloneBack, inkedBack⟩
  · rw [List.reverse_append]
    exact LeavesAlone.append_of_inked (by decide) (by decide) _
  · exact Inked.append_right _ (by decide)

theorem standsWithin_baseArguments (isBase : shape.base = some base)
    (notEmpty : shape.baseArguments ≠ []) (name : List Char) :
    StandsWithin (join ", ".toList shape.baseArguments) (shape.firstLine name) := by
  have filled : shape.baseArguments.isEmpty = false := by simpa using notEmpty
  refine ⟨"export interface ".toList ++ name ++ renderParameters shape.parameters ++
    " extends ".toList ++ base ++ ['<'], "> \x7b".toList, ?_, ⟨?_, ?_⟩, by decide, by decide⟩
  · rw [firstLine_of_base isBase]
    unfold renderParameters
    rw [filled]
    simp
  · rw [List.reverse_append]
    exact .of_mark (by decide) _
  · exact Inked.append_right _ (by decide)

end ClassShape

namespace Declaration

variable {declaration : Declaration} {shape : ClassShape}

theorem isInfix_firstLine (naming : NamingConvention) (isClass : declaration.body = .object shape) :
    shape.firstLine declaration.name <:+: declaration.render naming := by
  have isPrefix (separator : List Char) (lines : List (List Char)) :
      shape.firstLine declaration.name <+:
        renderBlock (shape.renderHeader declaration.name) separator lines := by
    unfold renderBlock
    split
    · exact ⟨"\x7d".toList, List.append_assoc _ _ _⟩
    · exact ⟨'\n' :: (join separator lines ++ "\n\x7d".toList), by simp [ClassShape.firstLine]⟩
  unfold render
  rw [isClass]
  exact (isPrefix _ _).isInfix

/-- What follows `extends` is the base type, as it is kept. -/
theorem exists_extends (naming : NamingConvention) (isClass : declaration.body = .object shape)
    {base : List Char} (isBase : shape.base = some base) :
    ∃ front back, declaration.render naming = front ++ " extends ".toList ++ base ++ back ∧
      LeavesAlone back := by
  obtain ⟨before, after, whole⟩ := isInfix_firstLine naming isClass
  obtain ⟨front, back, same, aloneBack, inkedBack⟩ :=
    ClassShape.exists_extends isBase declaration.name
  refine ⟨before ++ front, back ++ after, ?_, aloneBack.append_of_inked inkedBack after⟩
  rw [← whole, same]
  simp only [List.append_assoc]

theorem isInfix_member (naming : NamingConvention) (isClass : declaration.body = .object shape)
    {member : Member} (isMember : member ∈ shape.members) :
    member.render naming <:+: declaration.render naming := by
  have isLine : member.render naming ∈ shape.members.map (Member.render naming) :=
    List.mem_map_of_mem isMember
  refine (isInfix_join_of_mem ['\n'] isLine).trans ?_
  unfold render
  rw [isClass]
  dsimp only
  rw [renderBlock, if_neg]
  · exact (List.suffix_append _ _).isInfix.trans (List.prefix_append _ _).isInfix
  · rw [List.isEmpty_iff]
    exact List.ne_nil_of_mem isLine

/-- What the type of a property refers to stands in the declaration on its own. -/
theorem standsIn_of_mentions (naming : NamingConvention)
    (isClass : declaration.body = .object shape) {member : Member}
    (isMember : member ∈ shape.members) {name : List Char}
    (mentions : member.type.Mentions name) : StandsIn name (declaration.render naming) :=
  (TargetType.standsIn_render_of_mentions mentions).trans
    ((member.standsWithin_render naming).standsIn_of_part (isInfix_member naming isClass isMember))

/-- The base type and its arguments stand in the declaration on their own. -/
theorem standsIn_of_mem_baseTexts (naming : NamingConvention)
    (isClass : declaration.body = .object shape)
    (bound : shape.base = none → shape.baseArguments = []) {text : List Char}
    (isText : text ∈ shape.baseTexts) : StandsIn text (declaration.render naming) := by
  have isPart := isInfix_firstLine naming isClass
  cases isBase : shape.base with
  | none =>
    rw [ClassShape.baseTexts, isBase, bound isBase] at isText
    cases isText
  | some base =>
    rw [ClassShape.baseTexts, isBase] at isText
    rcases List.mem_cons.mp isText with rfl | isArgument
    · exact (ClassShape.standsWithin_base isBase _).standsIn_of_part isPart
    · exact (TargetType.standsIn_join_arguments isArgument).trans
        ((ClassShape.standsWithin_baseArguments isBase (List.ne_nil_of_mem isArgument)
          _).standsIn_of_part isPart)

end Declaration

end SharpTypes

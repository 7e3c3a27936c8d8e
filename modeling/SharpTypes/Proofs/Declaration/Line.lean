/-
The lines of a written declaration. If nothing that a declaration is written from goes over a line
end, an enumeration takes one line for each of its values and a class one for each of its
properties, in order, between a first and a last line; an empty block takes no line of its own.
-/

import Mathlib.Tactic.Common
import SharpTypes.Declaration.Printer
import SharpTypes.Proofs.Naming
import SharpTypes.Proofs.Text.Paragraph

namespace SharpTypes

open Text

/-! ### Names and types -/

theorem Text.caseless_newline : Caseless '\n' := by
  refine ⟨by decide, by decide, fun c => ⟨?_, ?_⟩⟩
  · exact eq_of_mem_recase (by decide) (by decide +kernel)
  · exact eq_of_mem_recase (by decide) (by decide +kernel)

/-- A line end separates words, so no convention keeps it. -/
theorem NamingConvention.newline_not_mem_apply (convention : NamingConvention) (name : List Char) :
    '\n' ∉ convention.apply name := by
  intro member
  have inWord := (mem_of_mem_apply caseless_newline (by decide) (by decide) member).2
  revert inWord
  decide

namespace TargetType

mutual

theorem newline_not_mem_render :
    (type : TargetType) → (∀ name ∈ type.references, '\n' ∉ name) → '\n' ∉ type.render
  | .primitive kind, _ => by cases kind <;> decide
  | .reference name [], single => single name List.mem_cons_self
  | .reference name (⟨type, mark⟩ :: rest), single => by
    have inFirst := newline_not_mem_renderArrayed ⟨type, mark⟩ fun other member =>
      single other (List.mem_cons_of_mem _ (List.mem_append_left _ member))
    have inRest := newline_not_mem_renderFurther rest fun other member =>
      single other (List.mem_cons_of_mem _ (List.mem_append_right _ member))
    have inName : '\n' ∉ name := single name List.mem_cons_self
    show '\n' ∉ name ++ '<' :: renderArrayed ⟨type, mark⟩ ++ renderFurther rest ++ ['>']
    simp [inName, inFirst, inRest]
  | .record key ⟨type, mark⟩, single => by
    have inValue := newline_not_mem_renderArrayed ⟨type, mark⟩ single
    show '\n' ∉ "Record<".toList ++ key.render ++ ", ".toList ++ renderArrayed ⟨type, mark⟩ ++ ['>']
    have inKey : '\n' ∉ "Record<".toList ++ key.render ++ ", ".toList := by cases key <;> decide
    exact List.not_mem_append (List.not_mem_append inKey inValue) (by decide)

theorem newline_not_mem_renderArrayed :
    (resolved : Resolved) → (∀ name ∈ referencesOf resolved, '\n' ∉ name) →
      '\n' ∉ renderArrayed resolved
  | ⟨type, false⟩, single => newline_not_mem_render type single
  | ⟨type, true⟩, single => by
    have inType := newline_not_mem_render type single
    simp [renderArrayed, inType]

theorem newline_not_mem_renderFurther :
    (rest : List Resolved) → (∀ name ∈ referencesOfAll rest, '\n' ∉ name) →
      '\n' ∉ renderFurther rest
  | [], _ => List.not_mem_nil
  | argument :: rest, single => by
    rw [referencesOfAll, List.forall_mem_append] at single
    obtain ⟨singleFirst, singleRest⟩ := single
    have inFirst := newline_not_mem_renderArrayed argument singleFirst
    have inRest := newline_not_mem_renderFurther rest singleRest
    show '\n' ∉ ", ".toList ++ renderArrayed argument ++ renderFurther rest
    exact List.not_mem_append (List.not_mem_append (by decide) inFirst) inRest

end

end TargetType

/-! ### Lines -/

/-- The lines, with a comma behind each but the last. -/
def withCommas : List (List Char) → List (List Char)
  | [] => []
  | [last] => [last]
  | first :: second :: rest => (first ++ [',']) :: withCommas (second :: rest)

/-- The lines of a header with its block. -/
def blockLines (header : List Char) (lines : List (List Char)) : List (List Char) :=
  if lines = [] then [header ++ " \x7b\x7d".toList]
  else (header ++ " \x7b".toList) :: (lines ++ [['\x7d']])

namespace Declaration

/-- The lines that a declaration is written in. -/
def lines (naming : NamingConvention) (declaration : Declaration) : List (List Char) :=
  match declaration.body with
  | .enumeration values =>
    blockLines ("export enum ".toList ++ declaration.name) (withCommas (values.map renderValue))
  | .object shape =>
    blockLines (shape.renderHeader declaration.name) (shape.members.map (Member.render naming))

/-- The texts that a declaration is written from as they are: its name and its values, or its
parameters, base types and what the types of its properties refer to. The names of properties are
converted first. -/
def texts (declaration : Declaration) : List (List Char) :=
  declaration.name ::
    match declaration.body with
    | .enumeration values => values
    | .object shape => shape.parameters ++ (shape.base.toList ++ (shape.baseArguments ++
        shape.members.flatMap fun member => member.type.references))

/-- No text that the declaration is written from goes over a line end. -/
def IsUnbroken (declaration : Declaration) : Prop :=
  ∀ text ∈ declaration.texts, '\n' ∉ text

instance : DecidablePred IsUnbroken := fun declaration =>
  inferInstanceAs (Decidable (∀ text ∈ declaration.texts, '\n' ∉ text))

end Declaration

theorem withCommas_eq_nil {lines : List (List Char)} : withCommas lines = [] ↔ lines = [] := by
  match lines with
  | [] => exact Iff.rfl
  | [_] => exact ⟨nofun, nofun⟩
  | _ :: _ :: _ => exact ⟨nofun, nofun⟩

theorem join_comma (lines : List (List Char)) :
    join ",\n".toList lines = join ['\n'] (withCommas lines) := by
  induction lines with
  | nil => rfl
  | cons first rest inductionHypothesis =>
    cases rest with
    | nil => rfl
    | cons second others =>
      have notEmpty : withCommas (second :: others) ≠ [] :=
        mt withCommas_eq_nil.mp (List.cons_ne_nil _ _)
      obtain ⟨next, further, same⟩ := List.exists_cons_of_ne_nil notEmpty
      rw [join_cons_cons, inductionHypothesis, withCommas, same, join_cons_cons]
      simp

theorem forall_mem_withCommas {property : List Char → Prop} {lines : List (List Char)}
    (each : ∀ line ∈ lines, property line)
    (more : ∀ line, property line → property (line ++ [','])) :
    ∀ line ∈ withCommas lines, property line := by
  induction lines with
  | nil => exact nofun
  | cons first rest inductionHypothesis =>
    obtain ⟨isFirst, isRest⟩ := List.forall_mem_cons.mp each
    cases rest with
    | nil => exact each
    | cons second others =>
      exact List.forall_mem_cons.mpr ⟨more first isFirst, inductionHypothesis isRest⟩

/-- A header with its block is written line by line. -/
theorem renderBlock_eq (header : List Char) {separator : List Char}
    {lines lines' : List (List Char)}
    (joined : join separator lines = join ['\n'] lines') (empty : lines = [] ↔ lines' = []) :
    renderBlock header separator lines = join ['\n'] (blockLines header lines') := by
  unfold renderBlock blockLines
  by_cases noLines : lines' = []
  · rw [if_pos noLines, if_pos (List.isEmpty_iff.mpr (empty.mpr noLines)), join_singleton]
  · have filled : ¬ lines.isEmpty = true := by simpa [empty] using noLines
    have whole : join ['\n'] ([header ++ " \x7b".toList] ++ (lines' ++ [['\x7d']])) =
        header ++ " \x7b".toList ++ ['\n'] ++ (join ['\n'] lines' ++ ['\n'] ++ ['\x7d']) := by
      rw [join_append ['\n'] (List.cons_ne_nil _ _) (by simp), join_singleton,
        join_append ['\n'] noLines (List.cons_ne_nil _ _), join_singleton]
    rw [if_neg noLines, if_neg filled, joined]
    refine Eq.trans ?_ whole.symm
    simp

theorem blockLines_ne_nil (header : List Char) (lines : List (List Char)) :
    blockLines header lines ≠ [] := by
  unfold blockLines
  split <;> exact List.cons_ne_nil _ _

/-- Where the header and what is in the block go over no line end, no line of the block does, and
none is empty. -/
theorem forall_mem_blockLines {header : List Char} {lines : List (List Char)}
    (inHeader : '\n' ∉ header) (inLines : ∀ line ∈ lines, '\n' ∉ line ∧ line ≠ []) :
    ∀ line ∈ blockLines header lines, '\n' ∉ line ∧ line ≠ [] := by
  have behind {brace : List Char} (single : '\n' ∉ brace) (notEmpty : brace ≠ []) :
      '\n' ∉ header ++ brace ∧ header ++ brace ≠ [] :=
    ⟨by simp [inHeader, single], by simp [notEmpty]⟩
  unfold blockLines
  split
  · rintro line isOnly
    rw [List.mem_singleton.mp isOnly]
    exact behind (by decide) (by decide)
  · refine List.forall_mem_cons.mpr ⟨behind (by decide) (by decide), ?_⟩
    exact List.forall_mem_append.mpr ⟨inLines, List.forall_mem_singleton.mpr (by decide)⟩

theorem newline_not_mem_join {separator : List Char} {pieces : List (List Char)}
    (inSeparator : '\n' ∉ separator) (inPieces : ∀ piece ∈ pieces, '\n' ∉ piece) :
    '\n' ∉ join separator pieces := fun member =>
  (mem_join member).elim inSeparator fun ⟨piece, isPiece, inside⟩ => inPieces piece isPiece inside

theorem newline_not_mem_renderParameters {parameters : List (List Char)}
    (single : ∀ parameter ∈ parameters, '\n' ∉ parameter) :
    '\n' ∉ renderParameters parameters := by
  unfold renderParameters
  split
  · exact List.not_mem_nil
  · have inList : '\n' ∉ join ", ".toList parameters := newline_not_mem_join (by decide) single
    exact List.not_mem_append (List.not_mem_append (by decide) inList) (by decide)

theorem newline_not_mem_renderValue {value : List Char} (single : '\n' ∉ value) :
    '\n' ∉ renderValue value :=
  List.not_mem_append (List.not_mem_append (List.not_mem_append
    (List.not_mem_append (by decide) single) (by decide)) single) (by decide)

theorem Member.newline_not_mem_render (naming : NamingConvention) {member : Member}
    (single : ∀ name ∈ member.type.references, '\n' ∉ name) : '\n' ∉ member.render naming := by
  have inName := naming.newline_not_mem_apply member.name
  have inType := TargetType.newline_not_mem_render member.type single
  have inKey : '\n' ∉ propertyKey (naming.apply member.name) := by
    unfold propertyKey
    split
    · exact inName
    · simp [inName]
  have inWhole : '\n' ∉ member.renderType := by
    unfold renderType
    cases member.marksArray <;> cases member.isNullable <;> simp [inType]
  exact List.not_mem_append (List.not_mem_append (List.not_mem_append
    (List.not_mem_append (by decide) inKey) (by decide)) inWhole) (by decide)

theorem ClassShape.newline_not_mem_renderHeader {shape : ClassShape} {name : List Char}
    (inName : '\n' ∉ name) (inParameters : ∀ parameter ∈ shape.parameters, '\n' ∉ parameter)
    (inBase : ∀ base ∈ shape.base, '\n' ∉ base)
    (inArguments : ∀ argument ∈ shape.baseArguments, '\n' ∉ argument) :
    '\n' ∉ shape.renderHeader name := by
  have inFront : '\n' ∉ "export interface ".toList ++ name ++ renderParameters shape.parameters :=
    List.not_mem_append (List.not_mem_append (by decide) inName)
      (newline_not_mem_renderParameters inParameters)
  unfold renderHeader
  cases isBase : shape.base with
  | none => exact List.not_mem_append inFront List.not_mem_nil
  | some base =>
    exact List.not_mem_append inFront (List.not_mem_append
      (List.not_mem_append (by decide) (inBase base isBase))
      (newline_not_mem_renderParameters inArguments))

namespace Declaration

variable {declaration : Declaration}

/-- A declaration is written in its lines. -/
theorem render_eq (naming : NamingConvention) (declaration : Declaration) :
    declaration.render naming = join ['\n'] (declaration.lines naming) := by
  unfold render lines
  cases declaration.body with
  | enumeration values =>
    exact renderBlock_eq _ (join_comma _) withCommas_eq_nil.symm
  | object shape => exact renderBlock_eq _ rfl Iff.rfl

/-- What is written from unbroken texts stands in its line, which is not empty. -/
theorem forall_mem_lines (naming : NamingConvention) (unbroken : declaration.IsUnbroken) :
    ∀ line ∈ declaration.lines naming, '\n' ∉ line ∧ line ≠ [] := by
  obtain ⟨inName, inBody⟩ := List.forall_mem_cons.mp unbroken
  unfold lines
  cases isBody : declaration.body with
  | enumeration values =>
    rw [isBody] at inBody
    have inHeader : '\n' ∉ "export enum ".toList ++ declaration.name :=
      List.not_mem_append (by decide) inName
    refine forall_mem_blockLines inHeader (forall_mem_withCommas ?_ ?_)
    · intro line isLine
      obtain ⟨value, isValue, rfl⟩ := List.mem_map.mp isLine
      exact ⟨newline_not_mem_renderValue (inBody value isValue),
        List.append_ne_nil_of_right_ne_nil _ (List.cons_ne_nil _ _)⟩
    · rintro line ⟨single, notEmpty⟩
      exact ⟨by simpa using single, by simp⟩
  | object shape =>
    rw [isBody] at inBody
    obtain ⟨inParameters, inRest⟩ := List.forall_mem_append.mp inBody
    obtain ⟨inBase, inRest⟩ := List.forall_mem_append.mp inRest
    obtain ⟨inArguments, inMembers⟩ := List.forall_mem_append.mp inRest
    refine forall_mem_blockLines (ClassShape.newline_not_mem_renderHeader inName inParameters
      (fun base isBase => inBase base (Option.mem_toList.mpr isBase)) inArguments) ?_
    intro line isLine
    obtain ⟨member, isMember, rfl⟩ := List.mem_map.mp isLine
    refine ⟨Member.newline_not_mem_render naming fun name isName => ?_,
      List.append_ne_nil_of_right_ne_nil _ (List.cons_ne_nil _ _)⟩
    exact inMembers name (List.mem_flatMap.mpr ⟨member, isMember, isName⟩)

theorem lines_ne_nil (naming : NamingConvention) (declaration : Declaration) :
    declaration.lines naming ≠ [] := by
  unfold lines
  split <;> exact blockLines_ne_nil _ _

/-- What a declaration is written in are its lines. -/
theorem linesOf_render (naming : NamingConvention) (unbroken : declaration.IsUnbroken) :
    linesOf (declaration.render naming) = declaration.lines naming := by
  have single : ∀ line ∈ declaration.lines naming, '\n' ∉ line := fun line isLine =>
    (forall_mem_lines naming unbroken line isLine).1
  rw [render_eq, linesOf, splitOn_join single (lines_ne_nil naming declaration)]

theorem isParagraph_render (naming : NamingConvention) (unbroken : declaration.IsUnbroken) :
    IsParagraph (declaration.render naming) := by
  rw [IsParagraph, linesOf_render naming unbroken]
  exact fun empty => (forall_mem_lines naming unbroken [] empty).2 rfl

end Declaration

end SharpTypes

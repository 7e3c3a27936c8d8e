/-
Heads of declarations. Between the signature of a declaration and the sign that ends its head there
may be anything that holds no brace, such as further base types and constraints. A declaration is
read by its head, and the body that it is read with is the next one there is.
-/

import Mathlib.Tactic.Common
import SharpTypes.Proofs.Source.DeclarationReading

namespace SharpTypes.Source.Listing

open Text

variable {marker : List Char} {mark : Char}

/-- A marked head up to the sign that ends it. What the marked declaration has for a body does not
belong to it. -/
structure HeadText (marker : List Char) (mark : Char) where
  marked : MarkedText marker
  clauses : List Char
  braceFree : '{' ∉ clauses
  ends : marked.shape.Ends (clauses ++ [mark])

namespace HeadText

/-- What stands behind the marker. -/
def unmarked (text : HeadText marker mark) : List Char :=
  text.marked.later.flatMap AttributeText.text ++ text.marked.shapeSpacing.text ++
    text.marked.shape.head ++ text.clauses ++ [mark]

end HeadText

/-- A head that ends in ink ends there whatever comes after it. -/
theorem ends_append {shape : ShapeText} {clauses : List Char} (notBlank : isBlank mark = false)
    (ends : shape.Ends (clauses ++ [mark])) (rest : List Char) :
    shape.Ends (clauses ++ mark :: rest) := by
  have split : clauses ++ mark :: rest = clauses ++ [mark] ++ rest := by simp
  have notEmpty : clauses ++ [mark] ≠ [] := by simp
  have inked : Inked (clauses ++ [mark]) := (inked_cons notBlank []).append_right clauses
  rw [split]
  cases shape with
  | enumeration _ => exact stops_append ends notEmpty rest
  | object _ =>
    refine ⟨stops_append ends.name notEmpty rest, ?_⟩
    rw [trimStart_append_of_inked inked]
    exact stops_append ends.mark (trimStart_ne_nil inked) rest

/-- Behind a head the next body there is gets read. -/
theorem of?_headText (notBlank : isBlank mark = false) (text : HeadText marker mark)
    (rest : List Char) :
    DeclarationText.of? (text.unmarked ++ rest) =
      (Bracket.curly.body? (mark :: rest)).map text.marked.shape.withBody := by
  have split : text.unmarked ++ rest = text.marked.later.flatMap AttributeText.text ++
      (text.marked.shapeSpacing.text ++ (text.marked.shape.head ++
        (text.clauses ++ mark :: rest))) := by
    simp [HeadText.unmarked]
  rw [split, of?_head (Header.isAttributes_attributes text.marked.later) text.marked.shapeSpacing
    (ends_append notBlank text.ends rest), Bracket.body?_passed text.braceFree]

/-! ### A plain class -/

theorem blank_space : Blank [' '] := by
  decide

theorem space_ne_nil : [' '] ≠ [] := by
  decide

theorem isIdentifierCharacter_of_mem_nil : ∀ c ∈ [], isIdentifierCharacter c = true := by
  intro c inside
  cases inside

/-- No blank. -/
def noSpacing : Spacing :=
  ⟨[], blank_nil⟩

/-- A single blank. -/
def oneSpacing : Spacing :=
  ⟨[' '], blank_space⟩

/-- A single blank between tokens that need one. -/
def oneGap : Gap :=
  ⟨[' '], blank_space, space_ne_nil⟩

/-- An identifier of one letter. -/
def letter (c : Char) (start : isLetter c || c == '_') : Identifier :=
  ⟨c, [], start, isIdentifierCharacter_of_mem_nil⟩

/-- The class `A`, with single blanks between its tokens. -/
def plainClass : ClassText where
  publicGap := oneGap
  modifiers := []
  classGap := oneGap
  name := letter 'A' (by decide +kernel)
  nameSpacing := noSpacing
  parameters := []
  parametersSpacing := noSpacing
  base := none
  properties := []
  closingSpacing := noSpacing

/-- The class `A` behind its marker. -/
def plainMarked : MarkedText "TypeSharp".toList where
  earlier := []
  markerSpacing := noSpacing
  spelling := ⟨noSpacing, false, noSpacing, none, noSpacing⟩
  later := []
  shapeSpacing := oneSpacing
  shape := .object plainClass
  behind := ⟨[], List.not_mem_nil, List.not_mem_nil⟩

end SharpTypes.Source.Listing

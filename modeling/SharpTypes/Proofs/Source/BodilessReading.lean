/-
Declarations without a body. Where a semicolon stands in the place of the body, the search for the
body goes on into whatever follows and takes the first block there, whosever it is. Nothing is taken
away from what follows: its own declarations are read all the same.
-/

import Mathlib.Tactic.Common
import SharpTypes.Proofs.Source.HeadReading
import SharpTypes.Proofs.Source.ListingReading

namespace SharpTypes

/-- There is nothing in the declaration: it has no values, or no members. -/
def Declaration.IsBare (declaration : Declaration) : Prop :=
  match declaration.body with
  | .enumeration values => values = []
  | .object shape => shape.members = []

end SharpTypes

namespace SharpTypes.Source.Listing

open Text

variable {marker : List Char}

/-- A marked head with a semicolon in the place of the body. -/
structure BodilessText (marker : List Char) extends HeadText marker ';' where
  inert : Inert clauses

namespace BodilessText

/-- What stands behind the marker. -/
def unmarked (text : BodilessText marker) : List Char :=
  text.toHeadText.unmarked

/-- The text of a declaration without a body. -/
def text (text : BodilessText marker) : List Char :=
  text.marked.opening ++ text.unmarked

end BodilessText

/-! ### Reading -/

/-- Behind the marker the next body there is gets read. -/
theorem of?_bodiless (text : BodilessText marker) (rest : List Char) :
    DeclarationText.of? (text.unmarked ++ rest) =
      (Bracket.curly.body? rest).map text.marked.shape.withBody := by
  have passed : Bracket.curly.body? ([';'] ++ rest) = Bracket.curly.body? rest :=
    Bracket.body?_passed (by decide) rest
  rw [BodilessText.unmarked, of?_headText (by decide), ← passed]
  rfl

theorem IsLayout.bodiless {kind : List Char → Prop} (layout : IsLayout marker kind)
    (text : BodilessText marker) : kind text.unmarked := by
  have semicolon : kind [';'] := layout.inert (inert_of_not_mem (by decide) (by decide))
  exact layout.append (layout.append (layout.append (layout.append
    (layout.attributes text.marked.later) (layout.blank text.marked.shapeSpacing))
      (layout.inert (inert_head text.marked.shape))) (layout.inert text.inert)) semicolon

theorem keeps_bodiless (isName : Marker.IsName marker) (text : BodilessText marker) :
    Comment.Keeps text.text :=
  (keeps_opening isName text.marked).append (isLayout_keeps.bodiless text)

theorem passes_bodiless (isName : Marker.IsName marker) (text : BodilessText marker) :
    Marker.Passes marker text.unmarked :=
  (isLayout_passes isName).bodiless text

/-- What is reported for a declaration without a body: nothing if no block follows that is closed,
and else a declaration with the first such block for its body. -/
def BodilessText.reported (text : BodilessText marker) (rest : List Char) : Option Declaration :=
  (Bracket.curly.body? (Comment.strip rest)).map fun body =>
    (text.marked.shape.withBody body).declaration

theorem eq_of_toList_append_eq {α : Type} {left right : Option α} {rest : List α}
    (same : left.toList ++ rest = right.toList ++ rest) : left = right := by
  have lists := List.append_cancel_right same
  cases left <;> cases right <;> simp_all

/-- A declaration without a body is reported with the next block there is, besides exactly what is
declared in the text that follows. So it takes nothing from there if and only if that block is
missing or holds nothing that it would take. -/
theorem bodiless_takes_next_body (isName : Marker.IsName marker) (text : BodilessText marker)
    (rest : List Char) :
    Source.declarations marker (text.text ++ rest) =
        (text.reported rest).toList ++ Source.declarations marker rest ∧
      ((∃ reported : Option Declaration,
          Source.declarations marker (text.text ++ rest) =
            reported.toList ++ Source.declarations marker rest ∧
          ∀ declaration ∈ reported, declaration.IsBare) ↔
        ∀ body, Bracket.curly.body? (Comment.strip rest) = some body →
          (text.marked.shape.withBody body).declaration.IsBare) := by
  have read : Source.declarations marker (text.text ++ rest) =
      (text.reported rest).toList ++ Source.declarations marker rest := by
    rw [declarations_eq, declarations_eq, declared, keeps_bodiless isName text rest,
      BodilessText.text, List.append_assoc, rests_opening isName, passes_bodiless isName text,
      List.filterMap_cons, of?_bodiless, Option.map_map, BodilessText.reported]
    cases Bracket.curly.body? (Comment.strip rest) <;> rfl
  refine ⟨read, ?_⟩
  rw [read]
  constructor
  · rintro ⟨reported, same, bare⟩ body next
    rw [← eq_of_toList_append_eq same, BodilessText.reported, next] at bare
    exact bare _ rfl
  · intro bare
    refine ⟨text.reported rest, rfl, fun declaration isReported => ?_⟩
    obtain ⟨body, next, rfl⟩ := Option.map_eq_some_iff.mp isReported
    exact bare body next

/-- The class `A` behind its marker, with a semicolon in the place of the body. -/
def lonelyText : BodilessText "TypeSharp".toList where
  marked := plainMarked
  clauses := []
  braceFree := List.not_mem_nil
  ends := Header.ends_cons (by decide) (by decide +kernel) (by decide) []
  inert := .nil

/-- With no block behind it, the class takes nothing. -/
theorem bodiless_takes_nothing_at_end : Marker.IsName "TypeSharp".toList ∧
    ∃ reported : Option Declaration,
      Source.declarations "TypeSharp".toList (lonelyText.text ++ " // \x7b \x7d".toList) =
        reported.toList ++ Source.declarations "TypeSharp".toList " // \x7b \x7d".toList ∧
      ∀ declaration ∈ reported, declaration.IsBare := by
  have isName : Marker.IsName "TypeSharp".toList :=
    Marker.isName_of_isIdentifier (by decide +kernel)
  refine ⟨isName, (bodiless_takes_next_body isName lonelyText _).2.mpr fun body next => ?_⟩
  have missing : Bracket.curly.body? (Comment.strip " // \x7b \x7d".toList) = none := by
    decide +kernel
  rw [missing] at next
  cases next

/-- A class without a body is reported with the property of the class behind it. -/
theorem bodiless_takes_property_of_next :
    Source.declarations "TypeSharp".toList
        ("[TypeSharp] public class A;" ++
          " [TypeSharp] public class B \x7b public int X \x7b get; set; \x7d \x7d").toList =
      [⟨"A".toList, .object ⟨[⟨"X".toList, .primitive .number, false, false⟩], none, [], []⟩⟩,
        ⟨"B".toList, .object ⟨[⟨"X".toList, .primitive .number, false, false⟩], none, [], []⟩⟩] ∧
      ¬ ∃ reported : Option Declaration,
        Source.declarations "TypeSharp".toList
            ("[TypeSharp] public class A;" ++
              " [TypeSharp] public class B \x7b public int X \x7b get; set; \x7d \x7d").toList =
          reported.toList ++ Source.declarations "TypeSharp".toList
            " [TypeSharp] public class B \x7b public int X \x7b get; set; \x7d \x7d".toList ∧
        ∀ declaration ∈ reported, declaration.IsBare := by
  have together : Source.declarations "TypeSharp".toList
      ("[TypeSharp] public class A;" ++
        " [TypeSharp] public class B \x7b public int X \x7b get; set; \x7d \x7d").toList =
      [⟨"A".toList, .object ⟨[⟨"X".toList, .primitive .number, false, false⟩], none, [], []⟩⟩,
        ⟨"B".toList,
          .object ⟨[⟨"X".toList, .primitive .number, false, false⟩], none, [], []⟩⟩] := by
    decide +kernel
  have following : Source.declarations "TypeSharp".toList
      " [TypeSharp] public class B \x7b public int X \x7b get; set; \x7d \x7d".toList =
      [⟨"B".toList, .object ⟨[⟨"X".toList, .primitive .number, false, false⟩], none, [], []⟩⟩] := by
    decide +kernel
  refine ⟨together, ?_⟩
  rw [together, following]
  rintro ⟨reported, same, bare⟩
  obtain rfl : some _ = reported := eq_of_toList_append_eq same
  cases bare _ rfl

end SharpTypes.Source.Listing

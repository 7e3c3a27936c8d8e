/-
Reading undoes writing. Whatever blanks, modifiers, attributes and fillers a listing has and however
its markers are spelled, its declarations are read from its text, and nothing else is.
-/

import Mathlib.Tactic.Common
import SharpTypes.Proofs.Source.DeclarationReading
import SharpTypes.Proofs.Source.MarkerReading

namespace SharpTypes.Source.Listing

open Text

variable {marker : List Char}

/-! ### What a listing is made of -/

/-- A kind of texts that whatever is laid out behind a marker belongs to because all that it is made
of does. -/
structure IsLayout (marker : List Char) (kind : List Char → Prop) : Prop where
  append : ∀ {left right : List Char}, kind left → kind right → kind (left ++ right)
  inert : ∀ {text : List Char}, Inert text → kind text
  ofAttribute : ∀ text : AttributeText marker, kind text.text

namespace IsLayout

variable {kind : List Char → Prop} (layout : IsLayout marker kind)
include layout

theorem blank (spacing : Spacing) : kind spacing.text :=
  layout.inert (inert_of_blank spacing.blank)

theorem attributes (texts : List (AttributeText marker)) :
    kind (texts.flatMap AttributeText.text) :=
  flatMap_of_append (layout.inert .nil) layout.append fun text _ => layout.ofAttribute text

theorem unmarked (text : MarkedText marker) : kind text.unmarked :=
  layout.append (layout.append (layout.append (layout.attributes text.later)
    (layout.blank text.shapeSpacing)) (layout.inert (inert_shape text.shape)))
      (layout.inert (inert_filler text.behind))

end IsLayout

/-! ### Comments -/

theorem isLayout_keeps : IsLayout marker Comment.Keeps where
  append := .append
  inert := Comment.keeps_of_inert
  ofAttribute text := by
    refine Comment.keeps_of_not_mem ?_
    simp only [AttributeText.text, List.mem_append, List.mem_cons, List.not_mem_nil, or_false,
      not_or]
    exact ⟨⟨not_mem_of_blank text.spacing.blank (by decide), by decide,
      text.plain '/' (by decide)⟩, by decide⟩

theorem keeps_blank {text : List Char} (blank : Blank text) : Comment.Keeps text :=
  Comment.keeps_of_not_mem (not_mem_of_blank blank (by decide))

/-- Only the arguments of a marker can hold slashes. -/
theorem keeps_spelling (isName : Marker.IsName marker) (spelling : MarkerText marker) :
    Comment.Keeps spelling.text := by
  have opening : Comment.Keeps ['['] := Comment.keeps_of_not_mem (by decide)
  have closing : Comment.Keeps [']'] := Comment.keeps_of_not_mem (by decide)
  have name : Comment.Keeps marker := Comment.keeps_of_not_mem isName.slashFree
  have suffix : Comment.Keeps (if spelling.isSuffixed then "Attribute".toList else []) := by
    refine Comment.keeps_of_not_mem ?_
    cases spelling.isSuffixed <;> decide
  have arguments : Comment.Keeps spelling.argumentsText := by
    rw [MarkerText.argumentsText]
    cases spelling.arguments with
    | none => exact Comment.keeps_nil
    | some list =>
      have inside := Comment.keeps_closed (by decide : ')' ≠ '/') (by decide) list.uncommented
      have opened : Comment.Keeps ['('] := Comment.keeps_of_not_mem (by decide)
      exact opened.append inside
  have content : Comment.Keeps spelling.content :=
    (((((keeps_blank spelling.before.blank).append name).append suffix).append
      (keeps_blank spelling.nameSpacing.blank)).append arguments).append
        (keeps_blank spelling.after.blank)
  exact (opening.append content).append closing

theorem keeps_opening (isName : Marker.IsName marker) (text : MarkedText marker) :
    Comment.Keeps text.opening :=
  ((isLayout_keeps.attributes text.earlier).append (keeps_blank text.markerSpacing.blank)).append
    (keeps_spelling isName text.spelling)

theorem keeps_marked (isName : Marker.IsName marker) (text : MarkedText marker) :
    Comment.Keeps text.text :=
  (keeps_opening isName text).append (isLayout_keeps.unmarked text)

/-- There are no comments in a listing. -/
theorem strip_text (isName : Marker.IsName marker) (listing : Listing marker) :
    Comment.strip listing.text = listing.text := by
  have marked : Comment.Keeps (listing.marked.flatMap MarkedText.text) :=
    flatMap_of_append Comment.keeps_nil .append fun text _ => keeps_marked isName text
  have kept := (Comment.keeps_of_inert (inert_filler listing.start)).append marked []
  rwa [List.append_nil, Comment.strip, List.append_nil] at kept

/-! ### Markers -/

theorem isLayout_passes (isName : Marker.IsName marker) :
    IsLayout marker (Marker.Passes marker) where
  append := .append
  inert := isName.passes_of_inert
  ofAttribute := isName.passes_attribute

/-- At the end of the opening a marker is found. -/
theorem rests_opening (isName : Marker.IsName marker) (text : MarkedText marker)
    (rest : List Char) :
    Marker.rests marker (text.opening ++ rest) = rest :: Marker.rests marker rest := by
  have earlier := (isLayout_passes isName).attributes text.earlier
  have spacing := (isLayout_passes isName).blank text.markerSpacing
  rw [MarkedText.opening, List.append_assoc, earlier.append spacing,
    Marker.rests_of_some (isName.after?_append text.spelling rest)]

/-- A marked declaration has one marker, and behind it stands the declaration. -/
theorem rests_marked (isName : Marker.IsName marker) (text : MarkedText marker)
    (rest : List Char) : Marker.rests marker (text.text ++ rest) =
      (text.unmarked ++ rest) :: Marker.rests marker rest := by
  rw [text.text_eq, List.append_assoc, rests_opening isName, (isLayout_passes isName).unmarked text]

/-- The declaration behind the marker is read. -/
theorem of?_unmarked (text : MarkedText marker) (rest : List Char) :
    (DeclarationText.of? (text.unmarked ++ rest)).map DeclarationText.declaration =
      some text.shape.declaration := by
  have isAttributes := Header.isAttributes_attributes text.later
  rw [MarkedText.unmarked, List.append_assoc, List.append_assoc, List.append_assoc]
  cases text.shape with
  | enumeration shape => exact of?_enumeration isAttributes text.shapeSpacing shape _
  | object shape => exact of?_class isAttributes text.shapeSpacing shape _

/-- The declarations in a text without comments are those behind its markers. -/
def declared (marker text : List Char) : List Declaration :=
  (Marker.rests marker text).filterMap fun rest =>
    (DeclarationText.of? rest).map DeclarationText.declaration

theorem declarations_eq (marker source : List Char) :
    Source.declarations marker source = declared marker (Comment.strip source) := by
  rw [Source.declarations, declared, Marker.rests, List.filterMap_map]
  rfl

/-! ### Listings -/

/-- Each marked declaration is read once, and in order. -/
theorem filterMap_rests (isName : Marker.IsName marker) (marked : List (MarkedText marker)) :
    (Marker.rests marker (marked.flatMap MarkedText.text)).filterMap (fun rest =>
      (DeclarationText.of? rest).map DeclarationText.declaration) =
        marked.map fun text => text.shape.declaration := by
  induction marked with
  | nil =>
    rw [List.flatMap_nil, Marker.rests_nil]
    rfl
  | cons text others inductionHypothesis =>
    rw [List.flatMap_cons, rests_marked isName, List.filterMap_cons, of?_unmarked,
      inductionHypothesis, List.map_cons]

/-- The declarations of a listing are read from its text, and each property comes to what it means,
unless an array suffix hides the wrapper. -/
theorem declarations_of_listing (isMarker : isIdentifier marker = true)
    (listing : Listing marker) :
    Source.declarations marker listing.text = listing.declarations ∧
      ∀ property ∈ listing.properties, property.type.hidesWrapper = false →
        property.member = property.meaning := by
  have isName := Marker.isName_of_isIdentifier isMarker
  have start := isName.passes_of_inert (inert_filler listing.start)
  refine ⟨?_, fun property _ shown => ?_⟩
  · rw [declarations, ← filterMap_rests isName, ← start, Source.declarations, strip_text isName,
      Marker.rests, List.filterMap_map]
    rfl
  · exact resolveMember_of_written property.written shown property.name.text

/-- A property of a nullable array type. -/
def linesText : PropertyText where
  before := []
  publicGap := ⟨[' '], by decide, by decide⟩
  after := [⟨"required".toList, by decide, ⟨[' '], by decide, by decide⟩⟩]
  type := .nullable (.array (.bare (.name ⟨[], ⟨"int".toList, by decide, by decide⟩⟩)))
  typeText := "int[] ?".toList
  written := .nullable (.array (.bare (.name (.last blank_nil blank_nil)))
    (by decide : Blank [' '])) blank_nil
  proper := by
    intro name isName
    obtain rfl := List.mem_singleton.mp isName
    exact ⟨⟨⟨'i', "nt".toList, by decide +kernel, by decide +kernel⟩, rfl⟩, by decide⟩
  typeGap := ⟨[' '], by decide, by decide⟩
  name := ⟨'L', "ines".toList, by decide +kernel, by decide +kernel⟩
  nameSpacing := ⟨[' '], by decide⟩
  openSpacing := ⟨[' '], by decide⟩
  getSpacing := ⟨[' '], by decide⟩
  setSpacing := ⟨[' '], by decide⟩

/-- An attribute that spells no marker. -/
def serializableText : AttributeText "TypeSharp".toList where
  spacing := ⟨['\n'], by decide⟩
  content := "Serializable".toList
  plain := by decide
  unmarked spelling same := by
    have inside : 'T' ∈ spelling.content := by
      rw [Marker.content_eq]
      exact List.mem_append_right _ (List.mem_append_left _ (by decide))
    rw [same] at inside
    revert inside
    decide

/-- A generic class behind an attribute and a marker. -/
def orderListing : Listing "TypeSharp".toList where
  start := ⟨"using System;".toList, by decide, by decide⟩
  marked := [{
    earlier := [serializableText]
    markerSpacing := ⟨[' '], by decide⟩
    spelling := ⟨⟨[], blank_nil⟩, true, ⟨[], blank_nil⟩, none, ⟨[' '], by decide⟩⟩
    later := []
    shapeSpacing := ⟨['\n'], by decide⟩
    shape := .object {
      publicGap := ⟨[' '], by decide, by decide⟩
      modifiers := [⟨"sealed".toList, by decide, ⟨[' '], by decide, by decide⟩⟩]
      classGap := ⟨[' '], by decide, by decide⟩
      name := ⟨'O', "rder".toList, by decide +kernel, by decide +kernel⟩
      nameSpacing := ⟨[], blank_nil⟩
      parameters := [⟨⟨[], blank_nil⟩, ⟨'T', [], by decide +kernel, by decide⟩, ⟨[], blank_nil⟩⟩]
      parametersSpacing := ⟨[' '], by decide⟩
      base := none
      properties := [(⟨[' '], by decide⟩, linesText)]
      closingSpacing := ⟨[' '], by decide⟩ }
    behind := ⟨['\n'], by decide, by decide⟩ }]

theorem declarations_of_order : isIdentifier "TypeSharp".toList = true ∧
    Source.declarations "TypeSharp".toList
      ("using System;\n[Serializable] [TypeSharpAttribute ]\npublic sealed class Order<T> " ++
        "\x7b public required int[] ? Lines \x7b get; set; \x7d \x7d\n").toList =
      [⟨"Order".toList, .object {
        members := [⟨"Lines".toList, .primitive .number, true, true⟩]
        base := none
        parameters := ["T".toList]
        baseArguments := [] }⟩] ∧
    linesText.type.hidesWrapper = false ∧ linesText.member = linesText.meaning := by
  have isMarker : isIdentifier "TypeSharp".toList = true := by decide +kernel
  obtain ⟨read, means⟩ := declarations_of_listing isMarker orderListing
  refine ⟨isMarker, (congrArg _ ?_).trans (read.trans ?_), rfl, means linesText ?_ rfl⟩
  · show _ = orderListing.text
    decide +kernel
  · decide +kernel
  · exact List.mem_singleton_self _

/-- What keeps a property or a declaration from being read as it is meant: a property of the type
itself, a name that no blank parts from its type, an array suffix behind the wrapper, and a marker
whose arguments open a comment. -/
theorem declarations_misread :
    Source.declarations "TypeSharp".toList
        "[TypeSharp] public class A \x7b public static int X \x7b get; set; \x7d \x7d".toList =
      [⟨"A".toList, .object ⟨[], none, [], []⟩⟩] ∧
    Source.declarations "TypeSharp".toList
        "[TypeSharp] public class A \x7b public List<int>X \x7b get; set; \x7d \x7d".toList =
      [⟨"A".toList, .object ⟨[], none, [], []⟩⟩] ∧
    Source.declarations "TypeSharp".toList
        "[TypeSharp] public class A \x7b public Nullable<int>[] X \x7b get; set; \x7d \x7d".toList =
      [⟨"A".toList, .object ⟨[⟨"X".toList, .primitive .number, false, true⟩], none, [], []⟩⟩] ∧
    Source.declarations "TypeSharp".toList
        "[TypeSharp(//)] public enum A \x7b X \x7d".toList = [] := by
  decide +kernel

end SharpTypes.Source.Listing

/-
Sections in front of declarations and of values. Behind a marker a declaration is read if and only
if no section in front of it holds brackets. A value is read if and only if each section in front of
it holds one attribute, without brackets; where there are several, those between the first and the
last one may be taken for values themselves.
-/

import Mathlib.Tactic.Common
import SharpTypes.Proofs.Source.HeadReading
import SharpTypes.Proofs.Source.ListingReading
import SharpTypes.Proofs.Source.Section

namespace SharpTypes.Source.Listing

open Text

variable {marker : List Char}

/-- A value of an enumeration, and the sections in front of it. -/
structure EntryText (marker : List Char) where
  sections : List (SectionText marker)
  value : ValueText

namespace EntryText

/-- The text of a value with the sections in front of it. -/
def text (entry : EntryText marker) : List Char :=
  entry.sections.flatMap SectionText.text ++ entry.value.text

/-- The values that are read in the text. -/
def values (entry : EntryText marker) : List (List Char) :=
  entry.sections.flatMap SectionText.lookalikes ++
    if ∀ part ∈ entry.sections, part.IsPlain then [entry.value.name.text] else []

end EntryText

/-- The body of an enumeration with sections in front of its values. -/
def EnumerationText.sectionedBody (text : EnumerationText) (entries : List (EntryText marker)) :
    List Char :=
  text.bodySpacing.text ++ join [','] (entries.map EntryText.text)

namespace ShapeText

/-- The values of an enumeration. -/
def values : ShapeText → List ValueText
  | .enumeration text => text.values
  | .object _ => []

/-- The text of a declaration with sections in front of its values. -/
def sectioned (entries : List (EntryText marker)) : ShapeText → List Char
  | .enumeration text => text.head ++ '{' :: text.sectionedBody entries ++ ['}']
  | .object text => text.text

/-- The declaration that is read in such a text. -/
def sectionedDeclaration (entries : List (EntryText marker)) : ShapeText → Declaration
  | .enumeration text => ⟨text.name.text, .enumeration (entries.flatMap EntryText.values)⟩
  | .object text => text.declaration

end ShapeText

/-- A marked declaration, with sections behind its marker and in front of its values. -/
structure SectionedText (marker : List Char) extends MarkedText marker where
  sections : List (SectionText marker)
  entries : List (EntryText marker)
  same : entries.map EntryText.value = shape.values

namespace SectionedText

/-- What stands behind the marker. -/
def unmarked (text : SectionedText marker) : List Char :=
  text.sections.flatMap SectionText.text ++ text.later.flatMap AttributeText.text ++
    text.shapeSpacing.text ++ text.shape.sectioned text.entries ++ text.behind.text

/-- The text of a marked declaration with its sections. -/
def text (text : SectionedText marker) : List Char :=
  text.opening ++ text.unmarked

/-- What is reported: nothing if there are brackets in a section behind the marker. -/
def reported (text : SectionedText marker) : Option Declaration :=
  if ∀ part ∈ text.sections, part.IsFlat then
    some (text.shape.sectionedDeclaration text.entries)
  else none

/-- No section behind the marker holds brackets, and those in front of the values leave these as
they are. -/
def IsTransparent (text : SectionedText marker) : Prop :=
  (∀ part ∈ text.sections, part.IsFlat) ∧
    text.entries.flatMap EntryText.values = text.entries.map fun entry => entry.value.name.text

/-- There are no brackets in the sections, and one attribute in each of those in front of values. -/
def IsPlain (text : SectionedText marker) : Prop :=
  (∀ part ∈ text.sections, part.IsFlat) ∧
    ∀ entry ∈ text.entries, ∀ part ∈ entry.sections, part.IsPlain

instance (text : SectionedText marker) : Decidable text.IsPlain :=
  inferInstanceAs (Decidable (_ ∧ _))

end SectionedText

/-- A list of marked declarations with sections. -/
structure SectionedListing (marker : List Char) where
  start : Filler
  texts : List (SectionedText marker)

namespace SectionedListing

/-- The source text. -/
def text (listing : SectionedListing marker) : List Char :=
  listing.start.text ++ listing.texts.flatMap SectionedText.text

/-- The listing without the sections. -/
def plain (listing : SectionedListing marker) : Listing marker :=
  ⟨listing.start, listing.texts.map SectionedText.toMarkedText⟩

end SectionedListing

/-! ### Lists of values -/

/-- The text declares the values, and what stands behind a comma declares its own. -/
structure Declares (text : List Char) (found : List (List Char)) : Prop where
  alone : DeclarationText.values text = found
  followed : ∀ rest, DeclarationText.values (text ++ ',' :: rest) =
    found ++ DeclarationText.values rest

theorem declares_of_balanced {text : List Char} (balanced : Bracket.round.Balanced (· ≠ ',') text) :
    Declares text (DeclarationText.value? text).toList :=
  ⟨values_of_balanced balanced, values_append balanced⟩

theorem Declares.append {left right : List Char} {found others : List (List Char)}
    (declaresLeft : Declares left found) (declaresRight : Declares right others) :
    Declares (left ++ ',' :: right) (found ++ others) := by
  refine ⟨?_, fun rest => ?_⟩
  · rw [declaresLeft.followed, declaresRight.alone]
  · rw [List.append_assoc, List.cons_append, declaresLeft.followed, declaresRight.followed,
      List.append_assoc]

theorem declares_join {α : Type} {items : List α} {text : α → List Char}
    {found : α → List (List Char)} (each : ∀ item ∈ items, Declares (text item) (found item)) :
    Declares (join [','] (items.map text)) (items.flatMap found) := by
  induction items with
  | nil =>
    have nothing := declares_of_balanced .nil
    rwa [value?_nil] at nothing
  | cons first rest inductionHypothesis =>
    obtain ⟨ofFirst, ofRest⟩ := List.forall_mem_cons.mp each
    cases rest with
    | nil => simpa using ofFirst
    | cons second others =>
      rw [List.map_cons, List.map_cons, join_cons_cons, List.append_assoc, List.singleton_append,
        List.flatMap_cons]
      exact ofFirst.append (inductionHypothesis ofRest)

/-- Each piece in front of the last one is read for itself. -/
theorem declares_pieces {pieces : List (List Char)}
    (balanced : ∀ piece ∈ pieces, Bracket.round.Balanced (· ≠ ',') piece) {last : List Char}
    {found : List (List Char)} (declaresLast : Declares last found) :
    Declares (join [','] (pieces ++ [last]))
      (pieces.filterMap DeclarationText.value? ++ found) := by
  induction pieces with
  | nil => rwa [List.nil_append, join_singleton, List.filterMap_nil, List.nil_append]
  | cons first rest inductionHypothesis =>
    obtain ⟨balancedFirst, balancedRest⟩ := List.forall_mem_cons.mp balanced
    have more : rest ++ [last] ≠ [] := by simp
    have split : join [','] (first :: rest ++ [last]) =
        first ++ ',' :: join [','] (rest ++ [last]) := by
      rw [List.cons_append]
      exact List.intercalate_cons_of_ne_nil more |>.trans (List.append_assoc ..)
    have both := (declares_of_balanced balancedFirst).append (inductionHypothesis balancedRest)
    rw [split, List.filterMap_cons]
    cases read : DeclarationText.value? first <;> simpa [read] using both

/-! ### Values behind sections -/

namespace SectionText

variable (text : SectionText marker)

/-- A section with several attributes is cut into its pieces. Behind the end of the last one nothing
is read for a value. -/
theorem declares_several (several : text.others ≠ []) {front : List Char}
    (balanced : Bracket.round.Balanced (· ≠ ',') front)
    (nothing : DeclarationText.value? (front ++ (text.spacing.text ++ '[' :: text.first)) = none)
    {behind : List Char} {found : List (List Char)}
    (continued : ∀ cover, Bracket.round.Balanced (· ≠ ',') cover →
      (∀ later, DeclarationText.value? (cover ++ later) = none) →
        Declares (cover ++ behind) found) :
    Declares (front ++ (text.text ++ behind)) (text.lookalikes ++ found) := by
  obtain ⟨middle, last, sameOthers⟩ := (List.eq_nil_or_concat text.others).resolve_left several
  rw [List.concat_eq_append] at sameOthers
  have isLast : text.others.getLast? = some last := by rw [sameOthers, List.getLast?_concat]
  have pieces : ∀ piece ∈ (front ++ (text.spacing.text ++ '[' :: text.first)) :: middle,
      Bracket.round.Balanced (· ≠ ',') piece := by
    refine List.forall_mem_cons.mpr ⟨balanced.append text.balanced_first, fun piece isPiece => ?_⟩
    exact text.balanced_part (by simp [sameOthers, isPiece])
  have hidden (later : List Char) : DeclarationText.value? (last ++ [']'] ++ later) = none := by
    rw [List.append_assoc]
    exact text.value?_last isLast later
  have cut := declares_pieces pieces
    (continued _ (text.balanced_closed (by simp [sameOthers])) hidden)
  have whole : join [','] ((front ++ (text.spacing.text ++ '[' :: text.first)) :: middle ++
      [last ++ [']'] ++ behind]) = front ++ (text.text ++ behind) := by
    have opened : front ++ (text.spacing.text ++ '[' :: text.first) =
        front ++ (text.spacing.text ++ ['[']) ++ text.first := by simp
    rw [text.text_eq, content, sameOthers, opened, List.append_assoc last, ← join_concat_append,
      List.cons_append, join_append_cons]
    simp
  have dropped : text.others.dropLast = middle := by rw [sameOthers, List.dropLast_concat]
  rwa [whole, List.filterMap_cons, nothing, ← dropped, ← text.lookalikes_eq] at cut

theorem declares_single (single : text.others = []) {front behind : List Char}
    {found : List (List Char)} (continued : Declares (front ++ text.text ++ behind) found) :
    Declares (front ++ (text.text ++ behind)) (text.lookalikes ++ found) := by
  rwa [text.lookalikes_of_single single, List.nil_append, ← List.append_assoc]

end SectionText

/-- Behind a text that hides what follows, no value is read any more. -/
theorem declares_hidden (sections : List (SectionText marker)) (value : ValueText)
    {front : List Char} (balanced : Bracket.round.Balanced (· ≠ ',') front)
    (hidden : ∀ later, DeclarationText.value? (front ++ later) = none) :
    Declares (front ++ (sections.flatMap SectionText.text ++ value.text))
      (sections.flatMap SectionText.lookalikes) := by
  induction sections generalizing front with
  | nil =>
    have whole := declares_of_balanced (balanced.append (balanced_value value))
    rwa [hidden] at whole
  | cons text others inductionHypothesis =>
    rw [List.flatMap_cons, List.flatMap_cons, List.append_assoc]
    by_cases single : text.others = []
    · refine text.declares_single single (inductionHypothesis
        (balanced.append (text.balanced_single single)) fun later => ?_)
      rw [List.append_assoc, hidden]
    · exact text.declares_several single balanced (hidden _) fun _ => inductionHypothesis

/-- A value is read behind plain sections, and any other section hides it. -/
theorem declares_entry (sections : List (SectionText marker)) (value : ValueText)
    {front : List Char} (balanced : Bracket.round.Balanced (· ≠ ',') front)
    (isAttributes : Header.IsAttributes front) :
    Declares (front ++ (sections.flatMap SectionText.text ++ value.text))
      (EntryText.values ⟨sections, value⟩) := by
  induction sections generalizing front with
  | nil =>
    have whole := declares_of_balanced (balanced.append (balanced_value value))
    rwa [value?_append_of_isAttributes isAttributes, value?_value] at whole
  | cons text others inductionHypothesis =>
    by_cases plain : text.IsPlain
    · have same : EntryText.values ⟨text :: others, value⟩ =
          text.lookalikes ++ EntryText.values ⟨others, value⟩ := by
        simp [EntryText.values, plain]
      rw [same, List.flatMap_cons, List.append_assoc]
      exact text.declares_single plain.1 (inductionHypothesis
        (balanced.append (text.balanced_single plain.1))
        (isAttributes.append (text.isAttributes_of_flat plain.2)))
    · have same : EntryText.values ⟨text :: others, value⟩ =
          text.lookalikes ++ others.flatMap SectionText.lookalikes := by
        simp [EntryText.values, plain]
      rw [same, List.flatMap_cons, List.append_assoc]
      by_cases single : text.others = []
      · have notFlat : ¬ text.IsFlat := fun flat => plain ⟨single, flat⟩
        refine text.declares_single single (declares_hidden others value
          (balanced.append (text.balanced_single single)) fun later => ?_)
        rw [List.append_assoc, value?_append_of_isAttributes isAttributes,
          value?_of_stops (text.stops_of_not_flat notFlat later)]
      · refine text.declares_several single balanced ?_ fun _ => declares_hidden others value
        rw [value?_append_of_isAttributes isAttributes, text.value?_first]

/-- The values of the body are those of its entries. -/
theorem values_sectionedBody (text : EnumerationText) (entries : List (EntryText marker)) :
    DeclarationText.values (text.sectionedBody entries) = entries.flatMap EntryText.values := by
  rw [EnumerationText.sectionedBody, values_blank_append text.bodySpacing.blank]
  exact (declares_join fun entry _ =>
    declares_entry entry.sections entry.value .nil Header.isAttributes_nil).alone

/-! ### Declarations behind sections -/

/-- Without a word behind its attributes, a text starts with no declaration. -/
theorem of?_of_stops {text : List Char}
    (stops : Stops isWord (trimStart (Header.afterAttributes text))) :
    DeclarationText.of? text = none := by
  have different : (trimStart (Header.afterAttributes text)).head? ≠ some 'p' := by
    intro same
    have noWord := stops 'p' same
    revert noWord
    decide +kernel
  have nothing : Header.afterPublic? text = none := by
    rw [Header.afterPublic?, afterKeyword?, dropStart?_eq_none_of_head (c := 'p') rfl different]
  rw [DeclarationText.of?, DeclarationText.enumeration?, DeclarationText.object?,
    Header.enumeration?, Header.object?, nothing]
  rfl

/-- A section with brackets hides the declaration, also behind sections without. -/
theorem stops_sections {sections : List (SectionText marker)}
    (bracketed : ¬ ∀ part ∈ sections, part.IsFlat) (later : List Char) :
    Stops isWord
      (trimStart (Header.afterAttributes (sections.flatMap SectionText.text ++ later))) := by
  induction sections with
  | nil => exact absurd (List.forall_mem_nil _) bracketed
  | cons text others inductionHypothesis =>
    rw [List.flatMap_cons, List.append_assoc]
    by_cases flat : text.IsFlat
    · rw [text.isAttributes_of_flat flat]
      exact inductionHypothesis fun all => bracketed (List.forall_mem_cons.mpr ⟨flat, all⟩)
    · exact text.stops_of_not_flat flat _

/-- The braces in the body of an enumeration match, those in sections included. -/
theorem balanced_sectionedBody (text : EnumerationText) (entries : List (EntryText marker)) :
    Bracket.curly.Balanced (fun _ => True) (text.sectionedBody entries) := by
  refine braceBalanced_entries text.bodySpacing (List.forall_mem_map.mpr fun entry _ => ?_)
  refine Bracket.Balanced.append ?_ (braceBalanced_value entry.value)
  refine flatMap_of_append .nil .append fun text _ => ?_
  have spacing : Bracket.curly.Balanced (fun _ => True) text.spacing.text :=
    balanced_of_isTypeText (isTypeText_of_blank text.spacing.blank)
  exact (spacing.append (.plain trivial (by decide) (by decide) text.curled)).append
    (.plain trivial (by decide) (by decide) .nil)

/-- Behind the marker and flat sections the declaration is read, and otherwise nothing is. -/
theorem of?_sectioned (text : SectionedText marker) (rest : List Char) :
    (DeclarationText.of? (text.unmarked ++ rest)).map DeclarationText.declaration =
      text.reported := by
  rw [SectionedText.unmarked, SectionedText.reported]
  split
  · next flat =>
    have isAttributes : Header.IsAttributes
        (text.sections.flatMap SectionText.text ++ text.later.flatMap AttributeText.text) :=
      (Header.isAttributes_flatMap fun part isPart => part.isAttributes_of_flat (flat part isPart))
        |>.append (Header.isAttributes_attributes text.later)
    rw [List.append_assoc _ text.behind.text, List.append_assoc _ (text.shape.sectioned _),
      List.append_assoc _ text.shapeSpacing.text]
    cases text.shape with
    | enumeration shape =>
      have split : ShapeText.sectioned text.entries (.enumeration shape) ++
          (text.behind.text ++ rest) = shape.head ++ '{' ::
            (shape.sectionedBody text.entries ++ '}' :: (text.behind.text ++ rest)) := by
        simp [ShapeText.sectioned]
      have body := Bracket.body?_append List.not_mem_nil
        (balanced_sectionedBody shape text.entries) (text.behind.text ++ rest)
      rw [List.nil_append] at body
      rw [split, of?_enumerationHead isAttributes text.shapeSpacing shape
        (stops_cons (by decide +kernel) _), body, Option.map_some, Option.map_some,
        DeclarationText.declaration, values_sectionedBody]
      rfl
    | object shape => exact of?_class isAttributes text.shapeSpacing shape _
  · next bracketed =>
    rw [List.append_assoc, List.append_assoc, List.append_assoc, List.append_assoc,
      of?_of_stops (stops_sections bracketed _)]
    rfl

/-! ### Whole listings -/

theorem IsLayout.sectioned {kind : List Char → Prop} (layout : IsLayout marker kind)
    (ofSection : ∀ text : SectionText marker, kind text.text) (text : SectionedText marker) :
    kind text.unmarked := by
  have sections (texts : List (SectionText marker)) : kind (texts.flatMap SectionText.text) :=
    flatMap_of_append (layout.inert .nil) layout.append fun part _ => ofSection part
  have shape : kind (text.shape.sectioned text.entries) := by
    cases text.shape with
    | object shape => exact layout.inert (inert_class shape)
    | enumeration shape =>
      have comma : kind [','] := layout.inert (inert_of_not_mem (by decide) (by decide))
      have opening : kind ['{'] := layout.inert (inert_of_not_mem (by decide) (by decide))
      have entries : kind (join [','] (text.entries.map EntryText.text)) :=
        join_of_append (layout.inert .nil) layout.append comma (List.forall_mem_map.mpr
          fun entry _ => layout.append (sections entry.sections)
            (layout.inert (inert_value entry.value)))
      have body := layout.append opening (layout.append (layout.blank shape.bodySpacing) entries)
      exact layout.append (layout.append (layout.inert (inert_enumerationHead shape)) body)
        (layout.inert inert_closing)
  exact layout.append (layout.append (layout.append (layout.append (sections text.sections)
    (layout.attributes text.later)) (layout.blank text.shapeSpacing)) shape)
      (layout.inert (inert_filler text.behind))

theorem SectionText.keeps (text : SectionText marker) : Comment.Keeps text.text := by
  have opened := text.free.of_infix ⟨[], [']'], rfl⟩
  rw [text.text_eq, List.append_assoc]
  exact (keeps_blank text.spacing.blank).append
    (Comment.keeps_closed (by decide) (by decide) opened)

theorem SectionText.passes (isName : Marker.IsName marker) (text : SectionText marker) :
    Marker.Passes marker text.text := by
  rw [text.text_eq, List.append_assoc]
  exact (isName.passes_of_inert (inert_of_blank text.spacing.blank)).append
    (isName.passes_closed List.getLast?_concat text.free text.unmarked)

/-- There are no comments in a listing with sections. -/
theorem strip_sectioned (isName : Marker.IsName marker) (listing : SectionedListing marker) :
    Comment.strip listing.text = listing.text := by
  have texts : Comment.Keeps (listing.texts.flatMap SectionedText.text) :=
    flatMap_of_append Comment.keeps_nil .append fun text _ =>
      (keeps_opening isName text.toMarkedText).append
        (isLayout_keeps.sectioned SectionText.keeps text)
  have kept := (Comment.keeps_of_inert (inert_filler listing.start)).append texts []
  rwa [List.append_nil, Comment.strip, List.append_nil] at kept

/-- Each marker is found once, and what is reported for it is read behind it. -/
theorem declared_sectioned (isName : Marker.IsName marker) (texts : List (SectionedText marker)) :
    declared marker (texts.flatMap SectionedText.text) =
      texts.filterMap SectionedText.reported := by
  induction texts with
  | nil =>
    rw [List.flatMap_nil, declared, Marker.rests_nil]
    rfl
  | cons text others inductionHypothesis =>
    have passes := (isLayout_passes isName).sectioned (SectionText.passes isName) text
    rw [List.flatMap_cons, SectionedText.text, List.append_assoc, declared,
      rests_opening isName, passes, List.filterMap_cons, of?_sectioned, ← declared,
      inductionHypothesis, List.filterMap_cons]

theorem declarations_sectioned (isName : Marker.IsName marker)
    (listing : SectionedListing marker) :
    Source.declarations marker listing.text = listing.texts.filterMap SectionedText.reported := by
  have start := isName.passes_of_inert (inert_filler listing.start)
  rw [declarations_eq, strip_sectioned isName, SectionedListing.text, declared, start, ← declared,
    declared_sectioned isName]

theorem declarations_plain (isName : Marker.IsName marker) (listing : SectionedListing marker) :
    Source.declarations marker listing.plain.text =
      listing.texts.map fun text => text.shape.declaration := by
  have start := isName.passes_of_inert (inert_filler listing.start)
  rw [declarations_eq, strip_text isName, Listing.text, declared]
  rw [SectionedListing.plain, start, filterMap_rests isName, List.map_map]
  rfl

/-! ### Transparent sections -/

theorem filterMap_eq_map_iff {α β : Type} {items : List α} {some? : α → Option β} {each : α → β} :
    items.filterMap some? = items.map each ↔ ∀ item ∈ items, some? item = some (each item) := by
  induction items with
  | nil => simp
  | cons first rest inductionHypothesis =>
    rw [List.filterMap_cons, List.map_cons, List.forall_mem_cons]
    cases read : some? first with
    | some found => simp [inductionHypothesis]
    | none =>
      have short : rest.filterMap some? ≠ each first :: rest.map each := by
        intro same
        have bound := List.length_filterMap_le some? rest
        rw [same, List.length_cons, List.length_map] at bound
        omega
      simp [short]

theorem sectionedDeclaration_eq_iff {shape : ShapeText} {entries : List (EntryText marker)}
    (same : entries.map EntryText.value = shape.values) :
    shape.sectionedDeclaration entries = shape.declaration ↔
      entries.flatMap EntryText.values = entries.map fun entry => entry.value.name.text := by
  cases shape with
  | enumeration shape =>
    have names : (shape.values.map fun value => value.name.text) =
        entries.map fun entry => entry.value.name.text := by
      rw [← show entries.map EntryText.value = shape.values from same, List.map_map]
      rfl
    simp [ShapeText.sectionedDeclaration, ShapeText.declaration, EnumerationText.declaration,
      names]
  | object shape =>
    have noEntries : entries = [] := List.map_eq_nil_iff.mp same
    simp [ShapeText.sectionedDeclaration, ShapeText.declaration, noEntries]

theorem reported_eq_iff (text : SectionedText marker) :
    text.reported = some text.shape.declaration ↔ text.IsTransparent := by
  rw [SectionedText.reported, SectionedText.IsTransparent, ← sectionedDeclaration_eq_iff text.same]
  split
  · next flat => rw [Option.some_inj, and_iff_right flat]
  · next bracketed => simp [bracketed]

/-- Sections without brackets are transparent, if there is one attribute in each of those that stand
in front of values. -/
theorem isTransparent_of_isPlain {text : SectionedText marker} (plain : text.IsPlain) :
    text.IsTransparent := by
  refine ⟨plain.1, ?_⟩
  rw [← List.flatMap_singleton' (text.entries.map _), List.flatMap_map]
  refine List.flatMap_congr fun entry isEntry => ?_
  have ofEntry := plain.2 entry isEntry
  have nothing : entry.sections.flatMap SectionText.lookalikes = [] :=
    List.flatMap_eq_nil_iff.mpr fun part isPart => part.lookalikes_of_single (ofEntry part isPart).1
  rw [EntryText.values, nothing, if_pos ofEntry, List.nil_append]

/-- Each declaration is reported without the values that sections hide and with the attributes that
are taken for values, unless a section hides all of it. So the sections change nothing if and only
if none behind a marker holds brackets and those in front of values leave the values as they are. -/
theorem declarations_behind_sections (isName : Marker.IsName marker)
    (listing : SectionedListing marker) :
    Source.declarations marker listing.text = listing.texts.filterMap SectionedText.reported ∧
      (Source.declarations marker listing.text = Source.declarations marker listing.plain.text ↔
        ∀ text ∈ listing.texts, text.IsTransparent) := by
  refine ⟨declarations_sectioned isName listing, ?_⟩
  rw [declarations_sectioned isName, declarations_plain isName, filterMap_eq_map_iff]
  exact forall₂_congr fun text _ => reported_eq_iff text

/-- A section of attributes without arguments, none of which spells a marker. -/
def wordsSection (first : List Char) (others : List (List Char))
    (commaFree : ∀ part ∈ first :: others, ',' ∉ part)
    (plain : ∀ sign ∈ ['(', ')', '=', '[', ']', '{', '}', '/', 'T'],
      sign ∉ join [','] (first :: others)) : SectionText "TypeSharp".toList where
  spacing := noSpacing
  first := first
  others := others
  rounded := by
    intro part isPart
    have absent {sign : Char} (isSign : sign ∈ ['(', ')', '=', '[', ']', '{', '}', '/', 'T'])
        (inside : sign ∈ part) : False :=
      plain sign isSign (mem_join_of_mem [','] isPart inside)
    refine Bracket.balanced_of_forall fun c inside => ⟨⟨?_, ?_⟩, ?_, ?_⟩ <;> rintro rfl
    · exact commaFree part isPart inside
    · exact absent (by decide) inside
    · exact absent (by decide) inside
    · exact absent (by decide) inside
  squared := Bracket.balanced_of_not_mem (plain '[' (by decide)) (plain ']' (by decide))
  curled := Bracket.balanced_of_not_mem (plain '{' (by decide)) (plain '}' (by decide))
  isSealed := isSealed_of_not_mem (plain ']' (by decide))
  free := Comment.isFree_of_not_mem (by simp [plain '/' (by decide)])
  unmarked := by
    intro spelling inside
    have named : 'T' ∈ spelling.text := by
      rw [MarkerText.text, Marker.content_eq]
      simp
    have absent : 'T' ∉ '[' :: join [','] (first :: others) ++ [']'] := by
      simp [plain 'T' (by decide)]
    exact absent (inside.subset named)

/-- A value of one letter. -/
def firstValue : ValueText where
  before := noSpacing
  name := letter 'V' (by decide +kernel)
  after := noSpacing
  initialiser := none

/-- Another value of one letter, between blanks. -/
def secondValue : ValueText where
  before := oneSpacing
  name := letter 'W' (by decide +kernel)
  after := oneSpacing
  initialiser := none

/-- An enumeration of both. -/
def pairText : EnumerationText where
  publicGap := oneGap
  enumGap := oneGap
  name := letter 'E' (by decide +kernel)
  nameSpacing := oneSpacing
  bodySpacing := oneSpacing
  values := [firstValue, secondValue]

/-- The enumeration with two attributes behind its marker and one in front of its first value. -/
def flagsText : SectionedText "TypeSharp".toList where
  toMarkedText := { plainMarked with shape := .enumeration pairText }
  sections := [wordsSection "Obsolete".toList [" Flags".toList] (by decide) (by decide)]
  entries := [⟨[wordsSection "Obsolete".toList [] (by decide) (by decide)], firstValue⟩,
    ⟨[], secondValue⟩]
  same := rfl

theorem declarations_behind_flags : Marker.IsName "TypeSharp".toList ∧
    Source.declarations "TypeSharp".toList
      "[TypeSharp][Obsolete, Flags] public enum E \x7b [Obsolete]V, W \x7d".toList =
        [⟨"E".toList, .enumeration ["V".toList, "W".toList]⟩] ∧
    Source.declarations "TypeSharp".toList
      "[TypeSharp][Obsolete, Flags] public enum E \x7b [Obsolete]V, W \x7d".toList =
        Source.declarations "TypeSharp".toList
          "[TypeSharp] public enum E \x7b V, W \x7d".toList := by
  have isName : Marker.IsName "TypeSharp".toList :=
    Marker.isName_of_isIdentifier (by decide +kernel)
  obtain ⟨read, unchanged⟩ := declarations_behind_sections isName
    ⟨⟨[], List.not_mem_nil, List.not_mem_nil⟩, [flagsText]⟩
  refine ⟨isName, (congrArg _ ?_).trans (read.trans ?_), (congrArg _ ?_).trans
    ((unchanged.mpr (List.forall_mem_singleton.mpr ?_)).trans (congrArg _ ?_))⟩
  · decide +kernel
  · decide +kernel
  · decide +kernel
  · exact isTransparent_of_isPlain (by decide)
  · decide +kernel

/-- What sections change: one with brackets hides the declaration behind it, one with two attributes
hides the value behind it, and one with three adds a value besides. -/
theorem declarations_changed_by_sections :
    Source.declarations "TypeSharp".toList
        "[TypeSharp] [KnownType(typeof(Foo[]))] public class A \x7b \x7d".toList = [] ∧
    Source.declarations "TypeSharp".toList "[TypeSharp] public class A \x7b \x7d".toList =
      [⟨"A".toList, .object ⟨[], none, [], []⟩⟩] ∧
    Source.declarations "TypeSharp".toList
        "[TypeSharp] public enum E \x7b [Obsolete, Flags] First, Second \x7d".toList =
      [⟨"E".toList, .enumeration ["Second".toList]⟩] ∧
    Source.declarations "TypeSharp".toList
        "[TypeSharp] public enum E \x7b First, Second \x7d".toList =
      [⟨"E".toList, .enumeration ["First".toList, "Second".toList]⟩] ∧
    Source.declarations "TypeSharp".toList
        "[TypeSharp] public enum E \x7b [A, B, C] First \x7d".toList =
      [⟨"E".toList, .enumeration ["B".toList]⟩] ∧
    Source.declarations "TypeSharp".toList "[TypeSharp] public enum E \x7b First \x7d".toList =
      [⟨"E".toList, .enumeration ["First".toList]⟩] := by
  decide +kernel

end SharpTypes.Source.Listing

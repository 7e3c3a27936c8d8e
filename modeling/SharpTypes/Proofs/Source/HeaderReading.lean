/-
Headers are read as they are laid out. Attributes and modifiers are passed over as far as they go,
the name of a declaration is the whole word behind its keyword, and lists in angle brackets are cut
where they were put together.
-/

import Mathlib.Tactic.Common
import SharpTypes.Proofs.Source.Keyword
import SharpTypes.Proofs.Source.TypeText

namespace SharpTypes.Source.Header

open Text Listing

variable {marker : List Char}

/-! ### Attributes -/

/-- One attribute section goes up to the next closing bracket. -/
theorem afterAttribute?_eq_some_iff {text rest : List Char} :
    afterAttribute? text = some rest ↔ ∃ blank inside, Blank blank ∧ ']' ∉ inside ∧
      text = blank ++ '[' :: (inside ++ ']' :: rest) := by
  constructor
  · intro found
    obtain ⟨blank, isBlanks, same⟩ := exists_blank_append_trimStart text
    unfold afterAttribute? at found
    split at found
    · next inside opened =>
      split at found
      · next c later closed =>
        obtain rfl := Option.some.inj found
        have stop := List.head?_dropWhile_not (fun c => decide (c ≠ ']')) inside
        have cut := List.takeWhile_append_dropWhile (p := fun c => decide (c ≠ ']')) (l := inside)
        rw [closed] at stop cut
        obtain rfl : c = ']' := by simpa using stop
        refine ⟨blank, inside.takeWhile fun c => decide (c ≠ ']'), isBlanks, fun member => ?_, ?_⟩
        · simpa using List.mem_takeWhile_imp member
        · rw [cut, ← opened]
          exact same
      · cases found
    · cases found
  · rintro ⟨blank, inside, isBlanks, closingFree, rfl⟩
    have opened := trimStart_append_of_stops isBlanks
      (stops_cons (c := '[') (by decide) (inside ++ ']' :: rest))
    have closed := dropWhile_ne_append closingFree rest
    rw [afterAttribute?, opened]
    simp only [closed]

theorem afterAttribute?_append (text : AttributeText marker) (rest : List Char) :
    afterAttribute? (text.text ++ rest) = some rest :=
  afterAttribute?_eq_some_iff.mpr ⟨text.spacing.text, text.content, text.spacing.blank,
    text.plain ']' (by decide), by simp [AttributeText.text]⟩

theorem afterAttribute?_trimStart (text : List Char) :
    afterAttribute? (trimStart text) = afterAttribute? text := by
  rw [afterAttribute?, afterAttribute?, trimStart_trimStart]

/-- Blanks at the end of a text do not close a section. -/
theorem afterAttribute?_append_blank (text : List Char) {blank : List Char}
    (isBlanks : Blank blank) :
    afterAttribute? (text ++ blank) = (afterAttribute? text).map (· ++ blank) := by
  cases read : afterAttribute? text with
  | some rest =>
    obtain ⟨front, inside, isFront, closingFree, rfl⟩ := afterAttribute?_eq_some_iff.mp read
    exact afterAttribute?_eq_some_iff.mpr ⟨front, inside, isFront, closingFree, by simp⟩
  | none =>
    rw [Option.map_none, Option.eq_none_iff_forall_not_mem]
    intro rest found
    obtain ⟨front, inside, isFront, closingFree, same⟩ := afterAttribute?_eq_some_iff.mp found
    have unclosed : ']' ∉ blank := not_mem_of_blank isBlanks (by decide)
    rw [← List.cons_append, ← List.append_assoc] at same
    rcases List.append_eq_append_iff.mp same with ⟨others, -, rfl⟩ | ⟨others, rfl, closed⟩
    · exact unclosed (by simp)
    · cases others with
      | nil =>
        obtain rfl : ']' :: rest = blank := closed
        exact unclosed List.mem_cons_self
      | cons c others =>
        obtain ⟨rfl, -⟩ := List.cons.inj closed
        have closes : afterAttribute? (front ++ '[' :: inside ++ ']' :: others) = some others :=
          afterAttribute?_eq_some_iff.mpr ⟨front, inside, isFront, closingFree, by simp⟩
        rw [read] at closes
        cases closes

theorem afterAttributes_of_some {text rest : List Char} (found : afterAttribute? text = some rest) :
    afterAttributes text = afterAttributes rest := by
  conv_lhs => rw [afterAttributes]
  split
  · next other foundToo =>
    rw [found] at foundToo
    rw [Option.some.inj foundToo]
  · next missing =>
    rw [found] at missing
    cases missing

theorem afterAttributes_of_none {text : List Char} (missing : afterAttribute? text = none) :
    afterAttributes text = text := by
  rw [afterAttributes]
  split
  · next found =>
    rw [missing] at found
    cases found
  · rfl

theorem trimStart_afterAttributes_trimStart (text : List Char) :
    trimStart (afterAttributes (trimStart text)) = trimStart (afterAttributes text) := by
  cases read : afterAttribute? text with
  | none =>
    rw [afterAttributes_of_none read, afterAttributes_of_none
      ((afterAttribute?_trimStart text).trans read), trimStart_trimStart]
  | some rest =>
    rw [afterAttributes_of_some read, afterAttributes_of_some
      ((afterAttribute?_trimStart text).trans read)]

theorem afterAttributes_append_blank (text : List Char) {blank : List Char}
    (isBlanks : Blank blank) : afterAttributes (text ++ blank) = afterAttributes text ++ blank := by
  fun_induction afterAttributes text with
  | case1 text rest read inductionHypothesis =>
    rw [afterAttributes_of_some (by rw [afterAttribute?_append_blank text isBlanks, read,
      Option.map_some]), inductionHypothesis]
  | case2 text read =>
    rw [afterAttributes_of_none]
    rw [afterAttribute?_append_blank text isBlanks, read, Option.map_none]

/-- The text is made of attributes, and all of it is passed over. -/
def IsAttributes (front : List Char) : Prop :=
  ∀ rest, afterAttributes (front ++ rest) = afterAttributes rest

theorem isAttributes_nil : IsAttributes [] := fun _ => rfl

theorem IsAttributes.append {left right : List Char} (isLeft : IsAttributes left)
    (isRight : IsAttributes right) : IsAttributes (left ++ right) := by
  intro rest
  rw [List.append_assoc, isLeft, isRight]

theorem isAttributes_attribute (text : AttributeText marker) : IsAttributes text.text :=
  fun rest => afterAttributes_of_some (afterAttribute?_append text rest)

theorem isAttributes_flatMap {α : Type} {items : List α} {text : α → List Char}
    (each : ∀ item ∈ items, IsAttributes (text item)) : IsAttributes (items.flatMap text) := by
  induction items with
  | nil => exact isAttributes_nil
  | cons first rest inductionHypothesis =>
    obtain ⟨ofFirst, ofRest⟩ := List.forall_mem_cons.mp each
    rw [List.flatMap_cons]
    exact ofFirst.append (inductionHypothesis ofRest)

theorem isAttributes_attributes (attributes : List (AttributeText marker)) :
    IsAttributes (attributes.flatMap AttributeText.text) :=
  isAttributes_flatMap fun text _ => isAttributes_attribute text

theorem afterAttribute?_eq_none {blank rest : List Char} {c : Char} (isBlanks : Blank blank)
    (notBlank : isBlank c = false) (notOpening : c ≠ '[') :
    afterAttribute? (blank ++ c :: rest) = none := by
  rw [afterAttribute?, trimStart_append_of_stops isBlanks (stops_cons notBlank rest)]
  split
  · next same => exact absurd (List.cons.inj same).1 notOpening
  · rfl

/-- Attributes and the keyword `public` are passed over. -/
theorem afterPublic?_append {front : List Char} (isAttributes : IsAttributes front)
    (spacing : Spacing) (gap : Gap) {rest : List Char} (stops : Stops isBlank rest) :
    afterPublic? (front ++ (spacing.text ++ ("public".toList ++ gap.text ++ rest))) =
      some rest := by
  have missing : afterAttribute? (spacing.text ++ ("public".toList ++ gap.text ++ rest)) = none :=
    afterAttribute?_eq_none spacing.blank (by decide) (by decide)
  have opened : Stops isBlank ("public".toList ++ gap.text ++ rest) := stops_cons (by decide) _
  rw [afterPublic?, isAttributes, afterAttributes_of_none missing,
    trimStart_append_of_stops spacing.blank opened,
    afterKeyword?_append _ gap.blank gap.notEmpty stops]

/-! ### Modifiers and names -/

theorem isWordText_of_mem_classModifiers :
    ∀ modifier ∈ classModifiers, modifier ≠ [] ∧ IsWordText modifier := by
  decide +kernel

theorem class_not_mem_classModifiers : "class".toList ∉ classModifiers := by
  decide

theorem isWordText_class : IsWordText "class".toList := by
  decide +kernel

theorem isWordText_enum : IsWordText "enum".toList := by
  decide +kernel

theorem afterClassModifiers_of_some {text rest : List Char}
    (found : (classModifiers.findSome? fun modifier => afterKeyword? modifier text) = some rest) :
    afterClassModifiers text = afterClassModifiers rest := by
  conv_lhs => rw [afterClassModifiers]
  split
  · next other foundToo =>
    rw [found] at foundToo
    rw [Option.some.inj foundToo]
  · next missing =>
    rw [found] at missing
    cases missing

theorem afterClassModifiers_of_none {text : List Char}
    (missing : (classModifiers.findSome? fun modifier => afterKeyword? modifier text) = none) :
    afterClassModifiers text = text := by
  rw [afterClassModifiers]
  split
  · next found =>
    rw [missing] at found
    cases found
  · rfl

/-- All modifiers of a class are passed over. -/
theorem afterClassModifiers_append (modifiers : List (ModifierText classModifiers))
    {rest : List Char} (stops : Stops isWord rest) :
    afterClassModifiers (modifiers.flatMap ModifierText.text ++ ("class".toList ++ rest)) =
      "class".toList ++ rest := by
  have words : ∀ modifier ∈ classModifiers, IsWordText modifier := fun modifier known =>
    (isWordText_of_mem_classModifiers modifier known).2
  induction modifiers with
  | nil =>
    have missing := findSome?_afterKeyword?_eq_none words (fun _ rest => rest) isWordText_class
      stops class_not_mem_classModifiers
    simp only [Option.map_id'] at missing
    exact afterClassModifiers_of_none missing
  | cons modifier others inductionHypothesis =>
    have stopsBlank : Stops isBlank
        (others.flatMap ModifierText.text ++ ("class".toList ++ rest)) :=
      stops_modifiers isWordText_of_mem_classModifiers others (stops_cons (by decide) _)
    have found := findSome?_afterKeyword? words (fun _ rest => rest) modifier.known
      modifier.gap.blank modifier.gap.notEmpty stopsBlank
    simp only [Option.map_id'] at found
    rw [List.flatMap_cons, List.append_assoc, ModifierText.text, afterClassModifiers_of_some found,
      inductionHypothesis]

/-- The name of an enumeration is read, whatever stands behind it. -/
theorem enumeration?_append {front : List Char} (isAttributes : IsAttributes front)
    (spacing : Spacing) (text : EnumerationText) {behind : List Char}
    (stops : Stops isWord behind) :
    enumeration? (front ++ (spacing.text ++ ("public".toList ++ text.publicGap.text ++
      ("enum".toList ++ text.enumGap.text ++ (text.name.text ++ behind))))) =
      some (text.name.text, behind) := by
  have opened : Stops isBlank ("enum".toList ++ text.enumGap.text ++ (text.name.text ++ behind)) :=
    stops_cons (by decide) _
  rw [enumeration?, afterPublic?_append isAttributes spacing text.publicGap opened,
    Option.bind_some, afterKeyword?_append _ text.enumGap.blank text.enumGap.notEmpty
      (text.name.stops_isBlank behind), Option.bind_some, text.name.word?_append stops]

/-- An enumeration is no class. -/
theorem object?_enumeration {front : List Char} (isAttributes : IsAttributes front)
    (spacing : Spacing) (text : EnumerationText) (behind : List Char) :
    object? (front ++ (spacing.text ++ ("public".toList ++ text.publicGap.text ++
      ("enum".toList ++ text.enumGap.text ++ (text.name.text ++ behind))))) = none := by
  have opened : Stops isBlank ("enum".toList ++ text.enumGap.text ++ (text.name.text ++ behind)) :=
    stops_cons (by decide) _
  have stops := stops_gap_append text.enumGap.blank text.enumGap.notEmpty (text.name.text ++ behind)
  have noModifier := findSome?_afterKeyword?_eq_none
    (fun modifier known => (isWordText_of_mem_classModifiers modifier known).2)
    (fun _ rest => rest) isWordText_enum stops (by decide)
  simp only [Option.map_id'] at noModifier
  rw [object?, afterPublic?_append isAttributes spacing text.publicGap opened, Option.bind_some,
    List.append_assoc, afterClassModifiers_of_none noModifier,
    afterKeyword?_eq_none isWordText_class isWordText_enum stops (by decide)]
  rfl

/-- The text behind `public` in a class. -/
def classText (text : ClassText) (behind : List Char) : List Char :=
  text.modifiers.flatMap ModifierText.text ++
    ("class".toList ++ (text.classGap.text ++ (text.name.text ++ behind)))

theorem stops_isBlank_classText (text : ClassText) (behind : List Char) :
    Stops isBlank (classText text behind) :=
  stops_modifiers isWordText_of_mem_classModifiers text.modifiers (stops_cons (by decide) _)

/-- The name of a class is read, whatever stands behind it. -/
theorem object?_append {front : List Char} (isAttributes : IsAttributes front) (spacing : Spacing)
    (text : ClassText) {behind : List Char} (stops : Stops isWord behind) :
    object? (front ++ (spacing.text ++
      ("public".toList ++ text.publicGap.text ++ classText text behind))) =
      some (text.name.text, behind) := by
  have gapStops := stops_gap_append text.classGap.blank text.classGap.notEmpty
    (text.name.text ++ behind)
  rw [object?, afterPublic?_append isAttributes spacing text.publicGap
    (stops_isBlank_classText text behind), Option.bind_some, classText,
    afterClassModifiers_append text.modifiers gapStops, ← List.append_assoc,
    afterKeyword?_append _ text.classGap.blank text.classGap.notEmpty
      (text.name.stops_isBlank behind),
    Option.bind_some, text.name.word?_append stops]

/-- A class is no enumeration. -/
theorem enumeration?_class {front : List Char} (isAttributes : IsAttributes front)
    (spacing : Spacing) (text : ClassText) (behind : List Char) :
    enumeration? (front ++ (spacing.text ++
      ("public".toList ++ text.publicGap.text ++ classText text behind))) = none := by
  have noEnum : afterKeyword? "enum".toList (classText text behind) = none := by
    rw [classText]
    cases text.modifiers with
    | nil =>
      rw [List.flatMap_nil, List.nil_append]
      exact afterKeyword?_eq_none isWordText_enum isWordText_class
        (stops_gap_append text.classGap.blank text.classGap.notEmpty _) (by decide)
    | cons modifier others =>
      have unknown : ∀ word ∈ classModifiers, "enum".toList ≠ word := by decide
      rw [List.flatMap_cons, ModifierText.text, List.append_assoc, List.append_assoc]
      exact afterKeyword?_eq_none isWordText_enum
        (isWordText_of_mem_classModifiers modifier.word modifier.known).2
        (stops_gap_append modifier.gap.blank modifier.gap.notEmpty _)
        (unknown modifier.word modifier.known)
  rw [enumeration?, afterPublic?_append isAttributes spacing text.publicGap
    (stops_isBlank_classText text behind), Option.bind_some, noEnum]
  rfl

/-! ### Lists in angle brackets -/

theorem genericList_of_ne {text : List Char} (notOpening : text.head? ≠ some '<') :
    genericList text = ([], text) := by
  rw [genericList, genericList?]
  cases text with
  | nil => rfl
  | cons c rest =>
    have different : c ≠ Bracket.angle.opening := fun same => notOpening (congrArg some same)
    rw [Bracket.enclosed?, if_neg different]
    rfl

/-- A list in angle brackets is cut where it was put together. -/
theorem genericList_angled {texts : List (List Char)} (notEmpty : texts ≠ [])
    (balanced : ∀ text ∈ texts, Bracket.angle.Balanced (· ≠ ',') text)
    (inked : ∀ text ∈ texts, Inked text) (rest : List Char) :
    genericList (angled texts ++ rest) = (texts.map trim, rest) := by
  have closed : Bracket.angle.enclosed? (angled texts ++ rest) =
      Option.some (join [','] texts, rest) := by
    rw [angled, List.append_assoc]
    exact Bracket.enclosed?_of_balanced (by decide) (balanced_join balanced) rest
  have cut : typeArguments (join [','] texts) = texts.map trim := by
    refine Bracket.split_join (by decide) (by decide) (by decide) balanced ?_
    obtain ⟨first, others, rfl⟩ := List.exists_cons_of_ne_nil notEmpty
    obtain ⟨c, inside, notBlank⟩ := inked first List.mem_cons_self
    exact ⟨c, mem_join_of_mem [','] List.mem_cons_self inside, notBlank⟩
  have kept : (texts.map trim).filter (fun part => !part.isEmpty) = texts.map trim := by
    refine List.filter_eq_self.mpr fun part member => ?_
    obtain ⟨text, isText, rfl⟩ := List.mem_map.mp member
    rw [Bool.not_eq_true', List.isEmpty_eq_false_iff]
    exact trim_ne_nil (inked text isText)
  rw [genericList, genericList?, closed, Option.map_some, Option.getD_some]
  dsimp only
  rw [cut, kept]

theorem balanced_parameter (parameter : ParameterText) :
    Bracket.angle.Balanced (· ≠ ',') parameter.text := by
  refine Bracket.balanced_of_forall fun c member => ⟨?_, ?_, ?_⟩ <;> rintro rfl <;>
    exact parameter.name.not_mem_padded parameter.before.blank parameter.after.blank (by decide)
      (by decide) member

theorem trim_parameters (parameters : List ParameterText) :
    (parameters.map ParameterText.text).map trim =
      parameters.map fun parameter => parameter.name.text := by
  rw [List.map_map]
  exact List.map_congr_left fun parameter _ =>
    parameter.name.trim_padded parameter.before.blank parameter.after.blank

/-! ### What ends a signature -/

/-- What stands behind a signature does not go on with it: no name, no list in angle brackets and no
base type does. -/
structure Ends (behind : List Char) : Prop where
  name : Stops (fun c => isWord c || c == '.') behind
  mark : Stops (fun c => c == '<' || c == ':') (trimStart behind)

theorem ends_cons {c : Char} (notBlank : isBlank c = false)
    (noName : (isWord c || c == '.') = false) (noMark : (c == '<' || c == ':') = false)
    (rest : List Char) : Ends (c :: rest) :=
  ⟨stops_cons noName rest, by rw [trimStart_cons notBlank]; exact stops_cons noMark rest⟩

theorem ends_brace (rest : List Char) : Ends ('{' :: rest) :=
  ends_cons (by decide) (by decide +kernel) (by decide) rest

theorem Ends.stops_isWord {behind : List Char} (ends : Ends behind) : Stops isWord behind :=
  fun c first => (Bool.or_eq_false_iff.mp (ends.name c first)).1

theorem Ends.head?_ne {behind : List Char} (ends : Ends behind) :
    (trimStart behind).head? ≠ some '<' ∧ (trimStart behind).head? ≠ some ':' := by
  constructor <;> intro first <;> exact absurd (ends.mark _ first) (by decide)

/-- The text of the base type of a class, if it has one. -/
def baseText (text : ClassText) : List Char :=
  (text.base.map BaseText.text).getD []

theorem trimStart_baseText (base : BaseText) (rest : List Char) :
    trimStart (base.text ++ rest) = base.text ++ rest :=
  trimStart_cons (by decide) _

theorem head?_baseText (text : ClassText) {behind : List Char} (ends : Ends behind) :
    (trimStart (baseText text ++ behind)).head? ≠ some '<' := by
  unfold baseText
  cases text.base with
  | none => exact ends.head?_ne.1
  | some base =>
    rw [Option.map_some, Option.getD_some, trimStart_baseText]
    exact fun same => absurd (Option.some.inj same) (by decide)

/-- Behind the name of a class its type parameters are read, and left is its base type. -/
theorem genericList_signature (text : ClassText) {behind : List Char} (ends : Ends behind) :
    ∃ left, genericList (trimStart (text.signature ++ behind)) =
        (text.parameters.map fun parameter => parameter.name.text, left) ∧
      trimStart left = trimStart (baseText text ++ behind) := by
  by_cases noParameters : text.parameters = []
  · have split : text.signature ++ behind = text.nameSpacing.text ++
        text.parametersSpacing.text ++ (baseText text ++ behind) := by
      simp [ClassText.signature, noParameters, baseText]
    have blank : Blank (text.nameSpacing.text ++ text.parametersSpacing.text) :=
      List.forall_mem_append.mpr ⟨text.nameSpacing.blank, text.parametersSpacing.blank⟩
    refine ⟨trimStart (baseText text ++ behind), ?_, trimStart_trimStart _⟩
    rw [split, trimStart_blank_append blank, genericList_of_ne (head?_baseText text ends),
      noParameters]
    rfl
  · have split : text.signature ++ behind = text.nameSpacing.text ++
        (angled (text.parameters.map ParameterText.text) ++ (text.parametersSpacing.text ++
          (baseText text ++ behind))) := by
      simp [ClassText.signature, noParameters, baseText]
    have opened : Stops isBlank (angled (text.parameters.map ParameterText.text) ++
        (text.parametersSpacing.text ++ (baseText text ++ behind))) :=
      stops_cons (by decide) _
    refine ⟨text.parametersSpacing.text ++ (baseText text ++ behind), ?_,
      trimStart_blank_append text.parametersSpacing.blank _⟩
    rw [split, trimStart_append_of_stops text.nameSpacing.blank opened, genericList_angled,
      trim_parameters]
    · simpa using noParameters
    · intro part member
      obtain ⟨parameter, _, rfl⟩ := List.mem_map.mp member
      exact balanced_parameter parameter
    · intro part member
      obtain ⟨parameter, _, rfl⟩ := List.mem_map.mp member
      exact parameter.name.inked_padded _ _

/-! ### Base types -/

theorem exists_name_eq_cons (base : BaseText) :
    ∃ (first : Identifier) (later : List Char), base.name = first.first :: later := by
  rw [BaseText.name]
  cases base.qualifiers with
  | nil => exact ⟨base.last, _, join_singleton _ _⟩
  | cons first others =>
    cases others with
    | nil => exact ⟨first, _, join_cons_cons ..⟩
    | cons second more => exact ⟨first, _, join_cons_cons ..⟩

theorem stops_isBlank_baseName (base : BaseText) (rest : List Char) :
    Stops isBlank (base.name ++ rest) := by
  obtain ⟨first, later, same⟩ := exists_name_eq_cons base
  rw [same]
  exact stops_cons (first.stops_isBlank [] _ rfl) _

/-- A qualified name is read up to a character that belongs to no name. -/
theorem qualifiedName?_append (base : BaseText) {rest : List Char}
    (stops : Stops (fun c => isWord c || c == '.') rest) :
    qualifiedName? (base.name ++ rest) = some (base.name, rest) := by
  have inside : ∀ c ∈ base.name, (isWord c || c == '.') = true := by
    intro c member
    rcases mem_join member with dot | ⟨text, isText, isInside⟩
    · rw [List.mem_singleton.mp dot]
      decide
    · obtain ⟨identifier, _, rfl⟩ := List.mem_map.mp isText
      rw [identifier.isWord_of_mem isInside]
      rfl
  obtain ⟨first, later, same⟩ := exists_name_eq_cons base
  rw [same] at inside ⊢
  have insideLater := (List.forall_mem_cons.mp inside).2
  rw [List.cons_append, qualifiedName?, if_pos first.start]
  dsimp only
  rw [takeWhile_append_of_stops insideLater stops, dropWhile_append_of_stops insideLater stops]

theorem stops_qualified {blank rest : List Char} (isBlanks : Blank blank)
    (stops : Stops (fun c => isWord c || c == '.') rest) :
    Stops (fun c => isWord c || c == '.') (blank ++ rest) := by
  cases blank with
  | nil => exact stops
  | cons first later =>
    refine stops_cons ?_ _
    have blankFirst := isBlanks first List.mem_cons_self
    have notDot : first ≠ '.' := by
      rintro rfl
      revert blankFirst
      decide
    simp [isWord_of_isBlank blankFirst, notDot]

/-- A colon and a qualified name introduce a base type. -/
theorem baseType_append (base : BaseText) {behind : List Char}
    (stops : Stops (fun c => isWord c || c == '.') behind) :
    baseType (':' :: (base.colonSpacing.text ++ (base.name ++ behind))) =
      (some ⟨base.name, (genericList (trimStart behind)).1⟩,
        (genericList (trimStart behind)).2) := by
  rw [baseType, trimStart_append_of_stops base.colonSpacing.blank
    (stops_isBlank_baseName base behind), qualifiedName?_append base stops]

theorem baseType_of_ne {text : List Char} (noColon : text.head? ≠ some ':') :
    baseType text = (none, text) := by
  unfold baseType
  split
  · exact absurd rfl noColon
  · rfl

/-- The base type of a class is read, and left is what stands behind, less the blanks there. -/
theorem baseType_baseText (text : ClassText) {behind : List Char} (ends : Ends behind) :
    ∃ left, baseType (trimStart (baseText text ++ behind)) =
        (text.base.map fun base => ⟨base.name, base.argumentTexts.map trim⟩, left) ∧
      trimStart left = trimStart behind := by
  unfold baseText
  cases text.base with
  | none => exact ⟨trimStart behind, baseType_of_ne ends.head?_ne.2, trimStart_trimStart behind⟩
  | some base =>
    simp only [Option.map_some, Option.getD_some, trimStart_baseText]
    simp only [BaseText.text, BaseText.argumentTexts]
    cases given : base.arguments with
    | none =>
      have blank : Blank (base.nameSpacing.text ++ base.spacing.text) :=
        List.forall_mem_append.mpr ⟨base.nameSpacing.blank, base.spacing.blank⟩
      have read := baseType_append base (stops_qualified blank ends.name)
      refine ⟨trimStart behind, ?_, trimStart_trimStart behind⟩
      rw [trimStart_blank_append blank, genericList_of_ne ends.head?_ne.1] at read
      simpa using read
    | some list =>
      have opened : Stops isBlank (angled list.texts ++ (base.spacing.text ++ behind)) :=
        stops_cons (by decide) _
      have stops : Stops (fun c => isWord c || c == '.') (base.nameSpacing.text ++
          (angled list.texts ++ (base.spacing.text ++ behind))) :=
        stops_qualified base.nameSpacing.blank (stops_cons (by decide) _)
      have read := baseType_append base stops
      rw [trimStart_append_of_stops base.nameSpacing.blank opened,
        genericList_angled (TypeArguments.written_ne_nil list.written)
          (list.arguments.balanced_of_written list.written)
          (list.arguments.inked_of_written list.written)] at read
      exact ⟨base.spacing.text ++ behind, by simpa using read,
        trimStart_blank_append base.spacing.blank behind⟩

end SharpTypes.Source.Header

/-
Properties are read as they are laid out. Every modifier is taken as far as the keyword or the type,
the shortest type with a name and accessors behind it is the whole type, and nothing is read of the
blanks between properties.
-/

import Mathlib.Tactic.Common
import SharpTypes.Proofs.Source.Keyword
import SharpTypes.Proofs.Source.TypeText

namespace SharpTypes.Source.Property

open Text Listing

/-! ### Name and accessors -/

theorem afterToken?_append (token : List Char) {spacing rest : List Char} (blank : Blank spacing)
    (stops : Stops isBlank rest) : afterToken? token (token ++ spacing ++ rest) = some rest := by
  rw [afterToken?, List.append_assoc, dropStart?_append, Option.map_some,
    trimStart_append_of_stops blank stops]

theorem afterAccessors?_append (property : PropertyText) (rest : List Char) :
    afterAccessors? (property.accessors ++ rest) = some rest := by
  have settable : Stops isBlank ("set;".toList ++ property.setSpacing.text ++ '}' :: rest) :=
    stops_cons (by decide) _
  have gettable : Stops isBlank ("get;".toList ++ property.getSpacing.text ++
      ("set;".toList ++ property.setSpacing.text ++ '}' :: rest)) :=
    stops_cons (by decide) _
  have closed : Stops isBlank ('}' :: rest) := stops_cons (by decide) rest
  have split : property.accessors ++ rest = ['{'] ++ property.openSpacing.text ++
      ("get;".toList ++ property.getSpacing.text ++
        ("set;".toList ++ property.setSpacing.text ++ '}' :: rest)) := by
    simp [PropertyText.accessors]
  rw [afterAccessors?, split, afterToken?_append _ property.openSpacing.blank gettable,
    Option.bind_some, afterToken?_append _ property.getSpacing.blank settable, Option.bind_some,
    afterToken?_append _ property.setSpacing.blank closed, Option.bind_some]
  exact dropStart?_append ['}'] rest

theorem afterAccessors?_eq_none {text : List Char} (notOpening : text.head? ≠ some '{') :
    afterAccessors? text = none := by
  rw [afterAccessors?, afterToken?, dropStart?_eq_none_of_head rfl notOpening]
  rfl

/-- A text that starts with the name and the accessors of a property. -/
def nameText (property : PropertyText) (rest : List Char) : List Char :=
  property.name.text ++ (property.nameSpacing.text ++ (property.accessors ++ rest))

theorem stops_isBlank_accessors (property : PropertyText) (rest : List Char) :
    Stops isBlank (property.accessors ++ rest) :=
  stops_cons (by decide) _

theorem stops_isWord_behind_name (property : PropertyText) (rest : List Char) :
    Stops isWord (property.nameSpacing.text ++ (property.accessors ++ rest)) :=
  stops_blank_append property.nameSpacing.blank (stops_cons (by decide) _)

theorem nameAndAccessors?_gap (property : PropertyText) {gap : List Char} (blank : Blank gap)
    (notEmpty : gap ≠ []) (rest : List Char) :
    nameAndAccessors? (gap ++ nameText property rest) = Option.some (property.name.text, rest) := by
  obtain ⟨c, later, rfl⟩ := List.exists_cons_of_ne_nil notEmpty
  obtain ⟨blankFirst, blankLater⟩ := List.forall_mem_cons.mp blank
  rw [List.cons_append, nameAndAccessors?, if_pos blankFirst, nameText,
    trimStart_append_of_stops blankLater (property.name.stops_isBlank _),
    property.name.word?_append (stops_isWord_behind_name property rest), Option.bind_some,
    trimStart_append_of_stops property.nameSpacing.blank (stops_isBlank_accessors property rest),
    afterAccessors?_append, Option.map_some]

/-- Where anything stands before the name of a property, no accessors open before that name. -/
theorem afterAccessors?_before_name (property : PropertyText) {before : List Char}
    (unopened : '{' ∉ before) (rest : List Char) :
    afterAccessors? (trimStart (before ++ nameText property rest)) = none := by
  refine afterAccessors?_eq_none ?_
  have inked : Inked (before ++ property.name.text) :=
    (inked_cons (property.name.stops_isBlank [] _ rfl) _).append_right before
  rw [nameText, ← List.append_assoc, trimStart_append_of_inked inked]
  intro opening
  cases kept : trimStart (before ++ property.name.text) with
  | nil =>
    have nonempty := trim_ne_nil inked
    rw [trim, kept] at nonempty
    exact nonempty rfl
  | cons c later =>
    rw [kept] at opening
    obtain rfl : c = '{' := Option.some.inj opening
    have inside : '{' ∈ before ++ property.name.text := by
      refine (List.dropWhile_sublist (p := isBlank)).subset ?_
      rw [show (before ++ property.name.text).dropWhile isBlank = '{' :: later from kept]
      exact List.mem_cons_self
    exact (List.mem_append.mp inside).elim unopened (property.name.not_mem (by decide))

/-- In front of the last character of a type, no name and accessors follow. -/
theorem nameAndAccessors?_inside_type (property : PropertyText) {type gap : List Char}
    (isTypeText : IsTypeText type) (inked : Inked type) (blank : Blank gap) (notEmpty : gap ≠ [])
    (rest : List Char) : nameAndAccessors? (type ++ (gap ++ nameText property rest)) = none := by
  cases type with
  | nil =>
    obtain ⟨_, member, _⟩ := inked
    cases member
  | cons c later =>
    rw [List.cons_append, nameAndAccessors?]
    split
    · next blankFirst =>
      have inkedLater : Inked later := by
        obtain ⟨ink, member, notBlank⟩ := inked
        refine ⟨ink, (List.mem_cons.mp member).resolve_left ?_, notBlank⟩
        rintro rfl
        rw [blankFirst] at notBlank
        cases notBlank
      have unopened : '{' ∉ trimStart later ++ gap := by
        rw [List.mem_append]
        rintro (inType | inGap)
        · exact isTypeText.not_mem (c := '{') (by decide)
            (List.mem_cons_of_mem c ((List.dropWhile_sublist _).subset inType))
        · exact not_mem_of_blank blank (by decide) inGap
      rw [trimStart_append_of_inked inkedLater, ← List.append_assoc]
      -- The gap ends every word, so what follows the longest one still holds the name.
      have ended : (trimStart later ++ gap ++ nameText property rest).dropWhile isWord =
          (trimStart later ++ gap).dropWhile isWord ++ nameText property rest := by
        rw [List.dropWhile_append, if_neg]
        rw [List.isEmpty_iff, List.dropWhile_eq_nil_iff]
        intro allWord
        obtain ⟨space, member⟩ := List.exists_mem_of_ne_nil gap notEmpty
        have word := allWord space (List.mem_append_right _ member)
        rw [isWord_of_isBlank (blank space member)] at word
        cases word
      have noAccessors : afterAccessors? (trimStart
          ((trimStart later ++ gap).dropWhile isWord ++ nameText property rest)) = none :=
        afterAccessors?_before_name property
          (fun member => unopened ((List.dropWhile_sublist _).subset member)) rest
      unfold word?
      split
      · rfl
      · rw [Option.bind_some, ended, noAccessors]
        rfl
    · rfl

/-! ### Type -/

/-- The type that is read is the whole type. -/
theorem typeAndName?_append (property : PropertyText) {type gap : List Char} {last : Char}
    (isTypeText : IsTypeText (type ++ [last])) (notBlank : isBlank last = false) (blank : Blank gap)
    (notEmpty : gap ≠ []) (rest : List Char) :
    typeAndName? (type ++ [last] ++ (gap ++ nameText property rest)) =
      Option.some (type ++ [last], property.name.text, rest) := by
  induction type with
  | nil =>
    rw [List.nil_append, List.singleton_append, typeAndName?,
      if_pos (isTypeText last (List.mem_singleton_self _)),
      nameAndAccessors?_gap property blank notEmpty]
  | cons c later inductionHypothesis =>
    have typeCharacter : isTypeCharacter c = true := isTypeText c List.mem_cons_self
    have laterTypeText : IsTypeText (later ++ [last]) := fun other member =>
      isTypeText other (List.mem_cons_of_mem c member)
    have inked : Inked (later ++ [last]) := (inked_cons notBlank []).append_right later
    rw [List.cons_append, List.cons_append, typeAndName?, if_pos typeCharacter,
      nameAndAccessors?_inside_type property laterTypeText inked blank notEmpty]
    dsimp only
    rw [inductionHypothesis laterTypeText]
    rfl

/-! ### Modifiers -/

theorem isWordText_of_mem_modifiers :
    ∀ modifier ∈ modifiers, modifier ≠ [] ∧ IsWordText modifier := by
  decide +kernel

theorem public_not_mem_modifiers : "public".toList ∉ modifiers := by
  decide

/-- No modifier starts with another one. -/
theorem eq_of_prefix_of_mem_modifiers :
    ∀ modifier ∈ modifiers, ∀ other ∈ modifiers, other <+: modifier → other = modifier := by
  decide

theorem untilPublic?_of_modifier {passed : List (List Char)} {text modifier rest : List Char}
    (found : (modifiers.findSome? fun modifier =>
      (afterKeyword? modifier text).map fun rest => (modifier, rest)) = some (modifier, rest)) :
    untilPublic? passed text = untilPublic? (passed ++ [modifier]) rest := by
  conv_lhs => rw [untilPublic?]
  split
  · next other behind foundToo =>
    rw [found] at foundToo
    obtain ⟨rfl, rfl⟩ := Prod.mk.inj (Option.some.inj foundToo)
    rfl
  · next missing =>
    rw [found] at missing
    cases missing

theorem untilPublic?_of_none {passed : List (List Char)} {text : List Char}
    (missing : (modifiers.findSome? fun modifier =>
      (afterKeyword? modifier text).map fun rest => (modifier, rest)) = none) :
    untilPublic? passed text =
      (dropStart? "public".toList text).map fun rest => (passed, rest) := by
  rw [untilPublic?]
  split
  · next found =>
    rw [missing] at found
    cases found
  · rfl

/-- The modifiers before the keyword are taken, and the keyword. -/
theorem untilPublic?_append (passed : List (List Char)) (before : List (ModifierText modifiers))
    {rest : List Char} (stops : Stops isWord rest) :
    untilPublic? passed (before.flatMap ModifierText.text ++ ("public".toList ++ rest)) =
      some (passed ++ before.map ModifierText.word, rest) := by
  have words : ∀ modifier ∈ modifiers, IsWordText modifier := fun modifier known =>
    (isWordText_of_mem_modifiers modifier known).2
  induction before generalizing passed with
  | nil =>
    have publicWord : IsWordText "public".toList := by decide +kernel
    have noModifier := findSome?_afterKeyword?_eq_none words
      (fun modifier rest => (modifier, rest)) publicWord stops public_not_mem_modifiers
    rw [List.flatMap_nil, List.nil_append, untilPublic?_of_none noModifier, dropStart?_append,
      List.map_nil, List.append_nil]
    rfl
  | cons modifier others inductionHypothesis =>
    have stopsBlank : Stops isBlank
        (others.flatMap ModifierText.text ++ ("public".toList ++ rest)) :=
      stops_modifiers isWordText_of_mem_modifiers others (stops_cons (by decide) _)
    have found := findSome?_afterKeyword? words
      (fun modifier rest => (modifier, rest)) modifier.known modifier.gap.blank
      modifier.gap.notEmpty
      stopsBlank
    rw [List.flatMap_cons, List.append_assoc, ModifierText.text, untilPublic?_of_modifier found,
      inductionHypothesis, List.map_cons, List.append_assoc]
    rfl

theorem modifier?_append {modifier : List Char} (known : modifier ∈ modifiers)
    (rest : List Char) : modifier? (modifier ++ rest) = some (modifier, rest) := by
  refine findSome?_of_unique known ?_ ?_
  · rw [dropStart?_append]
    rfl
  · intro other isOther different
    rw [Option.map_eq_none_iff, Option.eq_none_iff_forall_not_mem]
    intro later found
    have otherPrefix : other <+: modifier ++ rest :=
      ⟨later, (dropStart?_eq_some_iff.mp found).symm⟩
    rcases List.prefix_or_prefix_of_prefix otherPrefix (List.prefix_append modifier rest) with
      inside | outside
    · exact different (eq_of_prefix_of_mem_modifiers modifier known other isOther inside)
    · exact different (eq_of_prefix_of_mem_modifiers other isOther modifier known outside).symm

/-- Without a blank the type does not start. -/
theorem starts_of_stops {passed : List (List Char)} {text : List Char}
    (stops : Stops isBlank text) : starts passed text = [] := by
  rw [starts, trimStart_of_stops stops]
  exact if_pos (Nat.sub_self _)

/-- Behind blanks, the type starts preferably behind a modifier, and else behind all blanks. -/
theorem exists_starts_gap (passed : List (List Char)) {gap text : List Char} (blank : Blank gap)
    (notEmpty : gap ≠ []) (stops : Stops isBlank text) :
    ∃ others, starts passed (gap ++ text) =
      (match modifier? text with
        | Option.some (modifier, rest) => starts (passed ++ [modifier]) rest
        | none => []) ++ ⟨passed, text⟩ :: others := by
  have blanks : (gap ++ text).length - text.length = gap.length := by simp
  obtain ⟨c, later, rfl⟩ := List.exists_cons_of_ne_nil notEmpty
  refine ⟨((List.range later.length).reverse.map fun fewer =>
    ⟨passed, (c :: later ++ text).drop (fewer + 1)⟩), ?_⟩
  conv_lhs => rw [starts]
  simp only [trimStart_append_of_stops blank stops, blanks, List.length_cons]
  rw [if_neg (Nat.succ_ne_zero _), List.range_succ, List.reverse_append, List.reverse_singleton,
    List.singleton_append, List.map_cons]
  congr 1
  · split
    · next found =>
      rw [trimStart_append_of_stops blank stops] at found
      rw [found]
    · next missing =>
      rw [trimStart_append_of_stops blank stops] at missing
      rw [missing]
  · simp

/-- In front of a proper name no modifier is left that blanks follow. -/
theorem starts_of_proper (passed : List (List Char)) {name : TypeName} (proper : IsProper name)
    {gap rest : List Char} (blank : Blank gap) (notEmpty : gap ≠ []) (stops : Stops isWord rest) :
    ∃ others, starts passed (gap ++ (name.text ++ rest)) =
      ⟨passed, name.text ++ rest⟩ :: others := by
  obtain ⟨⟨identifier, same⟩, notKeyword⟩ := proper
  have stopsBlank : Stops isBlank (name.text ++ rest) := by
    rw [same]
    exact identifier.stops_isBlank rest
  obtain ⟨others, listed⟩ := exists_starts_gap passed blank notEmpty stopsBlank
  refine ⟨others, ?_⟩
  rw [listed]
  split
  · next modifier behind found =>
    obtain ⟨candidate, isCandidate, holds⟩ := List.exists_of_findSome?_eq_some found
    obtain ⟨later, given, pairSame⟩ := Option.map_eq_some_iff.mp holds
    obtain ⟨rfl, rfl⟩ := Prod.mk.inj pairSame
    -- A modifier that ended here would be the name itself, which is no keyword.
    rw [starts_of_stops, List.nil_append]
    intro c first
    by_contra blankBehind
    have stopsBehind : Stops isWord later := by
      intro other member
      obtain rfl : c = other := Option.some.inj (first.symm.trans member)
      exact isWord_of_isBlank (by simpa using blankBehind)
    have isName : name.text = candidate := word_eq_of_append_eq
      (fun c member => identifier.isWord_of_mem (same ▸ member))
      (isWordText_of_mem_modifiers candidate isCandidate).2 stops stopsBehind
      (dropStart?_eq_some_iff.mp given)
    exact notKeyword (isName ▸ List.mem_append_left _ isCandidate)
  · rfl

/-- The preferred start of the type is behind all modifiers, and behind all blanks. -/
theorem starts_append (passed : List (List Char)) (after : List (ModifierText modifiers))
    {name : TypeName} (proper : IsProper name) {gap before rest : List Char} (blank : Blank gap)
    (notEmpty : gap ≠ []) (blankBefore : Blank before) (stops : Stops isWord rest) :
    ∃ others, starts passed
        (gap ++ (after.flatMap ModifierText.text ++ (before ++ (name.text ++ rest)))) =
      ⟨passed ++ after.map ModifierText.word, name.text ++ rest⟩ :: others := by
  induction after generalizing passed gap with
  | nil =>
    have blanks : Blank (gap ++ before) := List.forall_mem_append.mpr ⟨blank, blankBefore⟩
    obtain ⟨others, listed⟩ := starts_of_proper passed proper blanks
      (List.append_ne_nil_of_left_ne_nil notEmpty before) stops
    exact ⟨others, by simpa using listed⟩
  | cons modifier modifiersLeft inductionHypothesis =>
    have stopsAll : Stops isBlank ((modifier :: modifiersLeft).flatMap ModifierText.text ++
        (before ++ (name.text ++ rest))) := by
      rw [List.flatMap_cons, List.append_assoc]
      exact stops_modifier isWordText_of_mem_modifiers modifier _
    obtain ⟨others, listed⟩ := exists_starts_gap passed blank notEmpty stopsAll
    obtain ⟨deeper, listedDeeper⟩ := inductionHypothesis (passed ++ [modifier.word])
      modifier.gap.blank modifier.gap.notEmpty
    refine ⟨deeper ++ ⟨passed, (modifier :: modifiersLeft).flatMap ModifierText.text ++
      (before ++ (name.text ++ rest))⟩ :: others, ?_⟩
    rw [listed, List.flatMap_cons, ModifierText.text, List.append_assoc, List.append_assoc,
      modifier?_append modifier.known]
    dsimp only
    rw [listedDeeper, List.map_cons, List.append_assoc]
    rfl

/-! ### Whole properties -/

/-- What is read of a property. -/
def readingOf (property : PropertyText) : Written :=
  ⟨(property.before ++ property.after).map ModifierText.word, trim property.typeText,
    property.name.text⟩

/-- A property is read as it is laid out. -/
theorem property?_append (property : PropertyText) (rest : List Char) :
    property? (property.text ++ rest) = some (readingOf property, rest) := by
  have split : property.text ++ rest = property.before.flatMap ModifierText.text ++
      ("public".toList ++ (property.publicGap.text ++ (property.after.flatMap ModifierText.text ++
        (property.typeText ++ (property.typeGap.text ++ nameText property rest))))) := by
    simp only [PropertyText.text, nameText, List.append_assoc]
  have inked := property.type.inked_of_written property.written
  obtain ⟨front, last, typeSame, notBlank⟩ := exists_trim_eq_concat inked
  obtain ⟨trailing, blankTrailing, endSame⟩ :=
    exists_trimEnd_append_blank (trimStart property.typeText)
  -- The type text opens with a name; from that on, it is the trimmed type and blanks.
  obtain ⟨before, name, behind, blankBefore, proper, stops, opened⟩ :=
    (property.type.startsProper_of_written property.written property.proper).append
      (stops_gap_append property.typeGap.blank property.typeGap.notEmpty (nameText property rest))
  have start : name.text ++ behind =
      front ++ [last] ++ (trailing ++ property.typeGap.text ++ nameText property rest) := by
    have stopsName : Stops isBlank (name.text ++ behind) := by
      obtain ⟨⟨identifier, same⟩, _⟩ := proper
      rw [same]
      exact identifier.stops_isBlank behind
    have trimmed := congrArg trimStart opened
    rw [trimStart_append_of_inked inked, List.append_assoc before,
      trimStart_append_of_stops blankBefore stopsName, endSame] at trimmed
    rw [← trimmed, ← typeSame, List.append_assoc, List.append_assoc]
    rfl
  have isTypeText : IsTypeText (front ++ [last]) := by
    rw [← typeSame]
    intro c member
    exact isTypeText_typeText property c
      (mem_of_mem_trim member)
  have blankGap : Blank (trailing ++ property.typeGap.text) :=
    List.forall_mem_append.mpr ⟨blankTrailing, property.typeGap.blank⟩
  have read := typeAndName?_append property isTypeText notBlank blankGap
    (List.append_ne_nil_of_right_ne_nil trailing property.typeGap.notEmpty) rest
  obtain ⟨others, listed⟩ := starts_append [] property.after proper property.publicGap.blank
    property.publicGap.notEmpty blankBefore stops
  rw [List.append_assoc] at opened
  rw [property?, split, untilPublic?_append [] property.before
    (stops_gap_append property.publicGap.blank property.publicGap.notEmpty _), Option.bind_some]
  dsimp only
  rw [opened, listed, List.findSome?_cons, start, read, readingOf, typeSame, List.map_append]
  rfl

/-! ### All properties -/

theorem propertiesFrom_of_some {text rest : List Char} {written : Written}
    (found : property? text = some (written, rest)) :
    propertiesFrom false text = written :: propertiesFrom false rest := by
  cases text with
  | nil => cases length_property?_lt found
  | cons c later =>
    conv_lhs => rw [propertiesFrom]
    split
    · next other behind foundToo =>
      rw [if_neg Bool.false_ne_true, found] at foundToo
      obtain ⟨rfl, rfl⟩ := Prod.mk.inj (Option.some.inj foundToo)
      rfl
    · next missing =>
      rw [if_neg Bool.false_ne_true, found] at missing
      cases missing

/-- No property starts with a blank. -/
theorem propertiesFrom_blank {blank : List Char} (isBlanks : Blank blank) (text : List Char) :
    propertiesFrom false (blank ++ text) = propertiesFrom false text := by
  induction blank with
  | nil => rfl
  | cons c later inductionHypothesis =>
    obtain ⟨blankFirst, blankLater⟩ := List.forall_mem_cons.mp isBlanks
    have noWord := isWord_of_isBlank blankFirst
    have noModifier := findSome?_afterKeyword?_eq_none
      (fun modifier known => (isWordText_of_mem_modifiers modifier known).2)
      (fun modifier rest => (modifier, rest)) (List.forall_mem_nil _ : IsWordText [])
      (stops_cons noWord (later ++ text))
      (fun known => (isWordText_of_mem_modifiers [] known).1 rfl)
    rw [List.nil_append] at noModifier
    have noPublic : (c :: (later ++ text)).head? ≠ some 'p' := by
      intro same
      obtain rfl : c = 'p' := Option.some.inj same
      revert blankFirst
      decide
    have missing : property? (c :: (later ++ text)) = none := by
      rw [property?, untilPublic?_of_none noModifier, dropStart?_eq_none_of_head rfl noPublic]
      rfl
    rw [List.cons_append, propertiesFrom]
    split
    · next found =>
      rw [if_neg Bool.false_ne_true, missing] at found
      cases found
    · rw [noWord]
      exact inductionHypothesis blankLater

/-- All properties in the body of a class are read, and nothing else. -/
theorem properties_body (text : ClassText) :
    properties text.body = text.properties.map fun entry => readingOf entry.2 := by
  rw [properties, ClassText.body]
  generalize text.properties = entries
  induction entries with
  | nil =>
    have atEnd := propertiesFrom_blank text.closingSpacing.blank []
    rw [List.append_nil] at atEnd
    rw [List.flatMap_nil, List.nil_append, atEnd, propertiesFrom]
    rfl
  | cons entry rest inductionHypothesis =>
    obtain ⟨spacing, property⟩ := entry
    rw [List.flatMap_cons, List.append_assoc, List.append_assoc, propertiesFrom_blank spacing.blank,
      propertiesFrom_of_some (property?_append property _), inductionHypothesis, List.map_cons]

theorem resolveMember_trim (name type : List Char) :
    resolveMember name (trim type) = resolveMember name type := by
  rw [resolveMember, MemberType.of, trim_trim]
  rfl

theorem isStatic_readingOf (property : PropertyText) :
    (readingOf property).isStatic = property.isStatic := by
  rw [Written.isStatic, PropertyText.isStatic, readingOf, List.contains_eq_any_beq, List.any_map]
  congr 1
  funext modifier
  exact BEq.comm

/-- The members of a body are those of its properties that are not static. -/
theorem members_of_properties {body : List Char} {written : List PropertyText}
    (read : properties body = written.map readingOf) :
    members body =
      (written.filter fun property => !property.isStatic).map PropertyText.member := by
  have sameStatic : (fun written : Written => !written.isStatic) ∘ readingOf =
      fun property => !property.isStatic :=
    funext fun property => congrArg not (isStatic_readingOf property)
  have sameMember : (fun written : Written => resolveMember written.name written.type) ∘ readingOf =
      PropertyText.member :=
    funext fun property => resolveMember_trim property.name.text property.typeText
  rw [members, read, List.filter_map, sameStatic, List.map_map, sameMember]

end SharpTypes.Source.Property

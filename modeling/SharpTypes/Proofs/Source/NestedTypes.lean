/-
Types inside of types. The body of a class goes up to the brace that closes it, over all the braces
in between, but the search for properties takes no notice of braces. So the properties of the types
that are declared in a class are reported as members of that class, as if they were its own.
-/

import Mathlib.Data.List.Infix
import Mathlib.Tactic.Common
import SharpTypes.Proofs.Source.HeadReading
import SharpTypes.Proofs.Source.ListingReading
import SharpTypes.Proofs.Source.PropertySearch

namespace SharpTypes.Source.Listing

open Text Property

variable {marker : List Char}

/-! ### Bodies -/

/-- Behind the keyword `public`, something that stands in no type comes before any accessors without
bodies. -/
def EndsUnread (behind : List Char) : Prop :=
  ∃ types c rest, behind = types ++ c :: rest ∧ IsTypeText types ∧ isTypeCharacter c = false ∧
    ¬ OpensAccessors (c :: rest)

/-- Whatever else stands in the body of a class, such as attributes, fields, methods and properties
that are not public or not read and written at once. Its braces match, and it ends in a sign. -/
structure OtherText where
  text : List Char
  notEmpty : text ≠ []
  balanced : Bracket.curly.Balanced (fun _ => True) text
  ends : ∀ c ∈ text.getLast?, isWord c = false ∧ isBlank c = false
  unread : ∀ front behind, text = front ++ ("public".toList ++ behind) →
    endsInWord front = false → Stops isWord behind → EndsUnread behind
  noGetter : ¬ "get;".toList <+: trimStart text

/-- What stands before the braces of a nested type. -/
structure NestedHead where
  text : List Char
  plain : ∀ c ∈ ['{', '}', ';'], c ∉ text

/-- What stands between the braces of a class: properties, nested types that have bodies themselves,
and other things, in any order. -/
inductive BodyText where
  | closing (spacing : Spacing)
  | property (spacing : Spacing) (property : PropertyText) (rest : BodyText)
  | nested (head : NestedHead) (inner rest : BodyText)
  | other (other : OtherText) (rest : BodyText)

namespace BodyText

/-- The text of a body. -/
def text : BodyText → List Char
  | closing spacing => spacing.text
  | property spacing first rest => spacing.text ++ first.text ++ rest.text
  | nested head inner rest => head.text ++ '{' :: inner.text ++ '}' :: rest.text
  | other first rest => first.text ++ rest.text

/-- The properties at any depth, in the order they are written. -/
def properties : BodyText → List PropertyText
  | closing _ => []
  | property _ first rest => first :: rest.properties
  | nested _ inner rest => inner.properties ++ rest.properties
  | other _ rest => rest.properties

/-- The properties outside of nested types, in the order they are written. -/
def own : BodyText → List PropertyText
  | closing _ => []
  | property _ first rest => first :: rest.own
  | nested _ _ rest => rest.own
  | other _ rest => rest.own

/-- The properties in nested types. -/
def foreign : BodyText → List PropertyText
  | closing _ => []
  | property _ _ rest => rest.foreign
  | nested _ inner rest => inner.properties ++ rest.foreign
  | other _ rest => rest.foreign

/-- A property belongs to the class itself or to a nested type. -/
theorem properties_perm (body : BodyText) : body.properties.Perm (body.own ++ body.foreign) := by
  induction body with
  | closing _ => exact .nil
  | property _ first _ inductionHypothesis => exact inductionHypothesis.cons first
  | nested _ inner rest _ inductionHypothesis =>
    refine (inductionHypothesis.append_left inner.properties).trans ?_
    exact List.perm_append_comm_assoc ..
  | other _ _ inductionHypothesis => exact inductionHypothesis

/-- The braces in a body match. -/
theorem balanced (body : BodyText) : Bracket.curly.Balanced (fun _ => True) body.text := by
  induction body with
  | closing spacing => exact balanced_of_isTypeText (isTypeText_of_blank spacing.blank)
  | property spacing first _ inductionHypothesis =>
    obtain ⟨front, split, isTypeText⟩ := exists_front first
    have spaced := balanced_of_isTypeText (isTypeText_of_blank spacing.blank)
    have named := (balanced_of_isTypeText isTypeText).append (balanced_accessors first)
    rw [text, split]
    exact (spaced.append named).append inductionHypothesis
  | nested head _ _ innerHypothesis inductionHypothesis =>
    have plain : Bracket.curly.Balanced (fun _ => True) head.text :=
      Bracket.balanced_of_not_mem (head.plain '{' (by decide)) (head.plain '}' (by decide))
    rw [text, List.append_assoc]
    exact plain.append (.enclosed innerHypothesis inductionHypothesis)
  | other first _ inductionHypothesis => exact first.balanced.append inductionHypothesis

end BodyText

/-! ### Where no accessors open -/

/-- A getter does not come before its semicolon. -/
theorem not_getter_of_plain {front rest : List Char} {c : Char} (plain : ';' ∉ front)
    (notBlank : isBlank c = false) (noGetter : c ∉ "get;".toList) :
    ¬ "get;".toList <+: trimStart (front ++ c :: rest) := by
  rintro ⟨behind, opened⟩
  obtain ⟨blank, isBlanks, same⟩ := exists_blank_append_trimStart (front ++ c :: rest)
  rw [← opened, ← List.append_assoc] at same
  have absent : c ∉ blank ++ "get;".toList := by
    rw [List.mem_append, not_or]
    exact ⟨not_mem_of_blank isBlanks notBlank, noGetter⟩
  rcases List.append_eq_append_iff.mp same with ⟨others, sameFront, sameRest⟩ | ⟨others, rfl, -⟩
  · cases others with
    | nil =>
      rw [List.append_nil] at sameFront
      exact plain (sameFront ▸ List.mem_append_right _ (by decide))
    | cons d others =>
      obtain rfl := (List.cons.inj sameRest).1
      exact absent (by rw [sameFront]; simp)
  · exact plain (List.mem_append_left _ (List.mem_append_right _ (by decide)))

theorem OtherText.endsInWord_eq (other : OtherText) : endsInWord other.text = false := by
  rw [endsInWord, Option.any_eq_false]
  exact fun c last => by simpa using (other.ends c last).1

theorem endsInWord_of_prefix_getter :
    ∀ front ∈ "get;".toList.inits, front ≠ [] → endsInWord front = false →
      front = "get;".toList := by
  decide +kernel

theorem OtherText.not_getter (other : OtherText) (rest : List Char) :
    ¬ "get;".toList <+: trimStart (other.text ++ rest) := by
  intro getter
  obtain ⟨front, last, split⟩ := (List.eq_nil_or_concat other.text).resolve_left other.notEmpty
  rw [List.concat_eq_append] at split
  have inked : Inked other.text := by
    refine ⟨last, split ▸ by simp, (other.ends last ?_).2⟩
    rw [split, List.getLast?_concat]
    rfl
  obtain ⟨blank, -, same⟩ := exists_blank_append_trimStart other.text
  have kept := trimStart_ne_nil inked
  rw [trimStart_append_of_inked inked] at getter
  rcases List.prefix_or_prefix_of_prefix getter (List.prefix_append _ rest) with inside | outside
  · exact other.noGetter inside
  · have ends := other.endsInWord_eq
    rw [same, endsInWord_append kept] at ends
    have whole := endsInWord_of_prefix_getter _ ((List.mem_inits _ _).mpr outside) kept ends
    exact other.noGetter (whole ▸ List.prefix_rfl)

/-- No body starts as accessors do. -/
theorem BodyText.not_getter (body : BodyText) (rest : List Char) :
    ¬ "get;".toList <+: trimStart (body.text ++ '}' :: rest) := by
  cases body with
  | closing spacing =>
    exact not_getter_of_plain (not_mem_of_blank spacing.blank (by decide)) (by decide) (by decide)
  | property spacing first others =>
    obtain ⟨front, split, isTypeText⟩ := exists_front first
    have plain : ';' ∉ spacing.text ++ front := by
      rw [List.mem_append, not_or]
      exact ⟨not_mem_of_blank spacing.blank (by decide), isTypeText.not_mem (by decide)⟩
    have same : (property spacing first others).text ++ '}' :: rest =
        spacing.text ++ front ++ '{' :: (first.accessors.tail ++ (others.text ++ '}' :: rest)) := by
      rw [text, split]
      simp [PropertyText.accessors]
    rw [same]
    exact not_getter_of_plain plain (by decide) (by decide)
  | nested head inner others =>
    rw [text, List.append_assoc, List.append_assoc]
    exact not_getter_of_plain (head.plain ';' (by decide)) (by decide) (by decide)
  | other first others =>
    rw [text, List.append_assoc]
    exact first.not_getter _

/-! ### Reading -/

/-- A property that is read from a text up to its first brace has its accessors there. -/
theorem opensAccessors_of_property? {head behind : List Char} {found : Written × List Char}
    (braceFree : '{' ∉ head) (read : property? (head ++ '{' :: behind) = some found) :
    OpensAccessors ('{' :: behind) := by
  obtain ⟨front, rest, same, -, plain, -, types, opened, rfl, isTypeText, opens⟩ :=
    exists_of_property? read
  obtain ⟨after, rfl, -⟩ := opens.exists_cons
  have absent : '{' ∉ front ++ ("public".toList ++ types) := by
    simp only [List.mem_append, not_or]
    refine ⟨fun member => ?_, by decide, isTypeText.not_mem (by decide)⟩
    have noWord : isWord '{' = false := by decide +kernel
    have notBlank : isBlank '{' = false := by decide
    have kind := plain '{' member
    simp [noWord, notBlank] at kind
  have same : head ++ '{' :: behind = front ++ ("public".toList ++ types) ++ '{' :: after := by
    rw [same]
    simp only [List.append_assoc]
  obtain ⟨-, rfl⟩ := eq_and_eq_of_append_cons braceFree absent same
  exact opens

/-- No property is read in what stands before the braces of a nested type. -/
theorem propertiesFrom_head (head : NestedHead) {behind : List Char}
    (noGetter : ¬ "get;".toList <+: trimStart behind) :
    propertiesFrom false (head.text ++ '{' :: behind) = propertiesFrom false behind := by
  have passed := propertiesFrom_passed [] (head.text ++ ['{']) behind
    fun front back same notEmpty _ => ?_
  · have noWord : endsInWord (head.text ++ ['{']) = false := by
      rw [endsInWord_append (List.cons_ne_nil _ _)]
      decide +kernel
    rw [List.nil_append, noWord, List.append_assoc] at passed
    exact passed
  · obtain ⟨init, last, rfl⟩ := (List.eq_nil_or_concat back).resolve_left notEmpty
    rw [List.concat_eq_append, ← List.append_assoc] at same
    obtain ⟨sameHead, sameLast⟩ := List.append_inj' same rfl
    obtain rfl := (List.cons.inj sameLast).1
    have braceFree : '{' ∉ init := fun member =>
      head.plain '{' (by decide) (sameHead ▸ List.mem_append_right _ member)
    rw [Option.eq_none_iff_forall_not_mem]
    intro found read
    rw [List.concat_eq_append, List.append_assoc] at read
    obtain ⟨after, opened, getter⟩ := (opensAccessors_of_property? braceFree read).exists_cons
    obtain rfl : behind = after := (List.cons.inj opened).2
    exact noGetter getter

/-- No property is read in anything else. -/
theorem reads_other (other : OtherText) : Reads other.text [] := by
  intro rest
  have passed := propertiesFrom_passed [] other.text rest fun front back same notEmpty outside => ?_
  · rw [List.nil_append, other.endsInWord_eq] at passed
    exact passed
  · rw [Option.eq_none_iff_forall_not_mem]
    intro found read
    obtain ⟨modifiers, behind, sameRead, ends, plain, stops, leads⟩ := exists_of_property? read
    rw [← List.append_assoc] at sameRead
    rcases List.append_eq_append_iff.mp sameRead with ⟨others, sameBack, -⟩ | ⟨others, rfl, rfl⟩
    · -- The keyword goes on behind the text, which then ends in a word or a blank.
      obtain ⟨init, last, rfl⟩ := (List.eq_nil_or_concat back).resolve_left notEmpty
      rw [List.concat_eq_append] at same sameBack
      obtain ⟨noWord, notBlank⟩ := other.ends last (by rw [same, ← List.append_assoc]; simp)
      have inside : last ∈ modifiers ++ "public".toList := sameBack ▸ by simp
      rcases List.mem_append.mp inside with inModifiers | inKeyword
      · rcases plain last inModifiers with word | blank
        · exact absurd (word.symm.trans noWord) (by decide)
        · exact absurd (blank.symm.trans notBlank) (by decide)
      · have isWordText : IsWordText "public".toList := by decide +kernel
        exact absurd ((isWordText last inKeyword).symm.trans noWord) (by decide)
    · have whole : other.text = front ++ modifiers ++ ("public".toList ++ others) := by
        rw [same, List.append_assoc, List.append_assoc]
      have outsideWord : endsInWord (front ++ modifiers) = false := by
        by_cases empty : modifiers = []
        · rwa [empty, List.append_nil]
        · rwa [endsInWord_append empty]
      obtain ⟨types, c, later, rfl, isTypeText, noType, closed⟩ :=
        other.unread (front ++ modifiers) others whole outsideWord (stops_of_append stops)
      obtain ⟨typesRead, accessors, sameTypes, isTypesRead, opens⟩ := leads
      obtain ⟨after, rfl, -⟩ := opens.exists_cons
      rw [List.append_assoc, List.cons_append] at sameTypes
      have cut := congrArg (List.dropWhile isTypeCharacter) sameTypes
      rw [dropWhile_append_of_stops isTypeText (stops_cons noType _),
        dropWhile_append_of_stops isTypesRead (stops_cons (by decide +kernel) _)] at cut
      obtain rfl : c = '{' := (List.cons.inj cut).1
      have opened : other.text = front ++ modifiers ++ ("public".toList ++ types) ++
          Bracket.curly.opening :: later := by
        simp [whole, Bracket.curly]
      have isClosed : '}' ∈ later := other.balanced.closing_mem (by decide) opened
      exact closed (.of_append (cut ▸ opens) (List.mem_cons_of_mem _ isClosed))

theorem reads_closing : Reads ['}'] [] := by
  intro rest
  have noWord : isWord '}' = false := by decide +kernel
  rw [List.singleton_append, propertiesFrom_of_none fun _ => ?_, noWord]
  · rfl
  · rw [Option.eq_none_iff_forall_not_mem]
    intro found read
    obtain ⟨front, behind, same, -, plain, -⟩ := exists_of_property? read
    cases front with
    | nil => cases (List.cons.inj same).1
    | cons c later =>
      obtain rfl := (List.cons.inj same).1
      have kind := plain '}' List.mem_cons_self
      rw [noWord] at kind
      revert kind
      decide

theorem reads_body (body : BodyText) : Reads body.text (body.properties.map readingOf) := by
  induction body with
  | closing spacing => exact reads_blank spacing.blank
  | property spacing first rest inductionHypothesis =>
    exact ((reads_blank spacing.blank).append (reads_property first)).append inductionHypothesis
  | nested head inner others innerHypothesis inductionHypothesis =>
    intro rest
    have split : (BodyText.nested head inner others).text ++ rest = head.text ++
        '{' :: (inner.text ++ '}' :: (others.text ++ rest)) := by
      simp [BodyText.text]
    have closed := reads_closing (others.text ++ rest)
    rw [List.singleton_append, List.nil_append] at closed
    rw [split, propertiesFrom_head head (inner.not_getter _), innerHypothesis, closed,
      inductionHypothesis, BodyText.properties, List.map_append, List.append_assoc]
  | other first rest inductionHypothesis => exact (reads_other first).append inductionHypothesis

/-! ### Classes with nested types -/

/-- A class behind its marker, with anything in its body. -/
structure NestingText (marker : List Char) extends HeadText marker '{' where
  outer : ClassText
  isOuter : marked.shape = .object outer
  body : BodyText

namespace NestingText

/-- What stands behind the marker. -/
def unmarked (text : NestingText marker) : List Char :=
  text.toHeadText.unmarked ++ text.body.text ++ ['}']

/-- The text of a class behind its marker. -/
def text (text : NestingText marker) : List Char :=
  text.marked.spelling.text ++ text.unmarked

end NestingText

/-- The class is read with all the properties in its body, nested types included. -/
theorem of?_nesting (text : NestingText marker) (rest : List Char) :
    (DeclarationText.of? (text.unmarked ++ rest)).map DeclarationText.declaration =
      some (text.outer.declarationWith text.body.properties) := by
  have split : text.unmarked ++ rest =
      text.toHeadText.unmarked ++ (text.body.text ++ '}' :: rest) := by
    simp [NestingText.unmarked]
  have body := Bracket.body?_append List.not_mem_nil text.body.balanced rest
  rw [List.nil_append] at body
  rw [split, of?_headText (by decide), body, text.isOuter, Option.map_some, Option.map_some,
    ShapeText.withBody, declaration_withBody _ (reads_body text.body).properties_eq]

/-- Where all properties of nested types are left out, those of the class itself remain. -/
theorem BodyText.filter_properties {keep : PropertyText → Bool} (body : BodyText)
    (dropped : ∀ property ∈ body.foreign, keep property = false) :
    body.properties.filter keep = body.own.filter keep := by
  induction body with
  | closing _ => rfl
  | property _ first _ inductionHypothesis =>
    rw [properties, own, List.filter_cons, List.filter_cons, inductionHypothesis dropped]
  | nested _ inner rest _ inductionHypothesis =>
    obtain ⟨droppedInner, droppedRest⟩ := List.forall_mem_append.mp dropped
    have nothing : inner.properties.filter keep = [] :=
      List.filter_eq_nil_iff.mpr fun property member => by simp [droppedInner property member]
    rw [properties, own, List.filter_append, nothing, List.nil_append,
      inductionHypothesis droppedRest]
  | other _ _ inductionHypothesis => exact inductionHypothesis dropped

/-- A class is the same without the properties of its nested types if these are all static, and only
then. -/
theorem declarationWith_own_iff (outer : ClassText) (body : BodyText) :
    outer.declarationWith body.properties = outer.declarationWith body.own ↔
      ∀ property ∈ body.foreign, property.isStatic = true := by
  constructor
  · intro same
    have sameBody := congrArg Declaration.body same
    simp only [ClassText.declarationWith, DeclarationBody.object.injEq, ClassShape.mk.injEq,
      and_true] at sameBody
    have sizes := congrArg List.length sameBody
    have split := (body.properties_perm.filter fun property => !property.isStatic).length_eq
    rw [List.length_map, List.length_map] at sizes
    rw [List.filter_append, List.length_append, sizes, Nat.left_eq_add, List.length_eq_zero_iff,
      List.filter_eq_nil_iff] at split
    exact fun property member => by simpa using split property member
  · intro allStatic
    rw [ClassText.declarationWith, ClassText.declarationWith,
      body.filter_properties fun property member => by simp [allStatic property member]]

/-- Wherever a class stands in a source text, it is reported with all the properties in its body,
in order. These are its own if and only if those of its nested types are all static. -/
theorem nested_properties_reported (isName : Marker.IsName marker) (text : NestingText marker)
    {source before behind : List Char}
    (stands : Comment.strip source = before ++ (text.text ++ behind)) :
    (∃ earlier, Source.declarations marker source =
        earlier ++ text.outer.declarationWith text.body.properties ::
          declared marker (text.unmarked ++ behind)) ∧
      (text.outer.declarationWith text.body.properties = text.outer.declarationWith text.body.own ↔
        ∀ property ∈ text.body.foreign, property.isStatic = true) := by
  refine ⟨?_, declarationWith_own_iff text.outer text.body⟩
  obtain ⟨earlier, found⟩ := isName.exists_rests_append before text.marked.spelling
    (text.unmarked ++ behind)
  refine ⟨earlier.filterMap fun rest =>
    (DeclarationText.of? rest).map DeclarationText.declaration, ?_⟩
  rw [declarations_eq, stands, NestingText.text, List.append_assoc, declared, found,
    List.filterMap_append, List.filterMap_cons, of?_nesting]
  rfl

theorem isNameCharacter_of_mem_int : ∀ c ∈ "int".toList, isNameCharacter c = true := by
  decide +kernel

theorem isProper_int : IsProper ⟨"int".toList, List.cons_ne_nil _ _, isNameCharacter_of_mem_int⟩ :=
  ⟨⟨⟨'i', "nt".toList, by decide +kernel, by decide +kernel⟩, rfl⟩, by decide⟩

/-- A property of numbers. -/
def numberText (name : Identifier) : PropertyText where
  before := []
  publicGap := oneGap
  after := []
  type := .bare (.name ⟨[], ⟨"int".toList, List.cons_ne_nil _ _, isNameCharacter_of_mem_int⟩⟩)
  typeText := "int".toList
  written := .bare (.name (.last blank_nil blank_nil))
  proper := List.forall_mem_singleton.mpr isProper_int
  typeGap := oneGap
  name := name
  nameSpacing := oneSpacing
  openSpacing := oneSpacing
  getSpacing := oneSpacing
  setSpacing := oneSpacing

/-- A property that is not public. -/
def privateText : OtherText where
  text := " private int Z \x7b get; set; \x7d".toList
  notEmpty := by decide
  balanced := by
    have split : " private int Z \x7b get; set; \x7d".toList =
        " private int Z ".toList ++ (Bracket.curly.opening :: " get; set; ".toList ++
          Bracket.curly.closing :: []) := rfl
    rw [split]
    exact (Bracket.balanced_of_not_mem (by decide) (by decide)).append
      (.enclosed (Bracket.balanced_of_not_mem (by decide) (by decide)) .nil)
  ends := by
    intro c last
    obtain rfl : '}' = c := Option.some.inj last
    decide +kernel
  unread front behind same _ _ := by
    have absent : ¬ "public".toList <:+: " private int Z \x7b get; set; \x7d".toList := by decide
    exact absurd ⟨front, behind, by rw [same, List.append_assoc]⟩ absent
  noGetter := by decide

/-- The class `B` with the property `X`, and then the property `Y`. -/
def nestingBody : BodyText :=
  .nested ⟨" public class B ".toList, by decide⟩
    (.property oneSpacing (numberText (letter 'X' (by decide +kernel)))
      (.closing oneSpacing))
    (.property oneSpacing (numberText (letter 'Y' (by decide +kernel)))
      (.closing oneSpacing))

/-- The class `A` behind its marker, with a private property and the class `B` in its body. -/
def nestingText : NestingText "TypeSharp".toList where
  marked := plainMarked
  clauses := [' ']
  braceFree := by decide
  ends := ⟨stops_cons (by decide +kernel) _, stops_cons (c := '{') (by decide) []⟩
  outer := plainClass
  isOuter := rfl
  body := .other privateText nestingBody

/-- The class `A` between comments. -/
def nestingSource : List Char :=
  ("/* [TypeSharp] */ [TypeSharp] public class A \x7b private int Z \x7b get; set; \x7d" ++
    " public class B \x7b public int X \x7b get; set; \x7d \x7d" ++
    " public int Y \x7b get; set; \x7d \x7d // end").toList

/-- The class `A` is reported with the property of the class `B`. -/
theorem nested_property_reported_for_class : Marker.IsName "TypeSharp".toList ∧
    Comment.strip nestingSource = [' '] ++ (nestingText.text ++ [' ']) ∧
    (∃ earlier, Source.declarations "TypeSharp".toList nestingSource = earlier ++
      [⟨"A".toList, .object ⟨[⟨"X".toList, .primitive .number, false, false⟩,
        ⟨"Y".toList, .primitive .number, false, false⟩], none, [], []⟩⟩]) ∧
    nestingText.outer.declarationWith nestingText.body.properties ≠
      nestingText.outer.declarationWith nestingText.body.own := by
  have isName : Marker.IsName "TypeSharp".toList :=
    Marker.isName_of_isIdentifier (by decide +kernel)
  have stands : Comment.strip nestingSource = [' '] ++ (nestingText.text ++ [' ']) := by
    decide +kernel
  obtain ⟨⟨earlier, reported⟩, own⟩ := nested_properties_reported isName nestingText stands
  refine ⟨isName, stands, ⟨earlier, reported.trans (congrArg _ ?_)⟩, fun same => ?_⟩
  · decide +kernel
  · have isStatic := own.mp same _ List.mem_cons_self
    revert isStatic
    decide +kernel

/-- The property of a nested class is reported in front of the only one that the class has. -/
theorem nested_property_reported_as_own :
    Source.declarations "TypeSharp".toList
        ("[TypeSharp] public class A \x7b public class B \x7b public int X \x7b get; set; \x7d" ++
          " \x7d public int Y \x7b get; set; \x7d \x7d").toList =
      [⟨"A".toList, .object ⟨[⟨"X".toList, .primitive .number, false, false⟩,
        ⟨"Y".toList, .primitive .number, false, false⟩], none, [], []⟩⟩] ∧
    ("[TypeSharp] public class A \x7b public class B \x7b public int X \x7b get; set; \x7d" ++
      " \x7d public int Y \x7b get; set; \x7d \x7d").toList =
        "[TypeSharp] public class A \x7b".toList ++ nestingBody.text ++ ['}'] ∧
    nestingBody.own.map PropertyText.member =
      [⟨"Y".toList, .primitive .number, false, false⟩] := by
  decide +kernel

end SharpTypes.Source.Listing

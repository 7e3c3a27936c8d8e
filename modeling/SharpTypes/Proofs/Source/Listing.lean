/-
Marked declarations laid out as source text. A listing is a list of declarations together with
everything that a reader may not depend on: the blanks between tokens, the order of modifiers, the
spelling of the marker, further attributes, and whatever stands between the declarations. It has a
text, and it has the declarations that are to be read from that.

Static properties belong to the type and not to its instances, and are left out. At least one blank
stands between the type and the name of a property. The arguments of a marker open no comment.
-/

import Mathlib.Data.List.Infix
import Mathlib.Tactic.Common
import SharpTypes.Proofs.Source.MemberMeaning
import SharpTypes.Proofs.Text.Word
import SharpTypes.Source.SourceText

namespace SharpTypes.Source

open Text

/-! ### The names in a type expression -/

mutual

/-- All names that stand in a type expression, namespaces included, in the order they are written.
-/
def TypeExpression.names : TypeExpression → List TypeName
  | .bare type => type.names
  | .nullable type => type.names

/-- All names that stand in a type expression without a nullable mark. -/
def BareTypeExpression.names : BareTypeExpression → List TypeName
  | .name name => name.qualifiers ++ [name.last]
  | .array element => element.names
  | .wrapper name _ argument => name.qualifiers ++ [name.last] ++ argument.names
  | .generic name _ arguments => name.qualifiers ++ [name.last] ++ arguments.names

/-- All names that stand in the arguments of a generic type. -/
def TypeArguments.names : TypeArguments → List TypeName
  | .one argument => argument.names
  | .more argument rest => argument.names ++ rest.names

end

namespace Listing

/-- The words that start a declaration or a property or modify it, and so name no type. -/
def keywords : List (List Char) :=
  Property.modifiers ++ ["public", "enum", "class"].map String.toList

/-- The name of a type is an identifier and no keyword. -/
def IsProper (name : TypeName) : Prop :=
  (∃ identifier : Identifier, name.text = identifier.text) ∧ name.text ∉ keywords

/-! ### Between tokens -/

/-- Any number of blanks. -/
structure Spacing where
  text : List Char
  blank : Blank text

/-- At least one blank. -/
structure Gap where
  text : List Char
  blank : Blank text
  notEmpty : text ≠ []

/-- Anything between two declarations that opens no attribute and no comment. -/
structure Filler where
  text : List Char
  bracketFree : '[' ∉ text
  slashFree : '/' ∉ text

/-- A modifier out of some words, and the blanks after it. -/
structure ModifierText (words : List (List Char)) where
  word : List Char
  known : word ∈ words
  gap : Gap

/-- The text of a modifier. -/
def ModifierText.text {words : List (List Char)} (modifier : ModifierText words) : List Char :=
  modifier.word ++ modifier.gap.text

/-! ### Properties -/

/-- A property with plain accessors. -/
structure PropertyText where
  before : List (ModifierText Property.modifiers)
  publicGap : Gap
  after : List (ModifierText Property.modifiers)
  type : TypeExpression
  typeText : List Char
  written : type.Written typeText
  proper : ∀ name ∈ type.names, IsProper name
  typeGap : Gap
  name : Identifier
  nameSpacing : Spacing
  openSpacing : Spacing
  getSpacing : Spacing
  setSpacing : Spacing

namespace PropertyText

/-- The text of the accessors. -/
def accessors (property : PropertyText) : List Char :=
  '{' :: property.openSpacing.text ++ "get;".toList ++ property.getSpacing.text ++
    "set;".toList ++ property.setSpacing.text ++ ['}']

/-- The text of a property. -/
def text (property : PropertyText) : List Char :=
  property.before.flatMap ModifierText.text ++ "public".toList ++ property.publicGap.text ++
    property.after.flatMap ModifierText.text ++ property.typeText ++ property.typeGap.text ++
    property.name.text ++ property.nameSpacing.text ++ property.accessors

/-- Whether one of the modifiers makes the property belong to the type itself. -/
def isStatic (property : PropertyText) : Bool :=
  (property.before ++ property.after).any fun modifier => modifier.word == "static".toList

/-- The member that the property makes. -/
def member (property : PropertyText) : Member :=
  resolveMember property.name.text property.typeText

/-- What the property means. -/
def meaning (property : PropertyText) : Member :=
  property.type.member property.name.text property.typeText

end PropertyText

/-! ### Classes -/

/-- A type parameter. -/
structure ParameterText where
  before : Spacing
  name : Identifier
  after : Spacing

/-- The text of a type parameter. -/
def ParameterText.text (parameter : ParameterText) : List Char :=
  parameter.before.text ++ parameter.name.text ++ parameter.after.text

/-- A list of type arguments. -/
structure ArgumentsText where
  arguments : TypeArguments
  texts : List (List Char)
  written : arguments.Written texts
  proper : ∀ name ∈ arguments.names, IsProper name

/-- The text of a list in angle brackets. -/
def angled (texts : List (List Char)) : List Char :=
  '<' :: join [','] texts ++ ['>']

/-- A base type, possibly qualified and possibly with arguments. -/
structure BaseText where
  colonSpacing : Spacing
  qualifiers : List Identifier
  last : Identifier
  nameSpacing : Spacing
  arguments : Option ArgumentsText
  spacing : Spacing

namespace BaseText

/-- The name of a base type, with its namespaces. -/
def name (base : BaseText) : List Char :=
  join ['.'] ((base.qualifiers ++ [base.last]).map Identifier.text)

/-- The texts of the arguments of a base type. -/
def argumentTexts (base : BaseText) : List (List Char) :=
  (base.arguments.map ArgumentsText.texts).getD []

/-- The text of a base type. -/
def text (base : BaseText) : List Char :=
  ':' :: base.colonSpacing.text ++ base.name ++ base.nameSpacing.text ++
    (base.arguments.map fun list => angled list.texts).getD [] ++ base.spacing.text

end BaseText

/-- A class. -/
structure ClassText where
  publicGap : Gap
  modifiers : List (ModifierText Header.classModifiers)
  classGap : Gap
  name : Identifier
  nameSpacing : Spacing
  parameters : List ParameterText
  parametersSpacing : Spacing
  base : Option BaseText
  properties : List (Spacing × PropertyText)
  closingSpacing : Spacing

namespace ClassText

/-- What stands between the braces of a class. -/
def body (text : ClassText) : List Char :=
  (text.properties.flatMap fun (spacing, property) => spacing.text ++ property.text) ++
    text.closingSpacing.text

/-- What stands between the name of a class and its body. -/
def signature (text : ClassText) : List Char :=
  text.nameSpacing.text ++
    (if text.parameters = [] then [] else angled (text.parameters.map ParameterText.text)) ++
    text.parametersSpacing.text ++ (text.base.map BaseText.text).getD []

/-- What stands before the body of a class. -/
def head (text : ClassText) : List Char :=
  "public".toList ++ text.publicGap.text ++ text.modifiers.flatMap ModifierText.text ++
    "class".toList ++ text.classGap.text ++ text.name.text ++ text.signature

/-- The text of a class. -/
def text (text : ClassText) : List Char :=
  "public".toList ++ text.publicGap.text ++ text.modifiers.flatMap ModifierText.text ++
    "class".toList ++ text.classGap.text ++ text.name.text ++ text.signature ++
    '{' :: text.body ++ ['}']

theorem text_eq (text : ClassText) : text.text = text.head ++ '{' :: text.body ++ ['}'] :=
  rfl

/-- The class with another body. -/
def withBody (text : ClassText) (body : List Char) : ObjectText where
  name := text.name.text
  parameters := text.parameters.map fun parameter => parameter.name.text
  base := text.base.map fun base => ⟨base.name, base.argumentTexts.map trim⟩
  body := body

/-- The declaration of a class. Static properties are left out. -/
def declaration (text : ClassText) : Declaration where
  name := text.name.text
  body := .object {
    members := ((text.properties.map Prod.snd).filter fun property => !property.isStatic).map
      PropertyText.member
    base := text.base.map BaseText.name
    parameters := text.parameters.map fun parameter => parameter.name.text
    baseArguments := ((text.base.map BaseText.argumentTexts).getD []).map trim }

end ClassText

/-! ### Enumerations -/

/-- What a value is set to. -/
structure InitialiserText where
  text : List Char
  balanced : Bracket.round.Balanced (· ≠ ',') text
  plain : ∀ c ∈ ['{', '}', '[', ']', '/'], c ∉ text

/-- A value of an enumeration. -/
structure ValueText where
  before : Spacing
  name : Identifier
  after : Spacing
  initialiser : Option InitialiserText

/-- The text of a value. -/
def ValueText.text (value : ValueText) : List Char :=
  value.before.text ++ value.name.text ++ value.after.text ++
    (value.initialiser.map fun initialiser => '=' :: initialiser.text).getD []

/-- An enumeration. -/
structure EnumerationText where
  publicGap : Gap
  enumGap : Gap
  name : Identifier
  nameSpacing : Spacing
  bodySpacing : Spacing
  values : List ValueText

namespace EnumerationText

/-- What stands between the braces of an enumeration. -/
def body (text : EnumerationText) : List Char :=
  text.bodySpacing.text ++ join [','] (text.values.map ValueText.text)

/-- What stands before the body of an enumeration. -/
def head (text : EnumerationText) : List Char :=
  "public".toList ++ text.publicGap.text ++ "enum".toList ++ text.enumGap.text ++
    text.name.text ++ text.nameSpacing.text

/-- The text of an enumeration. -/
def text (text : EnumerationText) : List Char :=
  "public".toList ++ text.publicGap.text ++ "enum".toList ++ text.enumGap.text ++
    text.name.text ++ text.nameSpacing.text ++ '{' :: text.body ++ ['}']

theorem text_eq (text : EnumerationText) : text.text = text.head ++ '{' :: text.body ++ ['}'] :=
  rfl

/-- The declaration of an enumeration. -/
def declaration (text : EnumerationText) : Declaration where
  name := text.name.text
  body := .enumeration (text.values.map fun value => value.name.text)

end EnumerationText

/-! ### Markers and attributes -/

/-- The arguments of a marker. -/
structure MarkerArguments where
  text : List Char
  unclosed : ')' ∉ text ∧ ']' ∉ text
  uncommented : ¬ ['/', '/'] <:+: text ∧ ¬ ['/', '*'] <:+: text

/-- A spelling of the marker of a name. -/
structure MarkerText (marker : List Char) where
  before : Spacing
  isSuffixed : Bool
  nameSpacing : Spacing
  arguments : Option MarkerArguments
  after : Spacing

namespace MarkerText

variable {marker : List Char}

/-- The arguments of a marker in parentheses, if it has any. -/
def argumentsText (text : MarkerText marker) : List Char :=
  (text.arguments.map fun arguments => '(' :: arguments.text ++ [')']).getD []

/-- What stands between the brackets of a marker. -/
def content (text : MarkerText marker) : List Char :=
  text.before.text ++ marker ++ (if text.isSuffixed then "Attribute".toList else []) ++
    text.nameSpacing.text ++ text.argumentsText ++ text.after.text

/-- The text of a marker. -/
def text (text : MarkerText marker) : List Char :=
  '[' :: text.content ++ [']']

end MarkerText

/-- An attribute that is not the marker, and the blanks before it. -/
structure AttributeText (marker : List Char) where
  spacing : Spacing
  content : List Char
  plain : ∀ c ∈ ['[', ']', '/'], c ∉ content
  unmarked : ∀ spelling : MarkerText marker, spelling.content ≠ content

/-- The text of an attribute. -/
def AttributeText.text {marker : List Char} (text : AttributeText marker) : List Char :=
  text.spacing.text ++ '[' :: text.content ++ [']']

/-! ### Whole listings -/

/-- An enumeration or a class. -/
inductive ShapeText where
  | enumeration (text : EnumerationText)
  | object (text : ClassText)

namespace ShapeText

/-- The text of an enumeration or a class. -/
def text : ShapeText → List Char
  | .enumeration text => text.text
  | .object text => text.text

/-- The declaration of an enumeration or a class. -/
def declaration : ShapeText → Declaration
  | .enumeration text => text.declaration
  | .object text => text.declaration

/-- What stands before the body of an enumeration or a class. -/
def head : ShapeText → List Char
  | .enumeration text => text.head
  | .object text => text.head

/-- The enumeration or the class with another body. -/
def withBody : ShapeText → List Char → DeclarationText
  | .enumeration text, body => .enumeration text.name.text body
  | .object text, body => .object (text.withBody body)

/-- The properties of a class. -/
def properties : ShapeText → List PropertyText
  | .enumeration _ => []
  | .object text => text.properties.map Prod.snd

end ShapeText

/-- A marked declaration, and what stands behind it. -/
structure MarkedText (marker : List Char) where
  earlier : List (AttributeText marker)
  markerSpacing : Spacing
  spelling : MarkerText marker
  later : List (AttributeText marker)
  shapeSpacing : Spacing
  shape : ShapeText
  behind : Filler

namespace MarkedText

variable {marker : List Char}

/-- What stands up to the end of the marker. -/
def opening (text : MarkedText marker) : List Char :=
  text.earlier.flatMap AttributeText.text ++ text.markerSpacing.text ++ text.spelling.text

/-- What stands behind the marker. -/
def unmarked (text : MarkedText marker) : List Char :=
  text.later.flatMap AttributeText.text ++ text.shapeSpacing.text ++ text.shape.text ++
    text.behind.text

/-- The text of a marked declaration. -/
def text (text : MarkedText marker) : List Char :=
  text.earlier.flatMap AttributeText.text ++ text.markerSpacing.text ++ text.spelling.text ++
    text.unmarked

theorem text_eq (text : MarkedText marker) : text.text = text.opening ++ text.unmarked :=
  rfl

end MarkedText

end Listing

/-- A list of marked declarations with all that stands around them. -/
structure Listing (marker : List Char) where
  start : Listing.Filler
  marked : List (Listing.MarkedText marker)

namespace Listing

variable {marker : List Char}

/-- The source text. -/
def text (listing : Listing marker) : List Char :=
  listing.start.text ++ listing.marked.flatMap MarkedText.text

/-- The declarations in the source text. -/
def declarations (listing : Listing marker) : List Declaration :=
  listing.marked.map fun text => text.shape.declaration

/-- The properties of all classes. -/
def properties (listing : Listing marker) : List PropertyText :=
  listing.marked.flatMap fun text => text.shape.properties

end Listing

end SharpTypes.Source

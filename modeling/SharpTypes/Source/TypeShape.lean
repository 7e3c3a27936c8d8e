/-
Reading one layer of a type expression. A type expression is plain text; its outermost layer is an
array suffix, a generic application or a bare name, and of the generic applications dictionaries,
collections and the nullable wrapper have meanings of their own. What stands inside a layer is again
text, always shorter than the whole.
-/

import SharpTypes.Source.Bracket
import SharpTypes.Target.Basic

namespace SharpTypes

open Text

/-! ### Names with a meaning -/

/-- The names of the built-in types, by the primitive they become. -/
def primitiveNames : List (Primitive × List String) := [
  (.number, ["byte", "sbyte", "short", "ushort", "int", "uint", "long", "ulong", "float", "double",
    "decimal", "Byte", "SByte", "Int16", "UInt16", "Int32", "UInt32", "Int64", "UInt64", "Single",
    "Double", "Decimal"]),
  (.boolean, ["bool", "Boolean"]),
  (.string, ["string", "String", "char", "Char", "DateTime", "DateTimeOffset", "DateOnly",
    "TimeOnly", "TimeSpan", "Guid"]),
  (.any, ["object", "Object", "dynamic"]),
  (.blob, ["Stream", "MemoryStream", "FileStream", "IFormFile"])]

/-- The primitive that a name without namespace stands for. -/
def Primitive.ofName? (name : List Char) : Option Primitive :=
  (primitiveNames.find? fun entry => (entry.2.map String.toList).contains name).map Prod.fst

namespace Source

/-- The generic types that are read as records. -/
def dictionaryNames : List (List Char) :=
  ["Dictionary", "IDictionary", "IReadOnlyDictionary", "SortedDictionary",
    "ConcurrentDictionary"].map String.toList

/-- The generic types that are read as arrays of their one argument. -/
def collectionNames : List (List Char) :=
  ["List", "IList", "IEnumerable", "ICollection", "IReadOnlyList", "IReadOnlyCollection", "HashSet",
    "ISet"].map String.toList

/-- The parts of a list of type arguments. -/
def typeArguments (text : List Char) : List (List Char) :=
  Bracket.angle.split ',' text

/-- The name behind the last dot of a qualified name. -/
def lastSegment (name : List Char) : List Char :=
  trim (afterLast '.' name)

/-- A text that opens a list of type arguments. -/
structure GenericText where
  /-- What stands before the list. -/
  name : List Char
  /-- What stands inside the list; nothing if it never closes. -/
  interior : Option (List Char)
  deriving DecidableEq, Repr

/-- The name and the argument list of a generic application. What follows the list is ignored. -/
def GenericText.of? (text : List Char) : Option GenericText :=
  match text.dropWhile (· ≠ '<') with
  | [] => none
  | opened =>
    some ⟨trim (beforeFirst '<' text), (Bracket.angle.enclosed? opened).map Prod.fst⟩

/-! ### One layer -/

/-- The outermost layer of a type expression, with the texts of what it contains. -/
inductive TypeShape where
  /-- An array of the element. -/
  | array (element : List Char)
  /-- A dictionary type with any number of arguments. -/
  | dictionary (arguments : List (List Char))
  /-- A collection type with any number of arguments. -/
  | collection (arguments : List (List Char))
  /-- The nullable wrapper around everything in its brackets. -/
  | nullable (inner : List Char)
  /-- Any other generic type, with its arguments but for empty ones. -/
  | generic (name : List Char) (arguments : List (List Char))
  /-- A type without arguments. -/
  | plain (name : List Char)
  deriving DecidableEq, Repr

/-- A type expression without the blanks around it and without one nullable mark at its end. -/
def bareType (text : List Char) : List Char :=
  match dropEnd? ['?'] (trim text) with
  | some inner => trimEnd inner
  | none => trim text

namespace TypeShape

/-- The layer of a generic application. -/
def ofGeneric (generic : GenericText) : TypeShape :=
  let name := lastSegment generic.name
  let arguments := (generic.interior.map typeArguments).getD []
  if dictionaryNames.contains name then .dictionary arguments
  else if collectionNames.contains name then .collection arguments
  else if name = "Nullable".toList then
    match generic.interior with
    | some inner => .nullable inner
    | none => .generic name []
  else .generic name (arguments.filter fun argument => !argument.isEmpty)

/-- The outermost layer of a bare type expression. -/
def of (text : List Char) : TypeShape :=
  match dropEnd? "[]".toList text with
  | some element => .array element
  | none =>
    match GenericText.of? text with
    | some application => ofGeneric application
    | none => .plain (lastSegment text)

/-- The texts inside a layer. -/
def inner : TypeShape → List (List Char)
  | .array element => [element]
  | .dictionary arguments => arguments
  | .collection arguments => arguments
  | .nullable text => [text]
  | .generic _ arguments => arguments
  | .plain _ => []

end TypeShape

/-! ### What is inside is shorter -/

theorem length_bareType_le (text : List Char) : (bareType text).length ≤ text.length := by
  unfold bareType
  split
  · next inner found =>
    have sizes := congrArg List.length (dropEnd?_eq_some_iff.1 found)
    have := length_trimEnd_le inner
    have := length_trim_le text
    simp only [List.length_append] at sizes
    omega
  · exact length_trim_le text

theorem GenericText.length_interior_lt {text interior : List Char} {generic : GenericText}
    (found : GenericText.of? text = some generic) (inside : generic.interior = some interior) :
    interior.length < text.length := by
  unfold GenericText.of? at found
  split at found
  · simp at found
  · obtain rfl := Option.some.inj found
    obtain ⟨⟨before, rest⟩, enclosed, rfl⟩ := Option.map_eq_some_iff.1 inside
    have size := Bracket.length_of_enclosed? enclosed
    have bound := (List.dropWhile_sublist (p := fun c => decide (c ≠ '<')) (l := text)).length_le
    simp only at *
    omega

theorem length_le_of_mem_typeArguments {text argument : List Char}
    (member : argument ∈ typeArguments text) : argument.length ≤ text.length :=
  Bracket.length_le_of_mem_split member

/-- Everything inside a generic application is no longer than what stands between its brackets. -/
theorem TypeShape.exists_interior_of_mem_inner_ofGeneric {generic : GenericText}
    {piece : List Char} (member : piece ∈ (ofGeneric generic).inner) :
    ∃ interior, generic.interior = some interior ∧ piece.length ≤ interior.length := by
  have ofArguments (isArgument : piece ∈ (generic.interior.map typeArguments).getD []) :
      ∃ interior, generic.interior = some interior ∧ piece.length ≤ interior.length := by
    cases inside : generic.interior with
    | none => simp [inside] at isArgument
    | some interior =>
      exact ⟨interior, rfl, length_le_of_mem_typeArguments (by simpa [inside] using isArgument)⟩
  unfold ofGeneric at member
  simp only at member
  split at member
  · exact ofArguments member
  · split at member
    · exact ofArguments member
    · split at member
      · split at member
        · next interior inside =>
          obtain rfl : piece = interior := by simpa [inner] using member
          exact ⟨piece, inside, Nat.le_refl _⟩
        · simp [inner] at member
      · exact ofArguments (List.mem_filter.1 member).1

/-- The texts inside the layer of a type expression are shorter than the expression. -/
theorem TypeShape.length_lt_of_mem_inner {text piece : List Char}
    (member : piece ∈ (TypeShape.of (bareType text)).inner) : piece.length < text.length := by
  refine Nat.lt_of_lt_of_le ?_ (length_bareType_le text)
  unfold TypeShape.of at member
  split at member
  · next element found =>
    obtain rfl : piece = element := by simpa [inner] using member
    have sizes := congrArg List.length (dropEnd?_eq_some_iff.1 found)
    simp at sizes
    omega
  · split at member
    · next generic found =>
      obtain ⟨interior, inside, bound⟩ := exists_interior_of_mem_inner_ofGeneric member
      exact Nat.lt_of_le_of_lt bound (GenericText.length_interior_lt found inside)
    · simp [inner] at member

end Source

end SharpTypes

/-
What a type expression comes to. Each layer is read by `TypeShape.of` and the texts inside it are
resolved in turn; they are shorter, so this ends on every text, and a text that is no type
expression comes to a reference by whatever name it holds. Dictionaries and collections with a
malformed argument list come to the loosest type of their kind, and each is reported as a fault.
-/

import SharpTypes.Source.TypeShape

namespace SharpTypes.Source

open Text

/-- The type of a bare name: a primitive if the name is built in, else a reference. -/
def namedType (name : List Char) : TargetType :=
  match Primitive.ofName? name with
  | some primitive => .primitive primitive
  | none => .reference name []

/-- Only a plain number makes the keys of a record numbers. -/
def mapKeyOf (key : Resolved) : MapKey :=
  if key = ⟨.primitive .number, false⟩ then .number else .string

/-- A record with any values, which a malformed dictionary comes to. -/
def anyRecord : Resolved :=
  (TargetType.record .string (TargetType.primitive .any).single).single

/-- An array of anything, which a malformed collection comes to. -/
def anyArray : Resolved :=
  ⟨.primitive .any, true⟩

/-- What a type expression comes to. -/
def resolve (text : List Char) : Resolved :=
  match _shape : TypeShape.of (bareType text) with
  | .array element => ⟨(resolve element).type, true⟩
  | .dictionary [key, value] =>
    if key.isEmpty || value.isEmpty then anyRecord
    else (TargetType.record (mapKeyOf (resolve key)) (resolve value)).single
  | .dictionary _ => anyRecord
  | .collection [element] =>
    if element.isEmpty then anyArray else ⟨(resolve element).type, true⟩
  | .collection _ => anyArray
  | .nullable inner => resolve inner
  | .generic name arguments =>
    (TargetType.reference name (arguments.attach.map fun ⟨argument, _⟩ => resolve argument)).single
  | .plain name => (namedType name).single
termination_by text.length
decreasing_by
  all_goals exact TypeShape.length_lt_of_mem_inner (by simp_all [TypeShape.inner])

/-! ### Faults -/

/-- What is wrong with the argument list of a type expression. -/
inductive TypeFaultKind where
  /-- A dictionary without exactly two arguments. -/
  | dictionaryArity
  /-- A dictionary one of whose two arguments is empty. -/
  | dictionaryGap
  /-- A collection without exactly one argument. -/
  | collectionArity
  deriving DecidableEq, Repr

/-- A malformed argument list, with the bare type expression that it belongs to. -/
structure TypeFault where
  kind : TypeFaultKind
  text : List Char
  deriving DecidableEq, Repr

/-- The malformed argument lists met while a type expression is resolved, in order. -/
def typeFaults (text : List Char) : List TypeFault :=
  match _shape : TypeShape.of (bareType text) with
  | .array element => typeFaults element
  | .dictionary [key, value] =>
    if key.isEmpty || value.isEmpty then [⟨.dictionaryGap, bareType text⟩]
    else typeFaults key ++ typeFaults value
  | .dictionary _ => [⟨.dictionaryArity, bareType text⟩]
  | .collection [element] =>
    if element.isEmpty then [⟨.collectionArity, bareType text⟩] else typeFaults element
  | .collection _ => [⟨.collectionArity, bareType text⟩]
  | .nullable inner => typeFaults inner
  | .generic _ arguments => arguments.attach.flatMap fun ⟨argument, _⟩ => typeFaults argument
  | .plain _ => []
termination_by text.length
decreasing_by
  all_goals exact TypeShape.length_lt_of_mem_inner (by simp_all [TypeShape.inner])

/-! ### Members -/

/-- The type of a property with its nullable mark taken off. -/
structure MemberType where
  text : List Char
  isNullable : Bool
  deriving DecidableEq, Repr

/-- Takes off one nullable mark: a `?` at the end, or the wrapper `Nullable` or `System.Nullable`
around the whole type. -/
def MemberType.of (text : List Char) : MemberType :=
  match dropEnd? ['?'] (trim text) with
  | some inner => ⟨trimEnd inner, true⟩
  | none =>
    match GenericText.of? (trim text) with
    | some ⟨name, some inner⟩ =>
      if name = "Nullable".toList ∨ name = "System.Nullable".toList then ⟨trim inner, true⟩
      else ⟨trim text, false⟩
    | _ => ⟨trim text, false⟩

/-- A property with a name and a written type. -/
def resolveMember (name type : List Char) : Member :=
  let bare := MemberType.of type
  let resolved := resolve bare.text
  ⟨name, resolved.type, resolved.isArray, bare.isNullable⟩

/-- The malformed argument lists met while the type of a property is resolved. -/
def memberFaults (type : List Char) : List TypeFault :=
  typeFaults (MemberType.of type).text

end SharpTypes.Source

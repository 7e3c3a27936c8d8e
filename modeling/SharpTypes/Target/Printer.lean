/-
The written form of types. An array is marked by `[]` after the type, arguments stand in angle
brackets, and a property that may be absent gets the alternative `null`.
-/

import SharpTypes.Target.Basic
import SharpTypes.Text.Pieces

namespace SharpTypes

/-- The name of a primitive. -/
def Primitive.render : Primitive → List Char
  | .string => "string".toList
  | .number => "number".toList
  | .boolean => "boolean".toList
  | .any => "any".toList
  | .blob => "Blob".toList

/-- The name of a key type. -/
def MapKey.render : MapKey → List Char
  | .string => "string".toList
  | .number => "number".toList

namespace TargetType

mutual

/-- The written form of a type. -/
def render : TargetType → List Char
  | .primitive kind => kind.render
  | .reference name [] => name
  | .reference name (first :: rest) =>
    name ++ '<' :: renderArrayed first ++ renderFurther rest ++ ['>']
  | .record key value =>
    "Record<".toList ++ key.render ++ ", ".toList ++ renderArrayed value ++ ['>']

/-- The written form of a type with its mark. -/
def renderArrayed : Resolved → List Char
  | ⟨type, false⟩ => render type
  | ⟨type, true⟩ => render type ++ "[]".toList

/-- The written form of the arguments after the first, each behind a comma. -/
def renderFurther : List Resolved → List Char
  | [] => []
  | argument :: rest => ", ".toList ++ renderArrayed argument ++ renderFurther rest

end

end TargetType

/-- The written form of what a type expression comes to. -/
def Arrayed.render (resolved : Resolved) : List Char :=
  TargetType.renderArrayed resolved

namespace Member

/-- Whether the written type of the property takes an array mark. A record never does, and a text
that already ends in one does not get a second. -/
def marksArray (member : Member) : Bool :=
  match member.type with
  | .record _ _ => false
  | _ => member.isArray && !("[]".toList).isSuffixOf member.type.render

/-- The written type of the property. -/
def renderType (member : Member) : List Char :=
  member.type.render ++ (if member.marksArray then "[]".toList else []) ++
    if member.isNullable then " | null".toList else []

end Member

end SharpTypes

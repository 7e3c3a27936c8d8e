/-
The written form of a declaration. An enumeration becomes an enum whose values repeat their names; a
class becomes an interface with one line a property. The names of properties follow a naming
convention and are quoted where they could not stand as they are.
-/

import SharpTypes.Declaration
import SharpTypes.Naming
import SharpTypes.Target.Printer

namespace SharpTypes

open Text

/-- Whether a name may stand unquoted as the key of a property. -/
def isPropertyKey : List Char → Bool
  | [] => false
  | first :: rest =>
    (isAlphabetic first || first == '_' || first == '$') &&
      rest.all fun c => isAlphanumeric c || c == '_' || c == '$'

/-- A name as the key of a property, in single quotes where it needs them. -/
def propertyKey (name : List Char) : List Char :=
  if isPropertyKey name then name else ['\''] ++ name ++ ['\'']

/-- The line of a property. -/
def Member.render (naming : NamingConvention) (member : Member) : List Char :=
  "  ".toList ++ propertyKey (naming.apply member.name) ++ ": ".toList ++ member.renderType ++ [';']

/-- The line of an enumeration value, without the comma that may follow. -/
def renderValue (value : List Char) : List Char :=
  "  ".toList ++ value ++ " = '".toList ++ value ++ ['\'']

/-- A list of parameters or arguments; nothing if it is empty. -/
def renderParameters (parameters : List (List Char)) : List Char :=
  if parameters.isEmpty then [] else ['<'] ++ join ", ".toList parameters ++ ['>']

/-- A header with its block of lines; the braces of an empty block stand together. -/
def renderBlock (header separator : List Char) (lines : List (List Char)) : List Char :=
  if lines.isEmpty then header ++ " \x7b\x7d".toList
  else header ++ " \x7b\n".toList ++ join separator lines ++ "\n\x7d".toList

/-- The first line of an interface, up to the brace. -/
def ClassShape.renderHeader (shape : ClassShape) (name : List Char) : List Char :=
  "export interface ".toList ++ name ++ renderParameters shape.parameters ++
    match shape.base with
    | some base => " extends ".toList ++ base ++ renderParameters shape.baseArguments
    | none => []

/-- The written form of a declaration, without a line end after it. -/
def Declaration.render (naming : NamingConvention) (declaration : Declaration) : List Char :=
  match declaration.body with
  | .enumeration values =>
    renderBlock ("export enum ".toList ++ declaration.name) ",\n".toList (values.map renderValue)
  | .object shape =>
    renderBlock (shape.renderHeader declaration.name) ['\n']
      (shape.members.map (Member.render naming))

end SharpTypes

/-
Declarations: enumerations with their values, and classes with their properties, type parameters and
base class. Names, parameters and base arguments are kept as they were written; the types of
properties are already those of the generated code.
-/

import SharpTypes.Target.Basic

namespace SharpTypes

/-- What a class declares besides its name. -/
structure ClassShape where
  /-- The properties, in order. -/
  members : List Member
  /-- The first base type, without its arguments. -/
  base : Option (List Char)
  /-- The type parameters of the class. -/
  parameters : List (List Char)
  /-- The type arguments of the base type. -/
  baseArguments : List (List Char)
  deriving DecidableEq, Repr

/-- The kinds of declarations. -/
inductive DeclarationBody where
  /-- An enumeration with its values, in order. -/
  | enumeration (values : List (List Char))
  /-- A class. -/
  | object (shape : ClassShape)
  deriving DecidableEq, Repr

/-- A named declaration. -/
structure Declaration where
  name : List Char
  body : DeclarationBody
  deriving DecidableEq, Repr

namespace Declaration

/-- Whether the declaration is an enumeration. -/
def isEnumeration (declaration : Declaration) : Bool :=
  match declaration.body with
  | .enumeration _ => true
  | .object _ => false

end Declaration

end SharpTypes

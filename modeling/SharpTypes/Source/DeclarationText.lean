/-
The declaration behind a marker, cut into its parts: for an enumeration the name and the body, for a
class also the type parameters and the base type. A text without a matching header, or whose body
never closes, holds no declaration.
-/

import SharpTypes.Declaration
import SharpTypes.Source.Property

namespace SharpTypes.Source

open Text

/-- A class as it is written. -/
structure ObjectText where
  name : List Char
  parameters : List (List Char)
  base : Option Header.BaseType
  body : List Char
  deriving DecidableEq, Repr

/-- A declaration as it is written. -/
inductive DeclarationText where
  | enumeration (name body : List Char)
  | object (text : ObjectText)
  deriving DecidableEq, Repr

namespace DeclarationText

/-- The enumeration that the text starts with. -/
def enumeration? (text : List Char) : Option DeclarationText :=
  (Header.enumeration? text).bind fun (name, rest) =>
    (Bracket.curly.body? rest).map fun body => .enumeration name body

/-- The class that the text starts with. -/
def object? (text : List Char) : Option DeclarationText :=
  (Header.object? text).bind fun (name, rest) =>
    let (parameters, behind) := Header.genericList (trimStart rest)
    let (base, after) := Header.baseType (trimStart behind)
    (Bracket.curly.body? after).map fun body => .object ⟨name, parameters, base, body⟩

/-- The declaration that the text starts with. -/
def of? (text : List Char) : Option DeclarationText :=
  (enumeration? text).or (object? text)

/-! ### Enumeration values -/

/-- The value that one entry of an enumeration declares: what stands before the initialiser and
after the attributes, if it is an identifier. -/
def value? (entry : List Char) : Option (List Char) :=
  let name := trim (beforeFirst '=' (trimStart (Header.afterAttributes entry)))
  if isIdentifier name then some name else none

/-- The values that the body of an enumeration declares. -/
def values (body : List Char) : List (List Char) :=
  (Bracket.round.split ',' body).filterMap value?

/-! ### Meaning -/

/-- The declaration that is written. -/
def declaration : DeclarationText → Declaration
  | .enumeration name body => ⟨name, .enumeration (values body)⟩
  | .object text =>
    ⟨text.name, .object {
      members := Property.members text.body
      base := text.base.map Header.BaseType.name
      parameters := text.parameters
      baseArguments := (text.base.map Header.BaseType.arguments).getD [] }⟩

/-- The malformed argument lists among the types of its properties. -/
def faults : DeclarationText → List TypeFault
  | .enumeration _ _ => []
  | .object text =>
    ((Property.properties text.body).filter fun written => !written.isStatic).flatMap fun written =>
      memberFaults written.type

end DeclarationText

end SharpTypes.Source

/-
The named fields that settings are written down with, and what can be wrong with one. Every fault
has a text that names the field or what was found and what was wanted.
-/

import SharpTypes.Json.Number
import SharpTypes.Naming
import SharpTypes.Text.Quoted

namespace SharpTypes.Settings

open Text

/-- The fields of settings. -/
inductive Field where
  | outputPath
  | marker
  | singleFile
  | memberNaming
  | pathNaming
  | fileSuffix
  | sortDeclarations
  deriving DecidableEq, Repr

namespace Field

/-- The fields, in the order of a list of their values. -/
def all : List Field :=
  [.outputPath, .marker, .singleFile, .memberNaming, .pathNaming, .fileSuffix, .sortDeclarations]

/-- The name that a field is written with. -/
def name : Field → List Char
  | .outputPath => "outputPath".toList
  | .marker => "targetAnnotation".toList
  | .singleFile => "singleOutputFile".toList
  | .memberNaming => "namingConvention".toList
  | .pathNaming => "fileNamingConvention".toList
  | .fileSuffix => "fileSuffix".toList
  | .sortDeclarations => "sortDeclarations".toList

/-- The field of a name. -/
def ofName? (text : List Char) : Option Field :=
  all.find? fun field => field.name == text

theorem ofName?_name (field : Field) : ofName? field.name = some field := by
  cases field <;> decide

end Field

/-- What is wrong with written settings. -/
inductive Fault where
  /-- A field that has to be there is not. -/
  | missing (name : List Char)
  /-- A field is there twice. -/
  | duplicate (name : List Char)
  /-- No naming convention has this name. -/
  | unknownConvention (name : List Char)
  /-- A value has none of the forms that are allowed. -/
  | noVariant (kind : List Char)
  /-- A value is of the wrong type. -/
  | wrongType (found : Json) (wanted : List Char)
  /-- An object has not exactly one member. -/
  | notSingleton
  /-- A list of field values is too short. -/
  | tooShort (length : Nat)
  /-- A list of field values is too long. -/
  | tooLong (length : Nat)

/-- What a value is, in words. -/
def describe : Json → List Char
  | .null => "null".toList
  | .boolean true => "boolean `true`".toList
  | .boolean false => "boolean `false`".toList
  | .number number =>
    match number.value? with
    | some value => value.describe
    | none => "number".toList
  | .string text => "string ".toList ++ showQuoted text
  | .array _ => "sequence".toList
  | .object _ => "map".toList

/-- A name in backquotes. -/
def backquoted (name : List Char) : List Char :=
  "`".toList ++ name ++ "`".toList

/-- What is wrong, in words. -/
def Fault.message : Fault → List Char
  | .missing name => "missing field ".toList ++ backquoted name
  | .duplicate name => "duplicate field ".toList ++ backquoted name
  | .unknownConvention name =>
    "unknown variant ".toList ++ backquoted name ++ ", expected one of ".toList ++
      join ", ".toList (NamingConvention.all.map fun convention => backquoted convention.name)
  | .noVariant kind => "data did not match any variant of untagged enum ".toList ++ kind
  | .wrongType found wanted =>
    "invalid type: ".toList ++ describe found ++ ", expected ".toList ++ wanted
  | .notSingleton => "invalid value: map, expected map with a single key".toList
  | .tooShort length =>
    "invalid length ".toList ++ (Nat.repr length).toList ++
      ", expected struct CodegenConfig with 7 elements".toList
  | .tooLong length =>
    "invalid length ".toList ++ (Nat.repr length).toList ++
      ", expected fewer elements in array".toList

end SharpTypes.Settings

/-
Settings as JSON. Every field is written, but for an absent suffix; one convention for files and
directories is written by its name, and two as an object.
-/

import SharpTypes.Json.Printer
import SharpTypes.Settings.Field
import SharpTypes.Settings.Basic

namespace SharpTypes

/-- A convention as JSON. -/
def NamingConvention.toJson (convention : NamingConvention) : Json :=
  .string convention.name

/-- Conventions for files and directories as JSON. -/
def PathNaming.toJson : PathNaming → Json
  | .uniform convention => convention.toJson
  | .split file directory =>
    .object [("file".toList, file.toJson), ("dir".toList, directory.toJson)]

namespace Settings

/-- The members of the object that settings are written as. -/
def toMembers (settings : Settings) : List (List Char × Json) :=
  [(Field.outputPath.name, .string settings.outputPath.text),
    (Field.marker.name, .string settings.marker),
    (Field.singleFile.name, .boolean settings.singleFile),
    (Field.memberNaming.name, settings.memberNaming.toJson),
    (Field.pathNaming.name, settings.pathNaming.toJson)] ++
    (match settings.fileSuffix with
      | some suffix => [(Field.fileSuffix.name, .string suffix)]
      | none => []) ++
    [(Field.sortDeclarations.name, .boolean settings.sortDeclarations)]

/-- Settings as JSON. -/
def toJson (settings : Settings) : Json :=
  .object settings.toMembers

end Settings

/-- Project files as JSON. -/
def ProjectFiles.toJson : ProjectFiles → Json
  | .one path => .string path.text
  | .many paths => .array (paths.map fun path => .string path.text)

namespace ProjectSettings

/-- Project settings as JSON. -/
def toJson (project : ProjectSettings) : Json :=
  .object (("projectFiles".toList, project.projectFiles.toJson) :: project.settings.toMembers)

end ProjectSettings

end SharpTypes

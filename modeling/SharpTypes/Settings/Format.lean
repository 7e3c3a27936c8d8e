/-
The formats of settings files. The extension of a file tells its format: TOML if it is `toml`, and
JSON otherwise. Each format has the name of the file that is looked for, and a sample.
-/

import SharpTypes.Settings.Reading
import SharpTypes.Toml.Document

namespace SharpTypes

/-- A format of settings files. -/
inductive SettingsFormat where
  | json
  | toml
  deriving DecidableEq, Repr

namespace SettingsFormat

/-- The formats, in the order in which their files are looked for. -/
def all : List SettingsFormat :=
  [.json, .toml]

/-- The name of the format. -/
def name : SettingsFormat → List Char
  | .json => "json".toList
  | .toml => "toml".toList

/-- The format of a name. -/
def ofName? (text : List Char) : Option SettingsFormat :=
  all.find? fun format => format.name == text

/-- The name of the file with the settings of a project. -/
def fileName (format : SettingsFormat) : List Char :=
  "cs2ts.config.".toList ++ format.name

/-- The format of a file. -/
def ofPath (path : FilePath) : SettingsFormat :=
  if path.extension? = some SettingsFormat.toml.name then .toml else .json

/-- The project settings that a text holds. -/
def parse? (text : List Char) : SettingsFormat → Option ProjectSettings
  | .json => (ProjectSettings.parse text).toOption
  | .toml =>
    (Toml.Document.parse? text).bind fun members => (ProjectSettings.ofMembers members).toOption

/-- A sample of a settings file. -/
def sample : SettingsFormat → List Char
  | .json =>
    "\x7b
  \"projectFiles\": [\"./Api/Api.csproj\"],
  \"outputPath\": \"./web/src/types\",
  \"targetAnnotation\": \"TypeSharp\",
  \"singleOutputFile\": false,
  \"namingConvention\": \"camel\",
  \"fileNamingConvention\": \"kebab\"
\x7d
".toList
  | .toml =>
    "# cs2ts configuration

# Projects whose directories are scanned for annotated C# models
projectFiles = [\"./Api/Api.csproj\"]

# Root directory for generated TypeScript files
outputPath = \"./web/src/types\"

# Attribute that opts a class or enum into generation: [TypeSharp]
targetAnnotation = \"TypeSharp\"

# Write everything into a single types.ts instead of one file per source file
singleOutputFile = false

# Member names: camel, pascal, snake or kebab
namingConvention = \"camel\"

# File and directory names. Use a table to name them separately:
# fileNamingConvention = \x7b file = \"camel\", dir = \"kebab\" \x7d
fileNamingConvention = \"kebab\"

# Appended to every generated file name: User.cs -> user-dto.ts
# fileSuffix = \"dto\"
".toList

end SettingsFormat

end SharpTypes

/-
Settings: where generated files go and how things in them are named. A project's settings also name
the project files whose directories are searched.
-/

import SharpTypes.FilePath
import SharpTypes.Naming

namespace SharpTypes

open Text

/-- The conventions for the names of files and directories. -/
inductive PathNaming where
  /-- One convention for both. -/
  | uniform (convention : NamingConvention)
  /-- One convention each. -/
  | split (file directory : NamingConvention)
  deriving DecidableEq, Repr

namespace PathNaming

/-- The convention for the names of files. -/
def file : PathNaming → NamingConvention
  | .uniform convention => convention
  | .split file _ => file

/-- The convention for the names of directories. -/
def directory : PathNaming → NamingConvention
  | .uniform convention => convention
  | .split _ directory => directory

end PathNaming

/-- How declarations are found and written. -/
structure Settings where
  /-- The directory below which all files are written. -/
  outputPath : FilePath
  /-- The name of the attribute that marks a declaration. -/
  marker : List Char
  /-- Whether everything goes into one file. -/
  singleFile : Bool
  /-- The convention for the names of properties. -/
  memberNaming : NamingConvention
  /-- The conventions for the names of files and directories. -/
  pathNaming : PathNaming
  /-- What is appended to the name of every file. -/
  fileSuffix : Option (List Char)
  /-- Whether the declarations in the one file are sorted. -/
  sortDeclarations : Bool
  deriving DecidableEq, Repr

namespace Settings

/-- The settings for an output directory in which nothing else is set. -/
def forOutput (outputPath : FilePath) : Settings where
  outputPath := outputPath
  marker := "TypeSharp".toList
  singleFile := false
  memberNaming := .camel
  pathNaming := .uniform .kebab
  fileSuffix := none
  sortDeclarations := false

/-! ### Validity -/

/-- Why settings cannot be used. -/
inductive Problem where
  | emptyOutputPath
  | markerNotIdentifier (marker : List Char)
  | suffixWithSeparator (suffix : List Char)
  deriving DecidableEq, Repr

/-- What is wrong, in words. -/
def Problem.message (problem : Problem) : List Char :=
  "configuration error: ".toList ++
    match problem with
    | .emptyOutputPath => "outputPath cannot be empty".toList
    | .markerNotIdentifier marker =>
      "targetAnnotation must be a plain identifier, got '".toList ++ marker ++ ['\'']
    | .suffixWithSeparator suffix =>
      "fileSuffix cannot contain path separators, got '".toList ++ suffix ++ ['\'']

/-- Whether the character separates the names in a path on some system. -/
def isPathSeparator (c : Char) : Bool :=
  c == '/' || c == '\\'

/-- The first thing that is wrong with the settings. -/
def problem? (settings : Settings) : Option Problem :=
  if settings.outputPath.text.isEmpty then some .emptyOutputPath
  else if !isIdentifier settings.marker then some (.markerNotIdentifier settings.marker)
  else
    match settings.fileSuffix with
    | some suffix => if suffix.any isPathSeparator then some (.suffixWithSeparator suffix) else none
    | none => none

end Settings

/-- The project files of a project's settings: one, or a list of any length. -/
inductive ProjectFiles where
  | one (path : FilePath)
  | many (paths : List FilePath)
  deriving DecidableEq, Repr

namespace ProjectFiles

/-- The paths of the project files. -/
def paths : ProjectFiles → List FilePath
  | .one path => [path]
  | .many paths => paths

/-- The same project files, each path changed. -/
def map (change : FilePath → FilePath) : ProjectFiles → ProjectFiles
  | .one path => .one (change path)
  | .many paths => .many (paths.map change)

end ProjectFiles

/-- Settings together with the project files they apply to. -/
structure ProjectSettings where
  projectFiles : ProjectFiles
  settings : Settings
  deriving DecidableEq, Repr

namespace ProjectSettings

/-- The directories to search, one a project file; the current directory for a path without parent.
-/
def directories (project : ProjectSettings) : List FilePath :=
  project.projectFiles.paths.map fun path => path.parent?.getD ⟨['.']⟩

/-- The same settings with all relative paths seen from a directory. -/
def relocate (project : ProjectSettings) (base : FilePath) : ProjectSettings where
  projectFiles := project.projectFiles.map base.join
  settings := { project.settings with outputPath := base.join project.settings.outputPath }

end ProjectSettings

end SharpTypes

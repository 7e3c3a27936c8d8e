/-
Where generated files lie. The directories of a source file are kept below the output directory and
renamed by convention; the file is named after the source file and a suffix, by convention too. This
is the only place where output paths are made, so everything that speaks of a file speaks of the
same one.
-/

import SharpTypes.Declaration
import SharpTypes.Settings.Basic

namespace SharpTypes

open Text

/-- How output paths are made. -/
structure Layout where
  root : FilePath
  naming : PathNaming
  /-- What is appended to every file name; never blank at its ends and never empty. -/
  suffix : Option (List Char)
  deriving DecidableEq, Repr

namespace Layout

/-- The layout that settings ask for. A blank suffix is none. -/
def of (settings : Settings) : Layout where
  root := settings.outputPath
  naming := settings.pathNaming
  suffix := (settings.fileSuffix.map trim).filter fun suffix => !suffix.isEmpty

/-- The names of the directories that hold a file, dots and anchors aside. -/
def directoryNames (source : FilePath) : List (List Char) :=
  ((source.parent?.map FilePath.components).getD []).filterMap fun component =>
    match component with
    | .name name => some name
    | _ => none

/-- The name of the file that a source file is turned into. -/
def fileName (layout : Layout) (source : FilePath) : List Char :=
  let stem := source.fileStem?.getD []
  let base :=
    match layout.suffix with
    | some suffix => stem ++ '-' :: suffix
    | none => stem
  layout.naming.file.apply base ++ ".ts".toList

/-- The path of the file that a source file, given by its path inside its project, is turned into.
-/
def unitPath (layout : Layout) (source : FilePath) : FilePath :=
  ((directoryNames source).foldl
    (fun path name => path.child (layout.naming.directory.apply name)) layout.root).child
    (layout.fileName source)

/-- The path of the one file that holds all declarations. -/
def singleFilePath (layout : Layout) : FilePath :=
  layout.root.child "types.ts".toList

end Layout

/-- The declarations found in one source file. -/
structure ParsedFile where
  /-- The path that the file was read from. -/
  sourcePath : FilePath
  /-- Its path inside its project. -/
  relativePath : FilePath
  declarations : List Declaration
  deriving DecidableEq, Repr

end SharpTypes

/-
Source files and what they declare. A file with no marked declarations yields nothing. The path of a
file inside its project is what is left behind the directory of the project, and of a file that is
not in there only the name.
-/

import SharpTypes.FileTree.Access
import SharpTypes.Output.Event
import SharpTypes.Output.Layout
import SharpTypes.Source.SourceText

namespace SharpTypes.ParsedFile

/-- The path of a file inside a project. -/
def pathInside (directory path : FilePath) : FilePath :=
  (path.relativeTo? directory).getD ⟨path.fileName?.getD []⟩

/-- What a source text declares, as a file of a project. -/
def ofText? (marker : List Char) (directory path : FilePath) (text : List Char) :
    Option ParsedFile :=
  let declarations := Source.declarations marker text
  if declarations.isEmpty then none else some ⟨path, pathInside directory path, declarations⟩

/-- What a source file of a project declares. -/
def read? (place : Workplace) (marker : List Char) (directory path : FilePath) :
    Except FileError (Option ParsedFile) := do
  return ofText? marker directory path (← place.read path)

/-- The events of reading a source text. -/
def textEvents (marker text : List Char) : List Event :=
  (Source.complaints marker text).map .complaint

end SharpTypes.ParsedFile

/-
The index of declarations: which file will hold the declaration of a name. Where a name is declared
more than once, the last declaration counts, and every declaration after the first is reported.
-/

import SharpTypes.Output.Event
import SharpTypes.Output.Layout

namespace SharpTypes

/-- The declared names with the files that hold them, in the order of declaration. -/
structure Index where
  entries : List (List Char × FilePath)
  deriving DecidableEq, Repr

namespace Index

/-- The names that a source file declares, each with the path of its output file. -/
def entriesOf (layout : Layout) (file : ParsedFile) : List (List Char × FilePath) :=
  file.declarations.map fun declaration => (declaration.name, layout.unitPath file.relativePath)

/-- The index of all declarations. -/
def build (layout : Layout) (files : List ParsedFile) : Index :=
  ⟨files.flatMap (entriesOf layout)⟩

/-- The last path that is listed for a name. -/
def lastPath? (name : List Char) : List (List Char × FilePath) → Option FilePath
  | [] => none
  | entry :: rest =>
    match lastPath? name rest with
    | some path => some path
    | none => if entry.1 = name then some entry.2 else none

/-- The file that holds the declaration of a name. -/
def get? (index : Index) (name : List Char) : Option FilePath :=
  lastPath? name index.entries

/-- The reports on the declarations of one file, after those before it. -/
def duplicatesIn (path source : FilePath) (earlier : List (List Char × FilePath)) :
    List Declaration → List Event
  | [] => []
  | declaration :: rest =>
    let entry := (declaration.name, path)
    (match lastPath? declaration.name earlier with
      | some previous => [.duplicateName declaration.name previous path source]
      | none => []) ++
      duplicatesIn path source (earlier ++ [entry]) rest

/-- The reports on the files after those whose entries are given. -/
def duplicatesAfter (layout : Layout) (earlier : List (List Char × FilePath)) :
    List ParsedFile → List Event
  | [] => []
  | file :: rest =>
    duplicatesIn (layout.unitPath file.relativePath) file.sourcePath earlier file.declarations ++
      duplicatesAfter layout (earlier ++ entriesOf layout file) rest

/-- The reports on all names that are declared again. -/
def duplicates (layout : Layout) (files : List ParsedFile) : List Event :=
  duplicatesAfter layout [] files

end Index

end SharpTypes

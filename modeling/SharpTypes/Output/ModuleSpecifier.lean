/-
How one generated file names another. A module specifier leads from the directory of the importing
file to the imported one, up by `..` and down by names, and leaves the extension out. It starts with
`../` or `./`, since anything else would name a package.
-/

import SharpTypes.FilePath

namespace SharpTypes.ModuleSpecifier

open Text

/-- A component as a part of a specifier. -/
def segment? : FilePath.Component → Option (List Char)
  | .root => some ['/']
  | .current => none
  | .parent => some "..".toList
  | .name name => some name

/-- The parts of a path, the current directory left out. -/
def segments (path : FilePath) : List (List Char) :=
  path.components.filterMap segment?

/-- What two lists have in common at their start is left out of both. -/
def apart : List (List Char) → List (List Char) → List (List Char) × List (List Char)
  | left :: lefts, right :: rights =>
    if left = right then apart lefts rights else (left :: lefts, right :: rights)
  | lefts, rights => (lefts, rights)

/-- The specifier of the file `target` in the file `source`. -/
def between (source target : FilePath) : List Char :=
  let (up, down) :=
    apart ((source.parent?.map segments).getD []) (segments target.withoutExtension)
  let path := join ['/'] (up.map (fun _ => "..".toList) ++ down)
  if "../".toList.isPrefixOf path then path else "./".toList ++ path

end SharpTypes.ModuleSpecifier

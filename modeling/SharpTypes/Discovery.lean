/-
The source files of a project: all files below its directory whose names end as source files do.
What lies in directories for build output and for dependencies is left out. The paths start with the
path of the directory, and they are sorted component by component. What lies behind a symbolic link
has a path through the link.
-/

import SharpTypes.FileTree.Access

namespace SharpTypes

open Text

namespace Discovery

/-- How the names of source files end. -/
def sourceEnding : List Char := ".cs".toList

/-- The directories whose contents are left out. -/
def excludedNames : List (List Char) :=
  ["bin".toList, "obj".toList, "node_modules".toList]

/-- Whether a path leads through a directory that is left out, or is one itself. -/
def isExcluded (path : FilePath) : Bool :=
  path.components.any fun component =>
    match component with
    | .name name => excludedNames.contains name
    | _ => false

/-- One step from a directory. The current directory is not named in the paths of what is in it. -/
def step (directory : FilePath) (piece : List Char) : FilePath :=
  if directory.same ⟨['.']⟩ then ⟨piece⟩ else directory.child piece

/-- The path with one more piece, if it still leads somewhere. A dot leads on from directories only.
-/
def advance? (place : Workplace) (path : FilePath) (piece : List Char) : Option FilePath :=
  let next := step path piece
  let leads :=
    if piece = ".".toList ∨ piece = "..".toList then place.hasDirectory path
    else place.isThere next
  if leads then some next else none

/-- The path of the directory as the paths of its files start. The search goes on behind a slash
that is put after the directory, so it starts at the root if there is nothing before the slash. -/
def base? (place : Workplace) (directory : FilePath) : Option FilePath :=
  match directory.text with
  | [] => some ⟨['/']⟩
  | '/' :: rest => (splitOn '/' rest).foldlM (advance? place) ⟨['/']⟩
  | text => (splitOn '/' text).foldlM (advance? place) ⟨['.']⟩

/-- The names that lead from a location to one below it. -/
def namesBelow? (base location : Location) : Option (List (List Char)) :=
  if base.isPrefixOf location && base.length < location.length then
    some (location.drop base.length)
  else none

/-- The path of what is listed, if it lies below a path that leads to the given location. -/
def pathBelow? (base : FilePath) (location : Location) (entry : Location × FileNode) :
    Option FilePath :=
  (namesBelow? location entry.1).map fun names => names.foldl step base

/-- The paths of all that lies below a path, which leads to the given location. -/
def below (tree : FileTree) (base : FilePath) (location : Location) : List FilePath :=
  tree.entries.filterMap (pathBelow? base location)

/-- The paths of the symbolic links among them. -/
def linksBelow (tree : FileTree) (base : FilePath) (location : Location) : List FilePath :=
  (tree.entries.filter fun entry => entry.2.isLink).filterMap (pathBelow? base location)

/-- The paths of all that lies below a path, through fewer symbolic links than given. -/
def belowWithin (place : Workplace) : Nat → FilePath → Location → List FilePath
  | 0, _, _ => []
  | links + 1, base, location =>
    below place.tree base location ++
      (linksBelow place.tree base location).flatMap fun path =>
        match place.locate path with
        | .ok inner => belowWithin place links path inner
        | .error _ => []

/-- Whether the path is the path of a source file by its name. -/
def isNamedAsSource (path : FilePath) : Bool :=
  path.fileName?.any fun name => (dropEnd? sourceEnding name).isSome

/-- Whether a path below a directory leads to a source file of the project. What is left out is told
by the names below the directory, or by all names if the path does not start with the directory. -/
def isSource (place : Workplace) (directory path : FilePath) : Bool :=
  isNamedAsSource path && !isExcluded ((path.relativeTo? directory).getD path) &&
    place.hasFile path

/-- The source files below a directory. -/
def sources (place : Workplace) (directory : FilePath) : List FilePath :=
  match base? place directory with
  | none => []
  | some base =>
    match place.locate base with
    | .error _ => []
    | .ok location =>
      let found := (belowWithin place Workplace.linkLimit base location).filter
        (isSource place directory)
      found.mergeSort fun left right => !right.before left

end Discovery

end SharpTypes

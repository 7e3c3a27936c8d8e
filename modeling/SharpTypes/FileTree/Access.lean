/-
Reading and changing a tree of files by paths. A path is followed name by name from the root or from
the current directory, and every name on the way but the last has to be a directory. Where a
symbolic link stands, its target is followed in its place, whether anything is there or not; only a
directory is never made through a link in the last place. What fails, fails with a cause.
-/

import SharpTypes.FileTree.Basic

namespace SharpTypes

open Text

/-- Why a path could not be used. -/
inductive FileError where
  | notFound
  | alreadyExists
  | notDirectory
  | isDirectory
  | nameTooLong
  | nulInPath
  | tooManyLinks
  | notText
  deriving DecidableEq, Repr

/-- The cause, in words. -/
def FileError.message : FileError → List Char
  | .notFound => "No such file or directory (os error 2)".toList
  | .alreadyExists => "File exists (os error 17)".toList
  | .notDirectory => "Not a directory (os error 20)".toList
  | .isDirectory => "Is a directory (os error 21)".toList
  | .nameTooLong => "File name too long (os error 36)".toList
  | .nulInPath => "file name contained an unexpected NUL byte".toList
  | .tooManyLinks => "Too many levels of symbolic links (os error 40)".toList
  | .notText => "stream did not contain valid UTF-8".toList

/-- A tree of files seen from one of its directories. -/
structure Workplace where
  tree : FileTree
  /-- Where relative paths start. -/
  current : Location

namespace Workplace

/-- The absolute path of the current directory. -/
def currentPath (place : Workplace) : FilePath :=
  ⟨'/' :: Text.join ['/'] place.current⟩

/-- The same directory in another tree. -/
def withTree (place : Workplace) (tree : FileTree) : Workplace :=
  { place with tree := tree }

/-! ### Following paths -/

/-- The greatest number of bytes of one name. -/
def longestName : Nat := 255

/-- The number of bytes that is too much for a path. -/
def pathLimit : Nat := 4096

/-- Where a piece of a path leads from a directory. -/
def enter (tree : FileTree) (location : Location) (piece : List Char) :
    Except FileError Location :=
  if !tree.hasDirectory location then .error .notDirectory
  else if FilePath.isIdle piece then .ok location
  else if piece = "..".toList then .ok location.dropLast
  else if longestName < byteSize piece then .error .nameTooLong
  else if (tree.get? (location ++ [piece])).isSome then .ok (location ++ [piece])
  else .error .notFound

/-- The location that a piece of a path names in a directory, whether or not anything is there. -/
def enterNew (tree : FileTree) (location : Location) (piece : List Char) :
    Except FileError Location :=
  if !tree.hasDirectory location then .error .notDirectory
  else if FilePath.isIdle piece ∨ piece = "..".toList then .error .isDirectory
  else if longestName < byteSize piece then .error .nameTooLong
  else .ok (location ++ [piece])

/-- Refuses texts that are no path. -/
def checkPath (path : FilePath) : Except FileError Unit :=
  if path.text.contains '\x00' then .error .nulInPath
  else if path.text.isEmpty then .error .notFound
  else if pathLimit ≤ byteSize path.text then .error .nameTooLong
  else .ok ()

/-- Where a path starts that is used in a directory. -/
def startFrom (location : Location) (path : FilePath) : Location :=
  if path.isRelative then location else []

/-- Where pieces lead, the last of them by a step of its own. From a symbolic link the way goes on
as given, with the pieces of the target in front. -/
def followUntil (tree : FileTree) (last : Location → List Char → Except FileError Location)
    (onward : Location → List (List Char) → Except FileError Location) :
    Location → List (List Char) → Except FileError Location
  | location, [] => .ok location
  | location, piece :: rest =>
    match if rest.isEmpty then last location piece else enter tree location piece with
    | .error error => .error error
    | .ok next =>
      match tree.get? next with
      | some (.link target) => do
        checkPath target
        onward (startFrom location target) (target.parts.pieces ++ rest)
      | _ => followUntil tree last onward next rest

/-- Where pieces lead through fewer symbolic links than given. -/
def followWithin (tree : FileTree) (last : Location → List Char → Except FileError Location) :
    Nat → Location → List (List Char) → Except FileError Location
  | 0 => fun _ _ => .error .tooManyLinks
  | links + 1 => followUntil tree last (followWithin tree last links)

/-- The number of symbolic links that is too much for a path. -/
def linkLimit : Nat := 41

/-- Where the pieces of a path lead. -/
def follow (tree : FileTree) : Location → List (List Char) → Except FileError Location :=
  followWithin tree (enter tree) linkLimit

/-- Where the path starts. -/
def origin (place : Workplace) (path : FilePath) : Location :=
  startFrom place.current path

/-- The location that a path leads to. -/
def locate (place : Workplace) (path : FilePath) : Except FileError Location := do
  checkPath path
  follow place.tree (place.origin path) path.parts.pieces

/-- What a path leads to. -/
def find (place : Workplace) (path : FilePath) : Except FileError FileNode := do
  match place.tree.get? (← place.locate path) with
  | some node => .ok node
  | none => .error .notFound

/-- Whether the path leads somewhere. -/
def isThere (place : Workplace) (path : FilePath) : Bool :=
  (place.find path).toBool

/-- Whether the path leads to a file. -/
def hasFile (place : Workplace) (path : FilePath) : Bool :=
  match place.find path with
  | .ok node => node.isFile
  | .error _ => false

/-- Whether the path leads to a directory. -/
def hasDirectory (place : Workplace) (path : FilePath) : Bool :=
  match place.find path with
  | .ok node => node = .directory
  | .error _ => false

/-- The text of the file that a path leads to. -/
def read (place : Workplace) (path : FilePath) : Except FileError (List Char) := do
  match ← place.find path with
  | .text contents => .ok contents
  | .binary _ => .error .notText
  | .directory => .error .isDirectory
  | .link _ => .error .tooManyLinks

/-! ### Changes -/

/-- The directory in which the last name of a path is looked up, and that name; no name if the path
ends in a dot, in two dots, or has no names. Slashes at the end do not matter. -/
def lastStep (place : Workplace) (path : FilePath) :
    Except FileError (Location × Option (List Char)) := do
  checkPath path
  match path.parts.pieces.reverse.dropWhile List.isEmpty with
  | [] => return (place.origin path, none)
  | last :: before =>
    let location ← follow place.tree (place.origin path) before.reverse
    if !place.tree.hasDirectory location then .error .notDirectory
    else if last = ".".toList ∨ last = "..".toList then return (location, none)
    else if longestName < byteSize last then .error .nameTooLong
    else return (location, some last)

/-- Makes the directory that a path names; what is already there is not touched, be it a link. -/
def makeDirectory (place : Workplace) (path : FilePath) : Except FileError FileTree := do
  match ← place.lastStep path with
  | (_, none) => .error .alreadyExists
  | (location, some name) =>
    if (place.tree.get? (location ++ [name])).isSome then .error .alreadyExists
    else return place.tree.set (location ++ [name]) .directory

/-- The location of the file that a path names, whether or not it is there. -/
def slot (place : Workplace) (path : FilePath) : Except FileError Location := do
  checkPath path
  followWithin place.tree (enterNew place.tree) linkLimit (place.origin path) path.parts.pieces

/-- Writes the text of the file that a path names, which is made if it is not there. -/
def write (place : Workplace) (path : FilePath) (contents : List Char) :
    Except FileError FileTree := do
  let location ← place.slot path
  if (place.tree.get? location).all FileNode.isFile then
    return place.tree.set location (.text contents)
  else .error .isDirectory

/-- The path, its parent, and so on for the given number of steps, as long as there is a further
parent and the path is not empty. -/
def upward (path : FilePath) : Nat → List FilePath
  | 0 => []
  | steps + 1 =>
    match path.parent? with
    | some parent => if path.text.isEmpty then [] else path :: upward parent steps
    | none => []

/-- The directories that may have to be made for a path, the path itself first. Every parent has
fewer components, so there are no more than these. -/
def ancestors (path : FilePath) : List FilePath :=
  upward path (path.components.length + 1)

/-- What came of making directories: the tree, and why it went no further. -/
structure Made where
  tree : FileTree
  failure : Option FileError

/-- Looks for the first of the directories that is there or can be made; also returns those before
it, which still have to be made, the outermost first. -/
def makeFirst (place : Workplace) (missing : List FilePath) :
    List FilePath → Made × List FilePath
  | [] => (⟨place.tree, none⟩, missing)
  | path :: further =>
    match place.makeDirectory path with
    | .ok tree => (⟨tree, none⟩, missing)
    | .error .notFound => makeFirst place (path :: missing) further
    | .error error =>
      if error = .alreadyExists ∧ place.hasDirectory path then (⟨place.tree, none⟩, missing)
      else (⟨place.tree, some error⟩, missing)

/-- Makes directories in turn. Those that are already there are passed over. -/
def makeAll (place : Workplace) : List FilePath → Made
  | [] => ⟨place.tree, none⟩
  | path :: further =>
    match place.makeDirectory path with
    | .ok tree => (place.withTree tree).makeAll further
    | .error error =>
      if error = .alreadyExists ∧ place.hasDirectory path then place.makeAll further
      else ⟨place.tree, some error⟩

/-- Makes a directory and all that it lies in. What was made before something fails stays. -/
def makeDirectories (place : Workplace) (path : FilePath) : Made :=
  let (made, missing) := place.makeFirst [] (ancestors path)
  match made.failure with
  | some error => ⟨made.tree, some error⟩
  | none => (place.withTree made.tree).makeAll missing

end Workplace

end SharpTypes

/-
File paths. A path is kept as the text it was given, since that is how it is shown; two paths are
the same if their components are. A path starts at the root, at the current directory written as
`.`, or nowhere in particular, and the pieces between its slashes follow. An empty piece and a `.`
among them mean nothing.
-/

import SharpTypes.Text.Pieces

namespace SharpTypes

open Text

/-- A path, as it is written. -/
structure FilePath where
  text : List Char
  deriving DecidableEq, Repr

namespace FilePath

/-- Where a path starts. -/
inductive Anchor where
  /-- At the root: a slash in front. -/
  | root
  /-- At the current directory: a `.` in front. -/
  | current
  /-- Wherever it is used. -/
  | free
  deriving DecidableEq, Repr

/-- A path cut at its slashes. -/
structure Parts where
  anchor : Anchor
  pieces : List (List Char)
  deriving DecidableEq, Repr

/-- A component of a path. -/
inductive Component where
  | root
  | current
  | parent
  | name (name : List Char)
  deriving DecidableEq, Repr

/-- The path cut at its slashes. -/
def parts (path : FilePath) : Parts :=
  match path.text with
  | '/' :: rest => ⟨.root, splitOn '/' rest⟩
  | text =>
    match splitOn '/' text with
    | ['.'] :: pieces => ⟨.current, pieces⟩
    | pieces => ⟨.free, pieces⟩

/-- The path of an anchor and pieces. -/
def ofParts : Parts → FilePath
  | ⟨.root, pieces⟩ => ⟨'/' :: join ['/'] pieces⟩
  | ⟨.current, []⟩ => ⟨['.']⟩
  | ⟨.current, first :: rest⟩ => ⟨'.' :: '/' :: join ['/'] (first :: rest)⟩
  | ⟨.free, pieces⟩ => ⟨join ['/'] pieces⟩

/-- Whether a piece means nothing. -/
def isIdle (piece : List Char) : Bool :=
  piece == [] || piece == ['.']

/-- The component that a piece stands for. -/
def componentOf? (piece : List Char) : Option Component :=
  if isIdle piece then none
  else if piece == ['.', '.'] then some .parent
  else some (.name piece)

/-- The component that an anchor stands for. -/
def Anchor.components : Anchor → List Component
  | .root => [.root]
  | .current => [.current]
  | .free => []

/-- The components of a path. -/
def components (path : FilePath) : List Component :=
  path.parts.anchor.components ++ path.parts.pieces.filterMap componentOf?

/-- Whether two paths have the same components. -/
def same (left right : FilePath) : Bool :=
  left.components == right.components

/-- Whether the path does not start at the root. -/
def isRelative (path : FilePath) : Bool :=
  path.parts.anchor ≠ .root

/-- The pieces without idle ones at their end. -/
def withoutIdleEnd (pieces : List (List Char)) : List (List Char) :=
  (pieces.reverse.dropWhile isIdle).reverse

/-- The path without its last component; nothing for the root and for an empty path. -/
def parent? (path : FilePath) : Option FilePath :=
  let cut := path.parts
  match cut.pieces.reverse.dropWhile isIdle, cut.anchor with
  | _ :: before, anchor => some (ofParts ⟨anchor, (before.dropWhile isIdle).reverse⟩)
  | [], .current => some ⟨[]⟩
  | [], _ => none

/-- The last component, if it is a name. -/
def fileName? (path : FilePath) : Option (List Char) :=
  match path.components.getLast? with
  | some (.name name) => some name
  | _ => none

/-- A file name cut at its last dot; a name without a dot, or with one only at its start, has no
extension. -/
def splitExtension (name : List Char) : List Char × Option (List Char) :=
  match name.reverse.dropWhile (· ≠ '.') with
  | _ :: before =>
    if before.isEmpty then (name, none) else (before.reverse, some (afterLast '.' name))
  | [] => (name, none)

/-- The file name without its extension. -/
def fileStem? (path : FilePath) : Option (List Char) :=
  path.fileName?.map fun name => (splitExtension name).1

/-- The extension of the file name. -/
def extension? (path : FilePath) : Option (List Char) :=
  path.fileName?.bind fun name => (splitExtension name).2

/-- The path with the extension of its file name taken off, and with it whatever follows the name.
-/
def withoutExtension (path : FilePath) : FilePath :=
  match path.fileName? with
  | none => path
  | some name =>
    let cut := path.parts
    ofParts ⟨cut.anchor,
      (withoutIdleEnd cut.pieces).dropLast ++ [(splitExtension name).1]⟩

/-- The second path as seen from the first: behind it, unless it starts at the root. -/
def join (base path : FilePath) : FilePath :=
  if path.isRelative then
    if base.text.isEmpty || base.text.getLast? == some '/' then ⟨base.text ++ path.text⟩
    else ⟨base.text ++ '/' :: path.text⟩
  else path

/-- The path one name further. -/
def child (base : FilePath) (name : List Char) : FilePath :=
  base.join ⟨name⟩

/-- The pieces behind the given number of components. -/
def piecesAfter : Nat → List (List Char) → List (List Char)
  | 0, pieces => pieces
  | _ + 1, [] => []
  | count + 1, piece :: rest =>
    if isIdle piece then piecesAfter (count + 1) rest else piecesAfter count rest

/-- What the path adds to another one whose components it starts with. -/
def relativeTo? (path base : FilePath) : Option FilePath :=
  if base.components.isPrefixOf path.components then
    let cut := path.parts
    let named := cut.anchor.components.length
    let count := base.components.length
    if count = 0 then some (ofParts ⟨cut.anchor, withoutIdleEnd cut.pieces⟩)
    else
      some (ofParts ⟨.free,
        withoutIdleEnd ((piecesAfter (count - named) cut.pieces).dropWhile isIdle)⟩)
  else none

/-! ### Order -/

/-- Where a component stands among the kinds of components. -/
def Component.rank : Component → Nat
  | .root => 0
  | .current => 1
  | .parent => 2
  | .name _ => 3

/-- Whether a component comes before another: by kind, and names by their characters. -/
def Component.before (left right : Component) : Bool :=
  match left, right with
  | .name left, .name right => left < right
  | left, right => left.rank < right.rank

/-- Whether one list of components comes before another, at the first difference or by ending first.
-/
def componentsBefore : List Component → List Component → Bool
  | _, [] => false
  | [], _ :: _ => true
  | left :: lefts, right :: rights =>
    left.before right || (left == right && componentsBefore lefts rights)

/-- Whether a path comes before another, component by component. -/
def before (left right : FilePath) : Bool :=
  componentsBefore left.components right.components

end FilePath

end SharpTypes

/-
The program. It looks at the files that the command may ask about, lets the command work on that
view, and then does to the real files what was done to the view. The view shows what symbolic links
lead to in their place, since the files are read and written through them.
-/

import SharpTypes.Command
import Std.Time.DateTime.Timestamp

namespace SharpTypes.Program

open Command

/-! ### Looking at files -/

/-- The text of the absolute path of a location. -/
def pathText (location : Location) : String :=
  String.ofList ('/' :: Text.join ['/'] location)

/-- What really lies at a location. Only files that may be read are opened. -/
def nodeAt (location : Location) (isRead : Bool) : IO (Option FileNode) := do
  let path := (← IO.currentDir) / pathText location
  if ← path.isDir then return some .directory
  if !(← path.pathExists) then return none
  if !isRead then return some (.binary [])
  let bytes ← IO.FS.readBinFile path
  match String.fromUTF8? bytes with
  | some text => return some (.text text.toList)
  | none => return some (.binary bytes.toList)

/-- The view with what lies at a location. -/
def observe (tree : FileTree) (location : Location) (isRead : Bool) : IO FileTree := do
  match ← nodeAt location isRead with
  | some node => return tree.set location node
  | none => return tree

/-- The view with everything on the way of a path. -/
def observePath (place : Workplace) (path : FilePath) : IO Workplace := do
  let mut tree := place.tree
  let mut location := place.origin path
  for piece in path.parts.pieces do
    if piece = "..".toList then
      location := location.dropLast
    else if !FilePath.isIdle piece then
      location := location ++ [piece]
      tree ← observe tree location true
  return place.withTree tree

/-- The view with everything below a location. -/
partial def observeBelow (tree : FileTree) (location : Location) : IO FileTree := do
  let path := (← IO.currentDir) / pathText location
  if !(← path.isDir) then return tree
  let mut tree := tree
  for entry in ← path.readDir do
    let name := entry.fileName.toList
    let inner := location ++ [name]
    tree ← observe tree inner (Text.dropEnd? Discovery.sourceEnding name).isSome
    tree ← observeBelow tree inner
  return tree

/-- The view with everything on the way of a path and below it. -/
def observeAll (place : Workplace) (path : FilePath) : IO Workplace := do
  let place ← observePath place path
  match place.locate path with
  | .ok location => return place.withTree (← observeBelow place.tree location)
  | .error _ => return place

/-- The view with what a project's settings name. -/
def observeProject (place : Workplace) (project : ProjectSettings) : IO Workplace := do
  let mut place := place
  for path in project.projectFiles.paths do
    place ← observePath place path
  for directory in project.directories do
    place ← observeAll place (if directory.text.isEmpty then ⟨['/']⟩ else directory)
  observeAll place project.settings.outputPath

/-- The view with all that matters to a settings file, given or not. -/
def observeSettings (place : Workplace) (given : Option FilePath) : IO Workplace := do
  let candidates :=
    SettingsFormat.all.map fun format => place.currentPath.child format.fileName
  let mut place := place
  for path in given.toList ++ candidates do
    place ← observePath place path
  match (locate place place.currentPath given).bind (readSettings place) with
  | .ok project => observeProject place project
  | .error _ => return place

/-- The view that a command needs. -/
def view (arguments : Arguments) : IO Workplace := do
  let current : FilePath := ⟨(← IO.currentDir).toString.toList⟩
  let location := current.parts.pieces.filter fun piece => !FilePath.isIdle piece
  let place ← observePath ⟨.empty, location⟩ current
  match arguments with
  | .task (.generate given) _ => observeSettings place given
  | .task (.check given) _ => observeSettings place given
  | .task (.init format) _ => observePath place (place.currentPath.child format.fileName)
  | _ => return place

/-! ### Changing files -/

/-- Does to the real files what was done to the view. -/
def apply (before after : FileTree) : IO Unit := do
  for (location, node) in after.entries do
    if before.get? location ≠ some node then
      let path := (← IO.currentDir) / pathText location
      match node with
      | .directory => IO.FS.createDir path
      | .text contents => IO.FS.writeFile path (String.ofList contents)
      | .binary _ => pure ()
      | .link _ => pure ()

/-! ### Messages -/

/-- The line that is written about an event. -/
def eventLine (event : Event) : List Char :=
  let level :=
    match event.level with
    | .debug => "DEBUG ".toList
    | .info => "INFO ".toList
    | .warn => "WARN ".toList
  level ++ event.message ++
    event.fields.flatMap fun (name, value) =>
      ' ' :: name ++ '=' ::
        match value with
        | .text text => text
        | .count count => (Nat.repr count).toList

/-- The present time. -/
def now : IO Timestamp := do
  let nanoseconds := (← Std.Time.Timestamp.now).toNanosecondsSinceUnixEpoch.val
  return ⟨nanoseconds.fdiv 1000000000, (nanoseconds.fmod 1000000000).toNat⟩

/-- Writes the notes on a run that are asked for. -/
def tell (arguments : Arguments) (report : Report) : IO Unit := do
  match arguments with
  | .task _ level =>
    for event in report.events do
      if level.admits event.level then IO.eprintln (String.ofList (eventLine event))
  | .misuse => IO.eprintln "error: the arguments cannot be understood; try --help"
  | _ => pure ()

/-- Runs the program with the arguments of the command line. -/
def start (arguments : List (List Char)) : IO UInt32 := do
  let parsed := Arguments.parse arguments
  let place ← view parsed
  let report := run place (← now) arguments
  apply place.tree report.tree
  IO.print (String.ofList report.output)
  tell parsed report
  match report.error with
  | some message => IO.eprintln (String.ofList ("Error: ".toList ++ message))
  | none => pure ()
  return UInt32.ofNat report.status

end SharpTypes.Program

def main (arguments : List String) : IO UInt32 :=
  SharpTypes.Program.start (arguments.map String.toList)

/-
Generating files: settings are loaded, the source files of all projects are read, and what they
declare is put together and written. Nothing is written unless everything was read and no two source
files ask for the same output file.
-/

import SharpTypes.Command.Loading
import SharpTypes.Command.Outcome
import SharpTypes.Discovery
import SharpTypes.Output.Source

namespace SharpTypes.Command

/-! ### Reading -/

/-- What was read of source files, up to the first that cannot be read. -/
structure Scan where
  /-- The files with declarations. -/
  files : List ParsedFile
  events : List Event
  failure : Option Failure

/-- Reads source files, each given with the directory of its project. -/
def scanFiles (place : Workplace) (marker : List Char) : List (FilePath × FilePath) → Scan
  | [] => ⟨[], [], none⟩
  | (directory, path) :: rest =>
    match place.read path with
    | .error error => ⟨[], [], some (.unreadableSource path error)⟩
    | .ok text =>
      let later := scanFiles place marker rest
      { later with
        files := (ParsedFile.ofText? marker directory path text).toList ++ later.files
        events := ParsedFile.textEvents marker text ++ later.events }

/-- The source files of all projects, each with the directory of its project. -/
def sourcesOf (place : Workplace) (project : ProjectSettings) : List (FilePath × FilePath) :=
  project.directories.flatMap fun directory =>
    (Discovery.sources place directory).map fun path => (directory, path)

/-- Reads the source files of all projects. -/
def scan (place : Workplace) (project : ProjectSettings) : Scan :=
  scanFiles place project.settings.marker (sourcesOf place project)

/-- The lines that are printed about a source file. -/
def foundLines (file : ParsedFile) : List (List Char) :=
  file.declarations.map fun declaration =>
    "  Found ".toList ++
      (if declaration.isEnumeration then "enum ".toList else "class ".toList) ++
      declaration.name ++ " in ".toList ++ file.relativePath.text

/-! ### Writing -/

/-- What was written, up to the first file that cannot be. -/
structure Written where
  tree : FileTree
  paths : List FilePath
  failure : Option Failure

/-- Makes the directory that a file is to lie in. -/
def makeParent (place : Workplace) (path : FilePath) : FileTree × Option Failure :=
  match path.parent? with
  | none => (place.tree, none)
  | some parent =>
    let made := place.makeDirectories parent
    (made.tree, made.failure.map fun _ => .noDirectory parent)

/-- Writes files in turn. -/
def writeEach (place : Workplace) : List OutputUnit → Written
  | [] => ⟨place.tree, [], none⟩
  | unit :: rest =>
    match makeParent place unit.path with
    | (tree, some failure) => ⟨tree, [], some failure⟩
    | (tree, none) =>
      match (place.withTree tree).write unit.path unit.contents with
      | .error _ => ⟨tree, [], some (.unwritable unit.path)⟩
      | .ok tree =>
        let later := writeEach (place.withTree tree) rest
        { later with paths := unit.path :: later.paths }

/-- Makes the output directory and writes files. -/
def writeUnits (place : Workplace) (root : FilePath) (units : List OutputUnit) : Written :=
  let made := place.makeDirectories root
  match made.failure with
  | some _ => ⟨made.tree, [], some (.noOutputDirectory root)⟩
  | none => writeEach (place.withTree made.tree) units

/-! ### The whole -/

/-- The lines that are printed about written files. -/
def writtenLines (written : Written) : List (List Char) :=
  written.paths.map fun path => "Generated: ".toList ++ path.text

/-- The lines that are printed before anything is read. -/
def openingLines (path : FilePath) (settings : Settings) : List (List Char) :=
  ["Using config: ".toList ++ path.text, "Output: ".toList ++ settings.outputPath.text]

/-- The last lines, where all files could be written. -/
def closingLines (count : Nat) : List (List Char) :=
  [[], "✓ Generated ".toList ++ (Nat.repr count).toList ++ " file(s)".toList]

/-- Generates files from what was read; the lines are those printed so far. -/
def produce (place : Workplace) (time : Timestamp) (settings : Settings)
    (lines : List (List Char)) (scan : Scan) : Outcome :=
  match Collision.find? settings scan.files with
  | some collision => ⟨place.tree, lines, scan.events, some (.collision collision)⟩
  | none =>
    let units := OutputUnit.assemble settings time scan.files
    let written := writeUnits place settings.outputPath units
    { tree := written.tree
      lines := lines ++ writtenLines written ++
        if written.failure.isNone then closingLines units.length else []
      events := scan.events ++ OutputUnit.assembleEvents settings scan.files
      failure := written.failure }

/-- Generates files. -/
def generate (place : Workplace) (time : Timestamp) (given : Option FilePath) : Outcome :=
  match load place given with
  | .error failure => .failed place.tree failure
  | .ok (path, project) =>
    let settings := project.settings
    let scan := scan place project
    let lines := openingLines path settings ++ scan.files.flatMap foundLines
    match scan.failure with
    | some failure => ⟨place.tree, lines, scan.events, some failure⟩
    | none =>
      if scan.files.isEmpty then
        ⟨place.tree,
          lines ++ ["No [".toList ++ settings.marker ++
            "] declarations found, nothing to generate".toList],
          scan.events, none⟩
      else produce place time settings lines scan

end SharpTypes.Command

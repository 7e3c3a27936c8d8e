/-
Generated files. A file holds a header, the imports it needs and its declarations, separated by
blank lines. Either every source file with declarations gets a file of its own, which imports what
it uses from the others, or all declarations go into one file, which needs no imports.
-/

import SharpTypes.Declaration.Printer
import SharpTypes.Output.Index
import SharpTypes.Output.ModuleSpecifier
import SharpTypes.Output.Timestamp
import SharpTypes.Source.Resolution

namespace SharpTypes

open Text

/-- A generated file. -/
structure OutputUnit where
  path : FilePath
  contents : List Char
  deriving DecidableEq, Repr

/-! ### References -/

namespace ClassShape

/-- The texts of the base type and of its arguments. -/
def baseTexts (shape : ClassShape) : List (List Char) :=
  shape.base.toList ++ shape.baseArguments

/-- The names that a class refers to: in its base type, in the arguments of that, and in the types
of its properties, in this order. -/
def references (shape : ClassShape) : List (List Char) :=
  (shape.baseTexts.flatMap fun text => (Source.resolve text).type.references) ++
    shape.members.flatMap fun member => member.type.references

end ClassShape

namespace ParsedFile

/-- Whether the file itself declares the name. -/
def declares (file : ParsedFile) (name : List Char) : Bool :=
  file.declarations.any fun declaration => declaration.name == name

/-- The names that a class of the file refers to and that have to be found elsewhere: neither
declared in the file, nor a type parameter of the class, nor built in. -/
def outsideReferences (file : ParsedFile) (shape : ClassShape) : List (List Char) :=
  shape.references.filter fun name =>
    !(file.declares name || shape.parameters.contains name || (Primitive.ofName? name).isSome)

/-- The classes of the file. -/
def classes (file : ParsedFile) : List ClassShape :=
  file.declarations.filterMap fun declaration =>
    match declaration.body with
    | .enumeration _ => none
    | .object shape => some shape

end ParsedFile

/-! ### Imports -/

/-- An import of one or more names from one file. -/
structure Import where
  specifier : List Char
  names : List (List Char)
  deriving DecidableEq, Repr

namespace Import

/-- Adds a text to a list in increasing order, unless it is there. -/
def insertText (text : List Char) : List (List Char) → List (List Char)
  | [] => [text]
  | first :: rest =>
    if text < first then text :: first :: rest
    else if text = first then first :: rest
    else first :: insertText text rest

/-- Adds a name to the import of a specifier, in a list with increasing specifiers. -/
def insert (specifier name : List Char) : List Import → List Import
  | [] => [⟨specifier, [name]⟩]
  | first :: rest =>
    if specifier < first.specifier then ⟨specifier, [name]⟩ :: first :: rest
    else if specifier = first.specifier then
      { first with names := insertText name first.names } :: rest
    else first :: insert specifier name rest

/-- The imports that make the given names known in the file at a path. A name that no file declares,
or that the file at the path holds itself, needs none. -/
def collect (index : Index) (path : FilePath) (names : List (List Char)) : List Import :=
  names.foldl
    (fun imports name =>
      match index.get? name with
      | some target =>
        if target.same path then imports
        else insert (ModuleSpecifier.between path target) name imports
      | none => imports)
    []

/-- The written form of an import. -/
def render (statement : Import) : List Char :=
  "import type \x7b ".toList ++ join ", ".toList statement.names ++ " \x7d from '".toList ++
    statement.specifier ++ "';".toList

end Import

/-! ### Files -/

/-- The header of every generated file. -/
def fileHeader (time : Timestamp) : List Char :=
  "/**\n * Auto-generated by cs2ts\n * Generated at: ".toList ++ time.render ++
    "\n * Do not edit this file manually\n */".toList

namespace OutputUnit

/-- The contents of a file with the given header, imports and written declarations. -/
def layOut (header : List Char) (imports : List Import) (declarations : List (List Char)) :
    List Char :=
  header ++ "\n\n".toList ++
    (if imports.isEmpty then []
      else join ['\n'] (imports.map Import.render) ++ "\n\n".toList) ++
    join "\n\n".toList declarations ++ ['\n']

/-- The imports of the file that a source file is turned into. -/
def importsOf (layout : Layout) (index : Index) (file : ParsedFile) : List Import :=
  Import.collect index (layout.unitPath file.relativePath)
    (file.classes.flatMap file.outsideReferences)

/-- The file that a source file is turned into. -/
def ofFile (settings : Settings) (index : Index) (time : Timestamp) (file : ParsedFile) :
    OutputUnit :=
  let layout := Layout.of settings
  { path := layout.unitPath file.relativePath
    contents := layOut (fileHeader time) (importsOf layout index file)
      (file.declarations.map (Declaration.render settings.memberNaming)) }

/-- Whether a declaration may stand before another where they are sorted: enumerations before
classes, and by name among the same kind. -/
def inOrder (left right : Declaration) : Bool :=
  if left.isEnumeration == right.isEnumeration then !(right.name < left.name)
  else left.isEnumeration

/-- All declarations, in the order in which they stand in the one file. -/
def singleFileDeclarations (settings : Settings) (files : List ParsedFile) : List Declaration :=
  let declarations := files.flatMap ParsedFile.declarations
  if settings.sortDeclarations then declarations.mergeSort inOrder else declarations

/-- The one file with all declarations. -/
def single (settings : Settings) (time : Timestamp) (files : List ParsedFile) : OutputUnit where
  path := (Layout.of settings).singleFilePath
  contents := layOut (fileHeader time) []
    ((singleFileDeclarations settings files).map (Declaration.render settings.memberNaming))

/-- The generated files. Without declarations there are none. -/
def assemble (settings : Settings) (time : Timestamp) (files : List ParsedFile) : List OutputUnit :=
  let declaring := files.filter fun file => !file.declarations.isEmpty
  if declaring.isEmpty then []
  else if settings.singleFile then [single settings time files]
  else
    let index := Index.build (Layout.of settings) files
    declaring.map (ofFile settings index time)

/-! ### Events -/

/-- The references of a class that no file declares. -/
def unknownReferences (index : Index) (file : ParsedFile) (shape : ClassShape) :
    List (List Char) :=
  (file.outsideReferences shape).filter fun name => (index.get? name).isNone

/-- What happens while the imports of a file are collected. -/
def importEvents (index : Index) (file : ParsedFile) : List Event :=
  file.classes.flatMap fun shape =>
    ((shape.baseTexts.flatMap Source.typeFaults).map .malformedType) ++
      (unknownReferences index file shape).map .unknownReference

/-- What happens while the files are put together, in order. -/
def assembleEvents (settings : Settings) (files : List ParsedFile) : List Event :=
  let declaring := files.filter fun file => !file.declarations.isEmpty
  if declaring.isEmpty then [.nothingToAssemble]
  else if settings.singleFile then [.assembled 1]
  else
    let layout := Layout.of settings
    let index := Index.build layout files
    Index.duplicates layout files ++ declaring.flatMap (importEvents index) ++
      [.assembled declaring.length]

end OutputUnit

/-! ### Collisions -/

/-- Two source files that would be turned into the same file. -/
structure Collision where
  earlier : FilePath
  later : FilePath
  path : FilePath
  deriving DecidableEq, Repr

namespace Collision

/-- The collision, in words. -/
def message (collision : Collision) : List Char :=
  collision.earlier.text ++ " and ".toList ++ collision.later.text ++ " both generate ".toList ++
    collision.path.text ++ "; rename one of them or use singleOutputFile".toList

/-- The first collision among files, after those whose output paths and sources are given. -/
def findAfter (layout : Layout) (owners : List (FilePath × FilePath)) :
    List ParsedFile → Option Collision
  | [] => none
  | file :: rest =>
    let path := layout.unitPath file.relativePath
    match owners.find? fun owner => owner.1.same path with
    | some owner => some ⟨owner.2, file.sourcePath, path⟩
    | none => findAfter layout (owners ++ [(path, file.sourcePath)]) rest

/-- The first two source files that would be turned into the same file, if every source file gets
one of its own. -/
def find? (settings : Settings) (files : List ParsedFile) : Option Collision :=
  if settings.singleFile then none else findAfter (Layout.of settings) [] files

end Collision

end SharpTypes

/-
Putting files together by index. The specifier between two files counts what the two paths have in
common, goes up from the rest of the one and slices the rest out of the other; names are converted
by index, and base types are resolved by offsets. With reading, which goes on by offsets too, this
is all that a run does with texts, and no access of it goes wrong.
-/

import Mathlib.Tactic.Common
import SharpTypes.Output.Unit
import SharpTypes.Proofs.Checked.Naming
import SharpTypes.Proofs.Checked.SourceText
import SharpTypes.Proofs.Output.Specifier

namespace SharpTypes.Checked

open Text

/-! ### Specifiers -/

/-- How many items two lists have in common at their start. -/
def commonCount (left right : List (List Char)) : Nat :=
  ((left.zip right).takeWhile fun pair => pair.1 = pair.2).length

/-- The specifier of the file `target` in the file `source`. -/
def between (source target : FilePath) : Except Fault (List Char) := do
  let directory := (source.parent?.map ModuleSpecifier.segments).getD []
  let file := ModuleSpecifier.segments target.withoutExtension
  let common := commonCount directory file
  let up ← subtract directory.length common
  let down ← itemsFrom file common
  let path := join ['/'] (List.replicate up "..".toList ++ down)
  return if "../".toList.isPrefixOf path then path else "./".toList ++ path

theorem commonCount_le (left right : List (List Char)) :
    commonCount left right ≤ left.length ∧ commonCount left right ≤ right.length := by
  have bound := (List.takeWhile_sublist (fun pair : List Char × List Char => pair.1 = pair.2)
    (l := left.zip right)).length_le
  rw [List.length_zip] at bound
  exact Nat.le_min.mp bound

/-- What two lists do not have in common is behind what they have. -/
theorem apart_eq_drop (left right : List (List Char)) :
    ModuleSpecifier.apart left right =
      (left.drop (commonCount left right), right.drop (commonCount left right)) := by
  fun_induction ModuleSpecifier.apart left right with
  | case1 lefts first rights inductionHypothesis =>
    have count : commonCount (first :: lefts) (first :: rights) = commonCount lefts rights + 1 := by
      simp [commonCount]
    rw [inductionHypothesis, count]
    rfl
  | case2 left lefts right rights different =>
    have count : commonCount (left :: lefts) (right :: rights) = 0 := by
      simp [commonCount, different]
    rw [count]
    rfl
  | case3 lefts rights notBoth =>
    have count : commonCount lefts rights = 0 := by
      cases lefts with
      | nil => rfl
      | cons left lefts =>
        cases rights with
        | nil => rfl
        | cons right rights => exact (notBoth left lefts right rights rfl rfl).elim
    rw [count]
    rfl

theorem between_eq (source target : FilePath) :
    between source target = .ok (ModuleSpecifier.between source target) := by
  unfold between ModuleSpecifier.between
  generalize (source.parent?.map ModuleSpecifier.segments).getD [] = directory
  generalize ModuleSpecifier.segments target.withoutExtension = file
  obtain ⟨inDirectory, inFile⟩ := commonCount_le directory file
  dsimp only
  rw [subtract, if_pos inDirectory, ok_bind, itemsFrom, if_pos inFile, ok_bind, apart_eq_drop]
  dsimp only
  rw [List.map_const', List.length_drop]
  rfl

/-! ### Places -/

/-- The path of the file that a source file is turned into. -/
def unitPath (layout : Layout) (source : FilePath) : Except Fault FilePath := do
  let directories ← (Layout.directoryNames source).mapM (convert layout.naming.directory)
  let stem := source.fileStem?.getD []
  let base :=
    match layout.suffix with
    | some suffix => stem ++ '-' :: suffix
    | none => stem
  let name ← convert layout.naming.file base
  return (directories.foldl FilePath.child layout.root).child (name ++ ".ts".toList)

theorem unitPath_eq (layout : Layout) (source : FilePath) :
    unitPath layout source = .ok (layout.unitPath source) := by
  have directories := mapM_eq_ok fun name (_ : name ∈ Layout.directoryNames source) =>
    convert_eq layout.naming.directory name
  rw [unitPath, directories, ok_bind]
  dsimp only
  rw [convert_eq, ok_bind, List.foldl_map]
  rfl

/-- The names that a source file declares, each with the path of its output file. -/
def entriesOf (layout : Layout) (file : ParsedFile) :
    Except Fault (List (List Char × FilePath)) := do
  let path ← unitPath layout file.relativePath
  return file.declarations.map fun declaration => (declaration.name, path)

/-- The index of all declarations. -/
def index (layout : Layout) (files : List ParsedFile) : Except Fault Index := do
  return ⟨(← files.mapM (entriesOf layout)).flatten⟩

theorem index_eq (layout : Layout) (files : List ParsedFile) :
    index layout files = .ok (Index.build layout files) := by
  have each : ∀ file ∈ files, entriesOf layout file = .ok (Index.entriesOf layout file) := by
    intro file _
    rw [entriesOf, unitPath_eq]
    rfl
  rw [index, mapM_eq_ok each]
  rfl

/-! ### Imports -/

/-- The names that a class refers to. -/
def references (shape : ClassShape) : Except Fault (List (List Char)) := do
  let bases ← shape.baseTexts.mapM resolve
  return (bases.flatMap fun base => base.type.references) ++
    shape.members.flatMap fun member => member.type.references

/-- Those that have to be found in other files. -/
def outsideReferences (file : ParsedFile) (shape : ClassShape) :
    Except Fault (List (List Char)) := do
  return (← references shape).filter fun name =>
    !(file.declares name || shape.parameters.contains name || (Primitive.ofName? name).isSome)

theorem outsideReferences_eq (file : ParsedFile) (shape : ClassShape) :
    outsideReferences file shape = .ok (file.outsideReferences shape) := by
  have bases := mapM_eq_ok fun text (_ : text ∈ shape.baseTexts) => resolve_eq text
  rw [outsideReferences, references, bases, ok_bind, List.flatMap_map]
  rfl

/-- The imports that make the given names known in the file at a path. -/
def collect (index : Index) (path : FilePath) (names : List (List Char)) :
    Except Fault (List Import) :=
  names.foldlM
    (fun imports name =>
      match index.get? name with
      | some target =>
        if target.same path then return imports
        else return Import.insert (← between path target) name imports
      | none => return imports)
    []

theorem collect_eq (index : Index) (path : FilePath) (names : List (List Char)) :
    collect index path names = .ok (Import.collect index path names) := by
  refine foldlM_eq_ok (fun imports name => ?_) [] names
  cases index.get? name with
  | none => rfl
  | some target =>
    dsimp only
    split
    · rfl
    · rw [between_eq]
      rfl

/-! ### Files -/

/-- The line of a property. -/
def renderMember (naming : NamingConvention) (member : Member) : Except Fault (List Char) := do
  let name ← convert naming member.name
  return "  ".toList ++ propertyKey name ++ ": ".toList ++ member.renderType ++ [';']

/-- The written form of a declaration. -/
def render (naming : NamingConvention) (declaration : Declaration) : Except Fault (List Char) :=
  match declaration.body with
  | .enumeration values =>
    return renderBlock ("export enum ".toList ++ declaration.name) ",\n".toList
      (values.map renderValue)
  | .object shape => do
    let lines ← shape.members.mapM (renderMember naming)
    return renderBlock (shape.renderHeader declaration.name) ['\n'] lines

theorem renderMember_eq (naming : NamingConvention) (member : Member) :
    renderMember naming member = .ok (member.render naming) := by
  rw [renderMember, convert_eq]
  rfl

theorem render_eq (naming : NamingConvention) (declaration : Declaration) :
    render naming declaration = .ok (declaration.render naming) := by
  unfold render Declaration.render
  cases declaration.body with
  | enumeration values => rfl
  | object shape =>
    have lines := mapM_eq_ok fun member (_ : member ∈ shape.members) =>
      renderMember_eq naming member
    dsimp only
    rw [lines]
    rfl

theorem mapM_render (naming : NamingConvention) (declarations : List Declaration) :
    declarations.mapM (render naming) = .ok (declarations.map (Declaration.render naming)) :=
  mapM_eq_ok fun declaration _ => render_eq naming declaration

/-- The file that a source file is turned into. -/
def ofFile (settings : Settings) (index : Index) (time : Timestamp) (file : ParsedFile) :
    Except Fault OutputUnit := do
  let path ← unitPath (Layout.of settings) file.relativePath
  let names ← file.classes.mapM (outsideReferences file)
  let imports ← collect index path names.flatten
  let declarations ← file.declarations.mapM (render settings.memberNaming)
  return ⟨path, OutputUnit.layOut (fileHeader time) imports declarations⟩

/-- The one file with all declarations. -/
def single (settings : Settings) (time : Timestamp) (files : List ParsedFile) :
    Except Fault OutputUnit := do
  let declarations ←
    (OutputUnit.singleFileDeclarations settings files).mapM (render settings.memberNaming)
  return ⟨(Layout.of settings).singleFilePath,
    OutputUnit.layOut (fileHeader time) [] declarations⟩

/-- The generated files. -/
def assemble (settings : Settings) (time : Timestamp) (files : List ParsedFile) :
    Except Fault (List OutputUnit) := do
  let declaring := files.filter fun file => !file.declarations.isEmpty
  if declaring.isEmpty then return []
  else if settings.singleFile then return [← single settings time files]
  else
    let index ← index (Layout.of settings) files
    declaring.mapM (ofFile settings index time)

theorem ofFile_eq (settings : Settings) (index : Index) (time : Timestamp) (file : ParsedFile) :
    ofFile settings index time file = .ok (OutputUnit.ofFile settings index time file) := by
  have names := mapM_eq_ok fun shape (_ : shape ∈ file.classes) => outsideReferences_eq file shape
  rw [ofFile, unitPath_eq, ok_bind, names, ok_bind, collect_eq, ok_bind, mapM_render, ok_bind]
  rfl

theorem single_eq (settings : Settings) (time : Timestamp) (files : List ParsedFile) :
    single settings time files = .ok (OutputUnit.single settings time files) := by
  rw [single, mapM_render]
  rfl

theorem assemble_eq (settings : Settings) (time : Timestamp) (files : List ParsedFile) :
    assemble settings time files = .ok (OutputUnit.assemble settings time files) := by
  unfold assemble OutputUnit.assemble
  dsimp only
  split
  · rfl
  · split
    · rw [single_eq]
      rfl
    · rw [index_eq, ok_bind]
      exact mapM_eq_ok fun file _ => ofFile_eq settings _ time file

/-! ### Whole runs -/

/-- Whatever is read and written, no access goes wrong: source texts are read, types resolved, files
put together and specifiers made with checked accesses alone, and there is a result, the same one as
without the checks. -/
theorem runs_without_fault :
    (∀ marker source : List Char,
      declarations marker source = .ok (Source.declarations marker source)) ∧
    (∀ name type : List Char, resolveMember name type = .ok (Source.resolveMember name type)) ∧
    (∀ (settings : Settings) (time : Timestamp) (files : List ParsedFile),
      assemble settings time files = .ok (OutputUnit.assemble settings time files)) ∧
    ∀ source target : FilePath,
      between source target = .ok (ModuleSpecifier.between source target) :=
  ⟨declarations_eq, resolveMember_eq, assemble_eq, between_eq⟩

end SharpTypes.Checked

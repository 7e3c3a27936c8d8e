/-
How a generated file writes the names that it imports. Each of them is the last segment of a name
that stands in a declaration of the file on its own. The types of properties are written with the
names themselves; a base type and its arguments are written as in the source text, so that what
stands there is the imported name exactly if it holds no dot.
-/

import Mathlib.Tactic.Common
import SharpTypes.Proofs.Declaration.NamePlace
import SharpTypes.Proofs.Output.ImportTargets
import SharpTypes.Proofs.Source.DeclaredName

namespace SharpTypes

open Text

/-- The declarations of the file were read from a source text. -/
def ParsedFile.IsRead (file : ParsedFile) : Prop :=
  ∃ marker source, file.declarations = Source.declarations marker source

/-! ### How a class writes a name -/

namespace ClassShape

/-- How a class writes a name that it refers to: in the type of a property by the name itself, and
in its base type or an argument of that by a name of which it is the last segment. -/
inductive Writes (shape : ClassShape) (name : List Char) : List Char → Prop where
  | property {member : Member} (isMember : member ∈ shape.members)
      (mentions : member.type.Mentions name) : Writes shape name name
  | base {text written : List Char} (isText : text ∈ shape.baseTexts)
      (stands : StandsIn written text) (trimmed : trim written = written)
      (segment : Source.lastSegment written = name) : Writes shape name written

variable {shape : ClassShape} {name written : List Char}

theorem exists_writes_of_refersTo (refers : shape.RefersTo name) :
    ∃ written, shape.Writes name written := by
  rcases refers with ⟨text, isText, mentions⟩ | ⟨member, isMember, mentions⟩
  · obtain ⟨written, stands, trimmed, segment⟩ := Source.exists_written_of_mentions mentions
    exact ⟨written, .base isText stands trimmed segment⟩
  · exact ⟨name, .property isMember mentions⟩

/-- However a class writes a name, that stands in its written form on its own. -/
theorem Writes.standsIn (writes : shape.Writes name written) {declaration : Declaration}
    (readable : Source.IsReadable declaration) (isClass : declaration.body = .object shape)
    (naming : NamingConvention) : StandsIn written (declaration.render naming) := by
  cases writes with
  | property isMember mentions =>
    exact Declaration.standsIn_of_mentions naming isClass isMember mentions
  | base isText stands =>
    exact stands.trans
      (Declaration.standsIn_of_mem_baseTexts naming isClass (readable.bound _ isClass) isText)

/-- A word is written as itself exactly where it is written without a dot. -/
theorem Writes.eq_iff (writes : shape.Writes name written) (isWordText : IsWordText name) :
    written = name ↔ '.' ∉ written := by
  cases writes with
  | property =>
    refine iff_of_true rfl fun member => ?_
    have word := isWordText '.' member
    revert word
    decide
  | base _ _ trimmed segment => rw [← segment, Source.eq_lastSegment_iff trimmed]

end ClassShape

/-! ### What an import is for -/

namespace OutputUnit

variable {settings : Settings} {files : List ParsedFile} {file : ParsedFile}

/-- An imported name is a word if the declarations were read. -/
theorem isWordText_of_mem_importsOf {layout : Layout} (read : ∀ file ∈ files, file.IsRead)
    {statement : Import} (isImport : statement ∈ importsOf layout (Index.build layout files) file)
    {name : List Char} (isName : name ∈ statement.names) : name ≠ [] ∧ IsWordText name := by
  obtain ⟨target, held, _⟩ := exists_target_of_mem_importsOf isImport isName
  obtain ⟨source, isSource, declares, _⟩ := Index.exists_file_of_get? held
  obtain ⟨declaration, isDeclaration, same⟩ := List.any_eq_true.mp declares
  obtain ⟨marker, text, declarations⟩ := read source isSource
  rw [declarations] at isDeclaration
  have readable := Source.isReadable_of_mem_declarations isDeclaration
  rw [← beq_iff_eq.mp same]
  exact ⟨readable.named, readable.isWordText⟩

/-- Some class of a file writes the name that it imports. -/
theorem exists_writes_of_mem_importsOf {layout : Layout} {index : Index} {statement : Import}
    (isImport : statement ∈ importsOf layout index file) {name : List Char}
    (isName : name ∈ statement.names) :
    ∃ declaration ∈ file.declarations, ∃ shape written,
      declaration.body = .object shape ∧ shape.Writes name written := by
  obtain ⟨needed, _⟩ := (Import.lists_collect _ _ _ _ _).mp ⟨statement, isImport, rfl, isName⟩
  obtain ⟨shape, ⟨declaration, isDeclaration, isClass⟩, refers, _⟩ :=
    (ParsedFile.mem_outsideReferences.mp needed).referred
  obtain ⟨written, writes⟩ := ClassShape.exists_writes_of_refersTo refers
  exact ⟨declaration, isDeclaration, shape, written, isClass, writes⟩

/-- In a run with a file for every source, each name that a generated file imports is a word that
one of its classes writes. However a class writes the name, that stands in its declaration on its
own, and it is the name itself exactly if it holds no dot. In particular what follows `extends` is
the base type as it was read, and this is the name that is imported for it exactly if it holds no
dot. -/
theorem imports_written (settings : Settings) (time : Timestamp) (files : List ParsedFile)
    (multiple : settings.singleFile = false) (read : ∀ file ∈ files, file.IsRead) :
    ∀ unit ∈ assemble settings time files, ∃ file ∈ files,
      unit.path = (Layout.of settings).unitPath file.relativePath ∧
      unit.contents = layOut (fileHeader time)
        (importsOf (Layout.of settings) (Index.build (Layout.of settings) files) file)
        (file.declarations.map (Declaration.render settings.memberNaming)) ∧
      (∀ statement ∈ importsOf (Layout.of settings) (Index.build (Layout.of settings) files) file,
        ∀ name ∈ statement.names, (name ≠ [] ∧ IsWordText name) ∧
          (∃ declaration ∈ file.declarations, ∃ shape written,
            declaration.body = .object shape ∧ shape.Writes name written) ∧
          ∀ declaration ∈ file.declarations, ∀ shape written, declaration.body = .object shape →
            shape.Writes name written →
              StandsIn written (declaration.render settings.memberNaming) ∧
                (written = name ↔ '.' ∉ written)) ∧
      ∀ declaration ∈ file.declarations, ∀ shape base, declaration.body = .object shape →
        shape.base = some base →
          (∃ front back, declaration.render settings.memberNaming =
            front ++ " extends ".toList ++ base ++ back ∧ LeavesAlone back) ∧
          ∀ name, (Source.resolve base).type.Mentions name → (base = name ↔ '.' ∉ base) := by
  intro unit isUnit
  obtain ⟨file, isFile, _, rfl⟩ := (mem_assemble multiple unit).mp isUnit
  have readable : ∀ declaration ∈ file.declarations, Source.IsReadable declaration := by
    obtain ⟨marker, source, same⟩ := read file isFile
    rw [same]
    exact fun declaration member => Source.isReadable_of_mem_declarations member
  refine ⟨file, isFile, rfl, rfl, fun statement isImport name isName => ?_, ?_⟩
  · have isWord := isWordText_of_mem_importsOf read isImport isName
    refine ⟨isWord, exists_writes_of_mem_importsOf isImport isName, ?_⟩
    intro declaration isDeclaration shape written isClass writes
    exact ⟨writes.standsIn (readable declaration isDeclaration) isClass _, writes.eq_iff isWord.2⟩
  · intro declaration isDeclaration shape base isClass isBase
    have qualified := (readable declaration isDeclaration).base shape isClass base isBase
    refine ⟨Declaration.exists_extends settings.memberNaming isClass isBase, ?_⟩
    intro name mentions
    rw [qualified.eq_lastSegment_of_mentions mentions]
    exact Source.eq_lastSegment_iff qualified.trim_eq

/-! ### A dotted base type -/

/-- A source file with the given name and text. -/
def readSource (name text : String) : ParsedFile :=
  ⟨⟨name.toList⟩, ⟨name.toList⟩, Source.declarations "TypeSharp".toList text.toList⟩

/-- A class whose base type is named with a dot. -/
def adminSource : ParsedFile :=
  readSource "Admin.cs" "[TypeSharp] public class Admin : Core.Entity \x7b \x7d"

/-- The class that it refers to. -/
def entitySource : ParsedFile :=
  readSource "Entity.cs" "[TypeSharp] public class Entity \x7b \x7d"

theorem importsOf_adminSource :
    importsOf (Layout.of intoOut)
        (Index.build (Layout.of intoOut) [adminSource, entitySource]) adminSource =
      [⟨"./entity".toList, ["Entity".toList]⟩] := by
  decide +kernel

theorem ofFile_adminSource_mem_assemble :
    ofFile intoOut (Index.build (Layout.of intoOut) [adminSource, entitySource]) ⟨0, 0⟩
        adminSource ∈
      assemble intoOut ⟨0, 0⟩ [adminSource, entitySource] :=
  ofFile_mem_assemble rfl List.mem_cons_self (by decide +kernel)

/-- The name that is imported for the dotted base type is written in the declaration, though not as
itself where it is written with a dot. -/
theorem imports_written_for_admin :
    ∃ declaration ∈ adminSource.declarations, ∃ shape written,
      declaration.body = .object shape ∧ shape.Writes "Entity".toList written ∧
        StandsIn written (declaration.render .camel) ∧
          (written = "Entity".toList ↔ '.' ∉ written) := by
  have read : ∀ file ∈ [adminSource, entitySource], file.IsRead := by
    intro file member
    rcases List.mem_pair.mp member with rfl | rfl <;> exact ⟨_, _, rfl⟩
  obtain ⟨file, isFile, path, _, written, _⟩ :=
    imports_written intoOut ⟨0, 0⟩ _ rfl read _ ofFile_adminSource_mem_assemble
  rcases List.mem_pair.mp isFile with rfl | rfl
  · rw [importsOf_adminSource] at written
    obtain ⟨_, ⟨declaration, isDeclaration, shape, other, isClass, writes⟩, all⟩ :=
      written _ List.mem_cons_self _ List.mem_cons_self
    exact ⟨declaration, isDeclaration, shape, other, isClass, writes,
      all declaration isDeclaration shape other isClass writes⟩
  · exact absurd path (by decide)

/-- The name that is imported for a dotted base type does not stand in the declaration on its own.
-/
theorem import_of_dotted_base_stands_nowhere :
    ∃ unit ∈ assemble intoOut ⟨0, 0⟩ [adminSource, entitySource],
      unit.contents = layOut (fileHeader ⟨0, 0⟩) [⟨"./entity".toList, ["Entity".toList]⟩]
        (adminSource.declarations.map (Declaration.render .camel)) ∧
      ∀ declaration ∈ adminSource.declarations,
        ¬ StandsIn "Entity".toList (declaration.render .camel) := by
  refine ⟨_, ofFile_adminSource_mem_assemble, ?_, by decide +kernel⟩
  rw [← importsOf_adminSource]
  rfl

end OutputUnit

end SharpTypes

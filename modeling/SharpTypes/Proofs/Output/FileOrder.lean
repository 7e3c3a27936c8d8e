/-
The order of the source files. If no name is declared in two of them, the index has one file to
offer for a name, wherever that file stands in the batch, and a generated file depends on the batch
only through the index. So a batch in another order gives the same generated files, each in the
place of its source file.
-/

import Mathlib.Data.List.Basic
import Mathlib.Tactic.Common
import SharpTypes.Proofs.Output.Assembly

namespace SharpTypes

/-! ### One file for a name -/

namespace ParsedFile

/-- No name is declared in two of the files. -/
def DeclareApart (files : List ParsedFile) : Prop :=
  ∀ first ∈ files, ∀ second ∈ files, ∀ declaration ∈ first.declarations,
    ∀ other ∈ second.declarations, declaration.name = other.name → first = second

instance (files : List ParsedFile) : Decidable (DeclareApart files) :=
  inferInstanceAs (Decidable (∀ first ∈ files, ∀ second ∈ files,
    ∀ declaration ∈ first.declarations, ∀ other ∈ second.declarations,
      declaration.name = other.name → first = second))

theorem DeclareApart.eq_of_declares {files : List ParsedFile} (apart : DeclareApart files)
    {first second : ParsedFile} (isFirst : first ∈ files) (isSecond : second ∈ files)
    {name : List Char} (declares : first.declares name = true)
    (declaresToo : second.declares name = true) : first = second := by
  obtain ⟨declaration, isDeclaration, same⟩ := List.any_eq_true.mp declares
  obtain ⟨other, isOther, sameToo⟩ := List.any_eq_true.mp declaresToo
  refine apart first isFirst second isSecond declaration isDeclaration other isOther ?_
  rw [beq_iff_eq.mp same, beq_iff_eq.mp sameToo]

theorem DeclareApart.of_perm {files permuted : List ParsedFile} (apart : DeclareApart files)
    (permutation : permuted.Perm files) : DeclareApart permuted := by
  intro first isFirst second isSecond
  exact apart first (permutation.mem_iff.mp isFirst) second (permutation.mem_iff.mp isSecond)

end ParsedFile

namespace Index

/-- Where no name is declared in two files, the index has the file of a name exactly if one of the
files declares the name and is turned into that. -/
theorem get?_eq_some_iff {layout : Layout} {files : List ParsedFile}
    (apart : ParsedFile.DeclareApart files) {name : List Char} {path : FilePath} :
    (build layout files).get? name = some path ↔
      ∃ file ∈ files, file.declares name = true ∧ layout.unitPath file.relativePath = path := by
  refine ⟨exists_file_of_get?, ?_⟩
  rintro ⟨file, isFile, declares, rfl⟩
  obtain ⟨path, held⟩ : ∃ path, (build layout files).get? name = some path :=
    exists_get?_of_declares isFile declares
  obtain ⟨other, isOther, declaresToo, rfl⟩ := exists_file_of_get? held
  rw [held, apart.eq_of_declares isFile isOther declares declaresToo]

theorem get?_of_perm {layout : Layout} {files permuted : List ParsedFile}
    (apart : ParsedFile.DeclareApart files) (permutation : permuted.Perm files) :
    (build layout permuted).get? = (build layout files).get? := by
  refine funext fun name => Option.ext fun path => ?_
  rw [get?_eq_some_iff (apart.of_perm permutation), get?_eq_some_iff apart]
  exact exists_congr fun file => and_congr_left fun _ => permutation.mem_iff

end Index

/-! ### The generated files -/

theorem Import.collect_congr {index other : Index} (same : index.get? = other.get?)
    (path : FilePath) (names : List (List Char)) :
    collect index path names = collect other path names := by
  unfold collect
  rw [same]

namespace OutputUnit

theorem ofFile_congr {index other : Index} (same : index.get? = other.get?) (settings : Settings)
    (time : Timestamp) (file : ParsedFile) :
    ofFile settings index time file = ofFile settings other time file := by
  have imports : importsOf (Layout.of settings) index file =
      importsOf (Layout.of settings) other file :=
    Import.collect_congr same _ _
  show OutputUnit.mk _ (layOut _ (importsOf (Layout.of settings) index file) _) = _
  rw [imports]
  rfl

/-- If no name is declared in two files, a batch in another order gives the generated files of the
batch, put into that order. -/
theorem assemble_of_perm (settings : Settings) (time : Timestamp) (files permuted : List ParsedFile)
    (multiple : settings.singleFile = false) (apart : ParsedFile.DeclareApart files)
    (permutation : permuted.Perm files) :
    assemble settings time files = files.filterMap (unitOf? settings time files) ∧
      assemble settings time permuted = permuted.filterMap (unitOf? settings time files) ∧
      (assemble settings time permuted).Perm (assemble settings time files) := by
  have here := assemble_eq_filterMap time files multiple
  have there : assemble settings time permuted =
      permuted.filterMap (unitOf? settings time files) := by
    rw [assemble_eq_filterMap time permuted multiple]
    refine List.filterMap_congr fun file _ => ?_
    unfold unitOf?
    rw [ofFile_congr (Index.get?_of_perm apart permutation)]
  refine ⟨here, there, ?_⟩
  rw [there, here]
  exact permutation.filterMap _

/-- The two sources of the small run in the other order. -/
theorem assemble_of_swap :
    [userSource ⟨"User.cs".toList⟩, orderSource].Perm
        [orderSource, userSource ⟨"User.cs".toList⟩] ∧
      assemble intoOut ⟨0, 0⟩ [userSource ⟨"User.cs".toList⟩, orderSource] =
        [userSource ⟨"User.cs".toList⟩, orderSource].filterMap
          (unitOf? intoOut ⟨0, 0⟩ [orderSource, userSource ⟨"User.cs".toList⟩]) := by
  have swapped := List.Perm.swap orderSource (userSource ⟨"User.cs".toList⟩) []
  refine ⟨swapped, ?_⟩
  exact (assemble_of_perm intoOut ⟨0, 0⟩ _ _ rfl (by decide) swapped).2.1

end OutputUnit

end SharpTypes

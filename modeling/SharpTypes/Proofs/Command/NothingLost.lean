/-
No generated file is lost. Where no collision is found, all generated files have different paths, no
path has to be a file and a directory, and all files are on disk once they could be written. What
could still make a file also a directory is a suffix that leads to the root, and settings with such
a suffix are refused. What could still make one file of two are symbolic links below the output
directory.
-/

import Mathlib.Data.List.Pairwise
import Mathlib.Tactic.Common
import SharpTypes.Proofs.Command.Writing
import SharpTypes.Proofs.FileTree.Soundness
import SharpTypes.Proofs.Output.Collision
import SharpTypes.Proofs.Output.UnitPlace

namespace SharpTypes.OutputUnit

open Command

variable {settings : Settings} {time : Timestamp} {files : List ParsedFile}

theorem path_of_unitOf? {file : ParsedFile} {unit : OutputUnit}
    (given : unitOf? settings time files file = some unit) :
    unit.path = (Layout.of settings).unitPath file.relativePath := by
  rw [← (unitOf?_eq_some_iff.mp given).2]
  rfl

/-- What holds of the paths of any two source files holds of the generated files. -/
theorem pairwise_assemble (time : Timestamp) (relation : FilePath → FilePath → Prop)
    (multiple : settings.singleFile = false)
    (related : files.Pairwise fun first second =>
      relation ((Layout.of settings).unitPath first.relativePath)
        ((Layout.of settings).unitPath second.relativePath)) :
    (assemble settings time files).Pairwise fun first second =>
      relation first.path second.path := by
  rw [assemble_eq_filterMap time files multiple, List.pairwise_filterMap]
  refine related.imp fun {first second} holds unit given other givenToo => ?_
  rwa [path_of_unitOf? given, path_of_unitOf? givenToo]

/-- Without a collision all generated files have different places. -/
theorem pairwise_placeOf_assemble (place : Workplace) (time : Timestamp)
    (distinct : Collision.find? settings files = none) :
    (assemble settings time files).Pairwise fun earlier later =>
      place.placeOf earlier.path ≠ place.placeOf later.path := by
  cases mode : settings.singleFile with
  | false =>
    refine pairwise_assemble time (fun first second => place.placeOf first ≠ place.placeOf second)
      mode (((Collision.find?_eq_none_iff mode).mp distinct).imp fun {first second} apart met => ?_)
    exact apart (Layout.components_eq_of_placeOf_eq place met)
  | true =>
    unfold assemble
    dsimp only
    rw [mode, if_pos rfl]
    split
    · exact .nil
    · exact List.pairwise_singleton _ _

/-- A generated file that is a directory on the way to another one lies on the way to the output
directory, and the settings are refused. -/
theorem refused_of_ancestor (multiple : settings.singleFile = false) {first second : OutputUnit}
    (isFirst : first ∈ assemble settings time files)
    (isSecond : second ∈ assemble settings time files)
    (onTheWay : first.path.components <+: second.path.components)
    (different : first.path.components ≠ second.path.components) :
    settings.problem? ≠ none ∧ first.path.components <+: settings.outputPath.components := by
  obtain ⟨source, madeFirst⟩ := exists_source_of_mem_assemble multiple isFirst
  obtain ⟨other, madeSecond⟩ := exists_source_of_mem_assemble multiple isSecond
  rw [madeFirst, madeSecond] at onTheWay different
  rw [madeFirst]
  rcases Layout.eq_or_of_prefix onTheWay with same | ⟨atRoot, toOutput⟩
  · exact absurd same different
  · refine ⟨fun accepted => ?_, toOutput⟩
    exact Layout.slashFree_fileName accepted source (List.mem_of_mem_head? atRoot)

/-- What holds of the generated files where no two source files are turned into the same one. -/
structure AreKeptApart (settings : Settings) (time : Timestamp) (files : List ParsedFile) :
    Prop where
  /-- Their paths are different. -/
  different : (assemble settings time files).Pairwise fun first second =>
    first.path.components ≠ second.path.components
  /-- None is a directory on the way to another one, unless the settings are refused and it lies on
  the way to the output directory. -/
  inTheWay : ∀ first ∈ assemble settings time files, ∀ second ∈ assemble settings time files,
    first.path.components <+: second.path.components →
      first.path.components ≠ second.path.components →
        settings.problem? ≠ none ∧ first.path.components <+: settings.outputPath.components
  /-- If all of them could be written, wherever that is, each path leads to the contents of its
  file, unless symbolic links lead two of the paths to the same place. -/
  readBack : ∀ (place : Workplace) (written : Written),
    writeUnits place settings.outputPath (assemble settings time files) = written →
      written.failure = none →
        place.tree.IsPlain ∨
            LeadApart (place.withTree written.tree) (assemble settings time files) →
          ∀ unit ∈ assemble settings time files,
            (place.withTree written.tree).read unit.path = .ok unit.contents

theorem areKeptApart_of_find? (time : Timestamp) (multiple : settings.singleFile = false)
    (distinct : Collision.find? settings files = none) : AreKeptApart settings time files := by
  have apart := (Collision.find?_eq_none_iff multiple).mp distinct
  refine ⟨pairwise_assemble time (fun first second => first.components ≠ second.components)
      multiple apart,
    fun first isFirst second isSecond => refused_of_ancestor multiple isFirst isSecond, ?_⟩
  rintro place written rfl complete (plain | leadApart)
  · have becomes := becomes_of_writeUnits place (assemble settings time files) settings.outputPath
    have leadApart := leadApart_of_isPlain
      (show (place.withTree _).tree.IsPlain from becomes.isPlain plain)
      (pairwise_placeOf_assemble (place.withTree _) time distinct)
    exact read_of_writeUnits place settings.outputPath leadApart complete
  · exact read_of_writeUnits place settings.outputPath leadApart complete

/-- Settings with a suffix that leads to the root, as no settings may have that are used. -/
def intoRoot : Settings :=
  { Settings.forOutput ⟨"/a.ts".toList⟩ with fileSuffix := some "/a".toList }

/-- An output directory with a link from one generated file to another. -/
def linkedOutput : FileTree where
  entries :=
    [(["out".toList], .directory),
      (["out".toList, "order.ts".toList], .link ⟨"user.ts".toList⟩)]
  distinct := by decide

end SharpTypes.OutputUnit

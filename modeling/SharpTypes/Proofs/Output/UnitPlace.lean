/-
How the paths of generated files lie to each other. A path that is a directory on the way to another
one is that other one itself: the names of files hold a dot and the names of directories do not. And
paths with different components have different places, also where they go up on their way. Both need
a look at settings that are refused: a suffix that starts with a slash sends some files to the root
and others, with all of the suffix at the end, below the output directory.
-/

import Mathlib.Data.List.Infix
import Mathlib.Tactic.Common
import SharpTypes.Proofs.FileTree.Following
import SharpTypes.Proofs.Output.UnitPath

namespace SharpTypes.Layout

open Text FilePath

variable {layout : Layout} {first second : FilePath}

/-! ### One path on the way to another -/

/-- A generated file is a directory on the way to another one only if it lies at the root and on the
way to the output directory. -/
theorem eq_or_of_prefix
    (onTheWay : (layout.unitPath first).components <+: (layout.unitPath second).components) :
    (layout.unitPath first).components = (layout.unitPath second).components ∨
      (layout.fileName first).head? = some '/' ∧
        (layout.unitPath first).components <+: layout.root.components := by
  obtain ⟨above, stem, _, ofFirst⟩ := exists_plain_unitPath layout first
  obtain ⟨below, other, plain, ofSecond⟩ := exists_plain_unitPath layout second
  rw [ofSecond.components, List.prefix_concat_iff] at onTheWay
  rcases onTheWay with same | inDirectories
  · exact .inl (same.trans ofSecond.components.symm)
  have inStart : (layout.unitPath first).components <+: layout.start second := by
    refine (List.prefix_or_prefix_of_prefix inDirectories (List.prefix_append _ _)).elim id ?_
    rintro ⟨beyond, reached⟩
    rw [← reached, List.prefix_append_right_inj] at inDirectories
    rcases List.eq_nil_or_concat beyond with rfl | ⟨fronts, last, rfl⟩
    · rw [← reached, List.append_nil]
    · -- The last name of the path has a dot and would be a directory.
      rw [List.concat_eq_append] at reached inDirectories
      rw [ofFirst.components, ← List.append_assoc] at reached
      obtain rfl : last = .name (stem ++ ".ts".toList) := by
        simpa using (List.append_inj' reached rfl).2
      obtain ⟨directory, isDirectory, same⟩ :=
        List.mem_map.mp (inDirectories.subset (List.mem_append_right _ List.mem_cons_self))
      obtain rfl : directory = stem ++ ".ts".toList := by simpa using same
      exact absurd (by simp) (plain _ isDirectory).dotFree
  -- The first file lies below its own start, which is thus shorter than that of the second one.
  have longer : (layout.start first).length < (layout.unitPath first).components.length := by
    rw [ofFirst.components]
    simp
  have notLonger := inStart.length_le
  refine .inr ?_
  by_cases secondAtRoot : (layout.fileName second).head? = some '/'
  · rw [start, if_pos secondAtRoot] at inStart
    rcases List.prefix_cons_iff.mp inStart with noStart | ⟨rest, same, nothing⟩
    · rw [noStart] at longer
      cases longer
    · rw [List.prefix_nil.mp nothing, ofFirst.components] at same
      have last := congrArg List.getLast? same
      rw [List.getLast?_concat] at last
      cases last
  · rw [start, if_neg secondAtRoot] at inStart notLonger
    refine ⟨?_, inStart⟩
    by_contra firstBelow
    rw [start, if_neg firstBelow] at longer
    omega

/-! ### A suffix that starts with a slash -/

theorem slashFree_stem (source : FilePath) : '/' ∉ source.fileStem?.getD [] := by
  cases given : source.fileStem? with
  | none => simp
  | some stem => exact slashFree_fileStem? given

/-- If one file name starts with a slash, every file name ends in it. -/
theorem exists_front_of_fileName (atRoot : (layout.fileName first).head? = some '/') :
    ∃ front, '/' ∉ front ∧ '.' ∉ front ∧
      layout.fileName second = front ++ layout.fileName first := by
  have baseAtRoot : (layout.baseName first).head? = some '/' := by
    rw [fileName_eq] at atRoot
    cases given : layout.baseName first with
    | nil =>
      rw [given] at atRoot
      cases atRoot
    | cons c rest =>
      rw [given] at atRoot
      exact atRoot
  cases given : layout.suffix with
  | none =>
    rw [baseName, given] at baseAtRoot
    have noSlash := layout.naming.file.not_slash_mem_apply (slashFree_stem first)
    exact absurd (List.mem_of_mem_head? baseAtRoot) noSlash
  | some suffix =>
    have baseOf (source : FilePath) : layout.baseName source =
        layout.naming.file.apply (source.fileStem?.getD [] ++ '-' :: suffix) := by
      rw [baseName, given]
    rw [baseOf] at baseAtRoot
    have suffixOnly := layout.naming.file.apply_eq_of_slash (slashFree_stem first) baseAtRoot
    rw [suffixOnly] at baseAtRoot
    obtain ⟨front, slashFree, same⟩ :=
      layout.naming.file.exists_front_of_slash (slashFree_stem second) baseAtRoot
    refine ⟨front, slashFree, fun inside => ?_, ?_⟩
    · have dotFree := layout.naming.file.not_dot_mem_apply
        (second.fileStem?.getD [] ++ '-' :: suffix)
      rw [same] at dotFree
      exact dotFree (List.mem_append_left _ inside)
    · rw [fileName_eq, fileName_eq, baseOf, baseOf, same, suffixOnly, List.append_assoc]

/-! ### Places -/

/-- What a file name leads to is a list of names. -/
theorem exists_names_of_fileName (layout : Layout) (source : FilePath) :
    ∃ names : List (List Char),
      (splitOn '/' (layout.fileName source)).filterMap componentOf? =
        names.map Component.name := by
  obtain ⟨fronts, stem, pieces, plain⟩ := exists_splitOn_fileName layout source
  obtain ⟨names, _, same⟩ := exists_plain (List.forall_mem_cons.mp plain).2
  refine ⟨names ++ [stem ++ ".ts".toList], ?_⟩
  rw [pieces, List.filterMap_append, same,
    List.filterMap_cons_some (componentOf?_append_extension stem), List.map_append]
  rfl

/-- The place of a path that goes on with names. -/
theorem placeOf_of_components (place : Workplace) {path : FilePath} {start : List Component}
    {names : List (List Char)} (given : path.components = start ++ names.map Component.name) :
    place.placeOf path = start.foldl Location.toward place.current ++ names := by
  rw [Workplace.placeOf, given, List.foldl_append, Location.foldl_toward_names]

/-- A file at the root and one below the output directory lie at different places. -/
theorem placeOf_ne_of_root (place : Workplace) (atRoot : (layout.fileName first).head? = some '/')
    (below : (layout.fileName second).head? ≠ some '/') :
    place.placeOf (layout.unitPath first) ≠ place.placeOf (layout.unitPath second) := by
  obtain ⟨front, slashFree, dotFree, same⟩ :
      ∃ front, '/' ∉ front ∧ '.' ∉ front ∧
        layout.fileName second = front ++ layout.fileName first :=
    exists_front_of_fileName atRoot
  obtain ⟨rest, fileName⟩ := List.head?_eq_some_iff.mp atRoot
  have filled : front ≠ [] := by
    rintro rfl
    exact below (same ▸ atRoot)
  obtain ⟨names, isNames⟩ := exists_names_of_fileName layout first
  obtain ⟨_, _, noDirectories, ofFirst⟩ := exists_components_unitPath layout first
  obtain ⟨directories, _, _, ofSecond⟩ := exists_components_unitPath layout second
  rw [noDirectories atRoot, isNames, start, if_pos atRoot] at ofFirst
  rw [fileName, splitOn, if_pos rfl, List.filterMap_cons_none rfl] at isNames
  have longer : (splitOn '/' (layout.fileName second)).filterMap componentOf? =
      (front :: names).map Component.name := by
    rw [same, fileName, splitOn_append_separator, splitOn_of_not_mem slashFree,
      List.filterMap_append, isNames,
      List.filterMap_cons_some (componentOf?_of_dotFree filled dotFree)]
    rfl
  rw [longer, List.append_assoc, ← List.map_append] at ofSecond
  rw [placeOf_of_components place ofFirst, placeOf_of_components place ofSecond]
  intro met
  have lengths := congrArg List.length met
  simp [Location.toward] at lengths
  omega

/-- Generated files at one place have paths with the same components. -/
theorem components_eq_of_placeOf_eq (place : Workplace)
    (met : place.placeOf (layout.unitPath first) = place.placeOf (layout.unitPath second)) :
    (layout.unitPath first).components = (layout.unitPath second).components := by
  have sameStart (start : List Component) (firstStart : layout.start first = start)
      (secondStart : layout.start second = start) :
      (layout.unitPath first).components = (layout.unitPath second).components := by
    obtain ⟨above, stem, _, ofFirst⟩ := exists_plain_unitPath layout first
    obtain ⟨below, other, _, ofSecond⟩ := exists_plain_unitPath layout second
    have namesOne := ofFirst.components
    have namesTwo := ofSecond.components
    rw [firstStart, ← List.map_singleton, List.append_assoc, ← List.map_append] at namesOne
    rw [secondStart, ← List.map_singleton, List.append_assoc, ← List.map_append] at namesTwo
    rw [placeOf_of_components place namesOne, placeOf_of_components place namesTwo,
      List.append_cancel_left_eq] at met
    rw [namesOne, namesTwo, met]
  by_cases firstAtRoot : (layout.fileName first).head? = some '/'
  · by_cases secondAtRoot : (layout.fileName second).head? = some '/'
    · exact sameStart [.root] (if_pos firstAtRoot) (if_pos secondAtRoot)
    · exact absurd met (placeOf_ne_of_root place firstAtRoot secondAtRoot)
  · by_cases secondAtRoot : (layout.fileName second).head? = some '/'
    · exact absurd met.symm (placeOf_ne_of_root place secondAtRoot firstAtRoot)
    · exact sameStart layout.root.components (if_neg firstAtRoot) (if_neg secondAtRoot)

end SharpTypes.Layout

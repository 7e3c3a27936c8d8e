/-
How often a source file counts. The search below one directory finds a file at most once, since what
is below the directory is told apart by its names. Each project file stands for a search of its own,
so a file counts once for every directory of the list that leads to it: once where the directories
lie apart, and twice below a project that lies in another one.
-/

import Mathlib.Data.List.Nodup
import Mathlib.Tactic.Common
import SharpTypes.Proofs.Command.Course
import SharpTypes.Proofs.Discovery
import SharpTypes.Proofs.Output.SingleFile

namespace SharpTypes

/-! ### One directory -/

namespace Discovery

variable {place : Workplace} {directory path : FilePath}

/-- The place behind which the names of all that is found below a directory stand. -/
def startOf (place : Workplace) (directory : FilePath) : Location :=
  if directory.text = [] then [] else place.placeOf directory

theorem placeOf_eq_startOf {base : FilePath} (found : base? place directory = some base) :
    place.placeOf base = startOf place directory := by
  unfold startOf
  split
  case isTrue empty =>
    unfold base? at found
    rw [empty] at found
    obtain rfl := Option.some.inj found
    rfl
  case isFalse filled => exact placeOf_base? filled found

/-- A source file is named from the path at which the search starts, and lies below its place. -/
theorem exists_names_of_mem_sources (sound : place.tree.IsSound) (plain : place.tree.IsPlain)
    (isFound : path ∈ sources place directory) :
    ∃ base names, base? place directory = some base ∧ names ≠ [] ∧
      path = names.foldl step base ∧ place.placeOf path = startOf place directory ++ names := by
  unfold sources at isFound
  split at isFound
  case h_1 => cases isFound
  case h_2 base found =>
    split at isFound
    case h_1 => cases isFound
    case h_2 start located =>
      obtain ⟨isPath, reaches⟩ := Workplace.locate_eq_ok_iff.mp located
      have filled : base.text ≠ [] := by
        intro empty
        rw [Workplace.checkPath, empty] at isPath
        cases isPath
      have isBelow := (List.mem_filter.mp (List.mem_mergeSort.mp isFound)).1
      rw [Workplace.linkLimit, belowWithin_of_isPlain plain] at isBelow
      obtain ⟨names, notEmpty, there, rfl⟩ := mem_below_iff.mp isBelow
      refine ⟨base, names, found, notEmpty, rfl, ?_⟩
      rw [← (reaches_foldl_step sound plain reaches filled there).eq_placeOf plain,
        reaches.eq_placeOf plain, placeOf_eq_startOf found]

/-- What is found below one directory lies at different places. -/
theorem nodup_map_placeOf_sources (sound : place.tree.IsSound) (plain : place.tree.IsPlain)
    (directory : FilePath) :
    ((sources place directory).map place.placeOf).Nodup := by
  have nodup : (sources place directory).Nodup :=
    (pairwise_sources sound plain directory).imp fun before same => by
      subst same
      exact absurd (FilePath.before_iff.mp before) (lt_irrefl _)
  refine List.Nodup.map_on (fun first isFirst second isSecond same => ?_) nodup
  obtain ⟨base, names, found, _, rfl, placed⟩ := exists_names_of_mem_sources sound plain isFirst
  obtain ⟨other, others, foundToo, _, rfl, placedToo⟩ :=
    exists_names_of_mem_sources sound plain isSecond
  obtain rfl := Option.some.inj (found.symm.trans foundToo)
  rw [placed, placedToo] at same
  rw [List.append_cancel_left same]

end Discovery

namespace Command

variable {place : Workplace} {project : ProjectSettings}

/-! ### All directories -/

/-- Whether the search below a directory finds a file at a place. -/
def finds (place : Workplace) (location : Location) (directory : FilePath) : Bool :=
  (Discovery.sources place directory).any fun path => place.placeOf path == location

/-- The places of all source files that are found, in the order in which they are read. -/
def foundPlaces (place : Workplace) (project : ProjectSettings) : List Location :=
  (sourcesOf place project).map fun source => place.placeOf source.2

theorem foundPlaces_eq_flatMap (place : Workplace) (project : ProjectSettings) :
    foundPlaces place project = project.directories.flatMap fun directory =>
      (Discovery.sources place directory).map place.placeOf := by
  unfold foundPlaces sourcesOf
  rw [List.map_flatMap]
  simp only [List.map_map, Function.comp_def]

theorem finds_iff {location : Location} {directory : FilePath} :
    finds place location directory = true ↔
      location ∈ (Discovery.sources place directory).map place.placeOf := by
  rw [finds, List.any_eq_true, List.mem_map]
  simp only [beq_iff_eq]

/-- One directory counts a place once, if it leads there. -/
theorem count_map_placeOf_sources (sound : place.tree.IsSound) (plain : place.tree.IsPlain)
    (location : Location) (directory : FilePath) :
    ((Discovery.sources place directory).map place.placeOf).count location =
      if finds place location directory then 1 else 0 := by
  split
  case isTrue isFound =>
    exact List.count_eq_one_of_mem (Discovery.nodup_map_placeOf_sources sound plain directory)
      (finds_iff.mp isFound)
  case isFalse missed => exact List.count_eq_zero.mpr fun member => missed (finds_iff.mpr member)

/-- A place counts once for every directory of the list that leads to it. -/
theorem count_foundPlaces (sound : place.tree.IsSound) (plain : place.tree.IsPlain)
    (project : ProjectSettings) (location : Location) :
    (foundPlaces place project).count location =
      project.directories.countP (finds place location) := by
  rw [foundPlaces_eq_flatMap]
  induction project.directories with
  | nil => rfl
  | cons directory rest inductionHypothesis =>
    rw [List.flatMap_cons, List.count_append, inductionHypothesis,
      count_map_placeOf_sources sound plain, List.countP_cons, Nat.add_comm]

/-- Two directories lead to the same place only if one of them lies in the other or at the same
place. -/
theorem startOf_prefix_of_finds (sound : place.tree.IsSound) (plain : place.tree.IsPlain)
    {location : Location} {first second : FilePath} (isFirst : finds place location first = true)
    (isSecond : finds place location second = true) :
    Discovery.startOf place first <+: Discovery.startOf place second ∨
      Discovery.startOf place second <+: Discovery.startOf place first := by
  have below {directory : FilePath} (isFound : finds place location directory = true) :
      Discovery.startOf place directory <+: location := by
    obtain ⟨path, member, rfl⟩ := List.mem_map.mp (finds_iff.mp isFound)
    obtain ⟨_, names, _, _, _, placed⟩ := Discovery.exists_names_of_mem_sources sound plain member
    exact ⟨names, placed.symm⟩
  exact List.prefix_or_prefix_of_prefix (below isFirst) (below isSecond)

/-! ### What is declared -/

/-- What the text at a place declares; nothing if there is no text. -/
def declarationsAt (place : Workplace) (marker : List Char) (location : Location) :
    List Declaration :=
  match place.tree.get? location with
  | some (.text text) => Source.declarations marker text
  | _ => []

/-- The places of all source files with declarations, in the order in which they are read. -/
def declaringPlaces (place : Workplace) (project : ProjectSettings) : List Location :=
  (foundPlaces place project).filter fun location =>
    !(declarationsAt place project.settings.marker location).isEmpty

/-- What was read of source files, if all could be, is what stands at their places. -/
theorem files_scanFiles (plain : place.tree.IsPlain) {marker : List Char}
    {sources : List (FilePath × FilePath)}
    (read : (scanFiles place marker sources).failure = none) :
    (scanFiles place marker sources).files.map
        (fun file => (place.placeOf file.sourcePath, file.declarations)) =
      ((sources.map fun source => place.placeOf source.2).filter fun location =>
        !(declarationsAt place marker location).isEmpty).map
          fun location => (location, declarationsAt place marker location) := by
  induction sources with
  | nil => rfl
  | cons source rest inductionHypothesis =>
    unfold scanFiles at read ⊢
    split at read
    case h_1 => cases read
    case h_2 text isText =>
      have declared : declarationsAt place marker (place.placeOf source.2) =
          Source.declarations marker text := by
        unfold declarationsAt
        rw [Workplace.get?_placeOf_of_read plain isText]
      dsimp only
      rw [List.map_append, inductionHypothesis read, List.map_cons, List.filter_cons, declared]
      unfold ParsedFile.ofText?
      dsimp only
      split
      case isTrue nothing => simp [nothing]
      case isFalse something => simp [something, declared]

theorem files_scan (plain : place.tree.IsPlain) (read : (scan place project).failure = none) :
    (scan place project).files.map
        (fun file => (place.placeOf file.sourcePath, file.declarations)) =
      (declaringPlaces place project).map
        fun location => (location, declarationsAt place project.settings.marker location) :=
  files_scanFiles plain read

theorem count_declaringPlaces (sound : place.tree.IsSound) (plain : place.tree.IsPlain)
    (project : ProjectSettings) (location : Location) :
    (declaringPlaces place project).count location =
      if declarationsAt place project.settings.marker location = [] then 0
      else project.directories.countP (finds place location) := by
  unfold declaringPlaces
  split
  case isTrue undeclared =>
    exact List.count_eq_zero.mpr fun member => by simp [undeclared] at member
  case isFalse declared =>
    rw [List.count_filter (by simpa using declared), count_foundPlaces sound plain]

theorem countP_le_one_iff {entries : List α} {chosen : α → Bool} :
    entries.countP chosen ≤ 1 ↔
      entries.Pairwise fun earlier later => ¬ (chosen earlier = true ∧ chosen later = true) := by
  induction entries with
  | nil => simp
  | cons entry rest inductionHypothesis =>
    rw [List.countP_cons, List.pairwise_cons, ← inductionHypothesis]
    cases isChosen : chosen entry with
    | false => simp
    | true =>
      have alone : rest.countP chosen = 0 ↔
          ∀ later ∈ rest, ¬ (true = true ∧ chosen later = true) := by
        simp [List.countP_eq_zero]
      rw [← alone, if_pos rfl]
      omega

/-- Every file with declarations counts once if and only if no two directories of the list lead to
the same one. -/
theorem nodup_declaringPlaces_iff (sound : place.tree.IsSound) (plain : place.tree.IsPlain)
    (project : ProjectSettings) :
    (declaringPlaces place project).Nodup ↔
      ∀ location, declarationsAt place project.settings.marker location ≠ [] →
        project.directories.Pairwise fun earlier later =>
          ¬ (finds place location earlier = true ∧ finds place location later = true) := by
  rw [List.nodup_iff_count_le_one]
  refine forall_congr' fun location => ?_
  rw [count_declaringPlaces sound plain, ← countP_le_one_iff]
  by_cases declaresNone : declarationsAt place project.settings.marker location = []
  · simp [declaresNone]
  · rw [if_neg declaresNone]
    exact ⟨fun few _ => few, fun few => few declaresNone⟩

theorem nodup_declaringPlaces_of_apart (sound : place.tree.IsSound) (plain : place.tree.IsPlain)
    (apart : project.directories.Pairwise fun earlier later =>
      ¬ Discovery.startOf place earlier <+: Discovery.startOf place later ∧
        ¬ Discovery.startOf place later <+: Discovery.startOf place earlier) :
    (declaringPlaces place project).Nodup := by
  rw [nodup_declaringPlaces_iff sound plain]
  refine fun location _ => apart.imp ?_
  rintro earlier later ⟨notIn, notAround⟩ ⟨isFirst, isSecond⟩
  exact (startOf_prefix_of_finds sound plain isFirst isSecond).elim notIn notAround

/-! ### What is emitted -/

section

variable (plain : place.tree.IsPlain) (read : (scan place project).failure = none)

include plain read

theorem forall₂_files_scan :
    List.Forall₂ (fun (file : ParsedFile) location => file.declarations =
        declarationsAt place project.settings.marker location)
      (scan place project).files (declaringPlaces place project) := by
  have same : List.Forall₂ Eq _ _ := List.forall₂_eq_eq_eq ▸ files_scan plain read
  rw [List.forall₂_map_left_iff, List.forall₂_map_right_iff] at same
  exact same.imp fun _ _ pair => (Prod.mk.inj pair).2

theorem flatMap_declarations_scan :
    (scan place project).files.flatMap ParsedFile.declarations =
      (declaringPlaces place project).flatMap
        (declarationsAt place project.settings.marker) := by
  have alike := forall₂_files_scan plain read
  generalize (scan place project).files = files, declaringPlaces place project = places at alike ⊢
  induction alike with
  | nil => rfl
  | cons same _ inductionHypothesis =>
    rw [List.flatMap_cons, List.flatMap_cons, same, inductionHypothesis]

theorem declarations_ne_nil_of_mem_scan {file : ParsedFile}
    (member : file ∈ (scan place project).files) : file.declarations ≠ [] := by
  have pair : (place.placeOf file.sourcePath, file.declarations) ∈
      (scan place project).files.map
        fun file => (place.placeOf file.sourcePath, file.declarations) :=
    List.mem_map_of_mem member
  rw [files_scan plain read] at pair
  obtain ⟨location, isDeclaring, same⟩ := List.mem_map.mp pair
  obtain ⟨_, declares⟩ := List.mem_filter.mp isDeclaring
  rw [← (Prod.mk.inj same).2]
  simpa using declares

theorem exists_declaring_of_scan (somewhere : declaringPlaces place project ≠ []) :
    ∃ file ∈ (scan place project).files, file.declarations ≠ [] := by
  obtain ⟨file, rest, files⟩ : ∃ file rest, (scan place project).files = file :: rest := by
    refine List.exists_cons_of_ne_nil fun noFiles => somewhere ?_
    have alike := forall₂_files_scan plain read
    rw [noFiles] at alike
    exact List.forall₂_nil_left_iff.mp alike
  have member : file ∈ (scan place project).files := files ▸ List.mem_cons_self
  exact ⟨file, member, declarations_ne_nil_of_mem_scan plain read member⟩

end

open OutputUnit in
/-- A file counts once for every project directory whose search leads to it. So what it declares
stands as often in the one file, or in as many files of its own. It counts once if and only if no
two of the directories lead to it, as where none of them lies in another one or at its place. -/
structure CountsByDirectory (place : Workplace) (project : ProjectSettings) (time : Timestamp) :
    Prop where
  files : (scan place project).files.map
      (fun file => (place.placeOf file.sourcePath, file.declarations)) =
    (declaringPlaces place project).map fun location =>
      (location, declarationsAt place project.settings.marker location)
  count : ∀ location, (declaringPlaces place project).count location =
    if declarationsAt place project.settings.marker location = [] then 0
    else project.directories.countP (finds place location)
  once : (declaringPlaces place project).Nodup ↔
    ∀ location, declarationsAt place project.settings.marker location ≠ [] →
      project.directories.Pairwise fun earlier later =>
        ¬ (finds place location earlier = true ∧ finds place location later = true)
  apart : project.directories.Pairwise (fun earlier later =>
      ¬ Discovery.startOf place earlier <+: Discovery.startOf place later ∧
        ¬ Discovery.startOf place later <+: Discovery.startOf place earlier) →
    (declaringPlaces place project).Nodup
  inOneFile : project.settings.singleFile = true → declaringPlaces place project ≠ [] →
    ∃ declarations, declarations.Perm ((declaringPlaces place project).flatMap
        (declarationsAt place project.settings.marker)) ∧
      (assemble project.settings time (scan place project).files).map contents =
        [textOf project.settings time [] declarations]
  inManyFiles : project.settings.singleFile = false →
    List.Forall₂ (fun unit location => ∃ imports, unit.contents =
        textOf project.settings time imports
          (declarationsAt place project.settings.marker location))
      (assemble project.settings time (scan place project).files) (declaringPlaces place project)

open OutputUnit in
theorem forall₂_assemble_scan (plain : place.tree.IsPlain)
    (read : (scan place project).failure = none) (time : Timestamp)
    (apart : project.settings.singleFile = false) :
    List.Forall₂ (fun unit location => ∃ imports, unit.contents =
        textOf project.settings time imports
          (declarationsAt place project.settings.marker location))
      (assemble project.settings time (scan place project).files)
      (declaringPlaces place project) := by
  have alike := forall₂_files_scan plain read
  by_cases nowhere : declaringPlaces place project = []
  · rw [nowhere, List.forall₂_nil_right_iff] at alike
    rw [nowhere, alike]
    exact .nil
  · have all : (scan place project).files.filter (fun file => !file.declarations.isEmpty) =
        (scan place project).files :=
      List.filter_eq_self.mpr fun file member => by
        simpa using declarations_ne_nil_of_mem_scan plain read member
    rw [assemble_apart time apart (exists_declaring_of_scan plain read nowhere), all,
      List.forall₂_map_left_iff]
    exact alike.imp fun file location same => ⟨_, by rw [contents_ofFile, same]⟩

open OutputUnit in
/-- Without symbolic links and where every source can be read, files count by directory. -/
theorem sources_count_by_directory (sound : place.tree.IsSound) (plain : place.tree.IsPlain)
    (read : (scan place project).failure = none) (time : Timestamp) :
    CountsByDirectory place project time where
  files := files_scan plain read
  count := count_declaringPlaces sound plain project
  once := nodup_declaringPlaces_iff sound plain project
  apart := nodup_declaringPlaces_of_apart sound plain
  inOneFile together somewhere := by
    refine ⟨singleFileDeclarations project.settings (scan place project).files, ?_, ?_⟩
    · rw [← flatMap_declarations_scan plain read]
      exact singleFileDeclarations_perm _ _
    · rw [assemble_together time together (exists_declaring_of_scan plain read somewhere),
        List.map_singleton, contents_single]
  inManyFiles := forall₂_assemble_scan plain read time

/-- A project with a directory for each of two parts. -/
def twoPartTree : FileTree where
  entries :=
    [(["Api".toList], .directory),
      (["Api".toList, "Api.csproj".toList], .text []),
      (["Api".toList, "User.cs".toList],
        .text "[TypeSharp] public class User { }".toList),
      (["App".toList], .directory),
      (["App".toList, "App.csproj".toList], .text []),
      (["App".toList, "Order.cs".toList],
        .text "[TypeSharp] public class Order { }".toList)]
  distinct := by decide

/-- Both parts, all in one file. -/
def twoParts : ProjectSettings where
  projectFiles := .many [⟨"App/App.csproj".toList⟩, ⟨"Api/Api.csproj".toList⟩]
  settings := { Settings.forOutput ⟨"out".toList⟩ with singleFile := true }

theorem sources_count_by_directory_for_two_parts :
    Workplace.IsSound ⟨twoPartTree, []⟩ ∧ twoPartTree.IsPlain ∧
      validate ⟨twoPartTree, []⟩ twoParts = .ok () ∧
      (scan ⟨twoPartTree, []⟩ twoParts).failure = none ∧
      (declaringPlaces ⟨twoPartTree, []⟩ twoParts).Nodup ∧
      declaringPlaces ⟨twoPartTree, []⟩ twoParts =
        [["App".toList, "Order.cs".toList], ["Api".toList, "User.cs".toList]] := by
  have sound : Workplace.IsSound ⟨twoPartTree, []⟩ := by decide
  have plain : twoPartTree.IsPlain := by decide
  have read : (scan ⟨twoPartTree, []⟩ twoParts).failure = none := by decide +kernel
  have counts := sources_count_by_directory sound.tree plain read ⟨0, 0⟩
  exact ⟨sound, plain, by decide +kernel, read, counts.apart (by decide +kernel),
    by decide +kernel⟩

/-- A project in the directory of another one. -/
def nestedTree : FileTree where
  entries :=
    [(["App".toList], .directory),
      (["App".toList, "App.csproj".toList], .text []),
      (["App".toList, "Api".toList], .directory),
      (["App".toList, "Api".toList, "Api.csproj".toList], .text []),
      (["App".toList, "Api".toList, "User.cs".toList],
        .text "[TypeSharp] public class User { }".toList)]
  distinct := by decide

/-- Both projects of the nested tree, all in one file. -/
def nestedProjects : ProjectSettings where
  projectFiles := .many [⟨"App/App.csproj".toList⟩, ⟨"App/Api/Api.csproj".toList⟩]
  settings := { Settings.forOutput ⟨"out".toList⟩ with singleFile := true }

/-- The one source file of the nested tree is read twice, and what it declares is written twice. -/
theorem source_of_nested_project_counts_twice :
    nestedTree.IsPlain ∧
      validate ⟨nestedTree, []⟩ nestedProjects = .ok () ∧
      (scan ⟨nestedTree, []⟩ nestedProjects).failure = none ∧
      (scan ⟨nestedTree, []⟩ nestedProjects).files.map ParsedFile.sourcePath =
        [⟨"App/Api/User.cs".toList⟩, ⟨"App/Api/User.cs".toList⟩] ∧
      (OutputUnit.assemble nestedProjects.settings ⟨0, 0⟩
          (scan ⟨nestedTree, []⟩ nestedProjects).files).map OutputUnit.contents =
        [fileHeader ⟨0, 0⟩ ++
          "\n\nexport interface User {}\n\nexport interface User {}\n".toList] := by
  decide +kernel

end Command

end SharpTypes

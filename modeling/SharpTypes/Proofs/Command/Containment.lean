/-
Generated files stay below the output directory. Behind the components of the directory come the
plain names of directories and the name of a file that ends in `.ts`, whatever the source file is
called. So a run that generates files makes directories and writes where such paths lead. Without
symbolic links that is below the output directory, and everything else in the tree stays as it is,
source files and project files among it. A symbolic link below the output directory is followed
wherever it leads.
-/

import Mathlib.Data.List.Basic
import Mathlib.Tactic.Common
import SharpTypes.Command
import SharpTypes.Proofs.Command.Course
import SharpTypes.Proofs.Command.Writing
import SharpTypes.Proofs.FileTree.Soundness
import SharpTypes.Proofs.Output.Assembly
import SharpTypes.Proofs.Output.UnitPlace

namespace SharpTypes

open FilePath

/-! ### Inside a directory -/

/-- The path lies inside a directory as generated files do: plain names of directories follow, and
the name of a file that ends in `.ts`. -/
def FilePath.IsInside (path directory : FilePath) : Prop :=
  ∃ (between : List (List Char)) (stem : List Char), (∀ name ∈ between, IsPlain name) ∧
    '/' ∉ stem ∧
      path.components =
        directory.components ++ between.map Component.name ++ [.name (stem ++ ".ts".toList)]

/-- The location lies inside another one as generated files do. -/
def Location.IsInside (location directory : Location) : Prop :=
  ∃ (between : List (List Char)) (stem : List Char), (∀ name ∈ between, IsPlain name) ∧
    '/' ∉ stem ∧ location = directory ++ between ++ [stem ++ ".ts".toList]

/-- The place of a path inside a directory lies inside the place of the directory. -/
theorem FilePath.IsInside.placeOf {path directory : FilePath} (inside : path.IsInside directory)
    (place : Workplace) : (place.placeOf path).IsInside (place.placeOf directory) := by
  obtain ⟨between, stem, plain, slashFree, components⟩ := inside
  refine ⟨between, stem, plain, slashFree, ?_⟩
  rw [← List.map_singleton, List.append_assoc, ← List.map_append] at components
  rw [Layout.placeOf_of_components place components, List.append_assoc]
  rfl

/-- What ends otherwise than in `.ts` is no generated file. -/
theorem Location.not_isInside_of_getLast? {location directory : Location} {name : List Char}
    (last : location.getLast? = some name) (differs : ¬ ".ts".toList <:+ name) :
    ¬ location.IsInside directory := by
  rintro ⟨between, stem, _, _, rfl⟩
  rw [List.getLast?_concat] at last
  obtain rfl : stem ++ ".ts".toList = name := Option.some.inj last
  exact differs (List.suffix_append stem _)

namespace Layout

variable {settings : Settings}

theorem isInside_unitPath (accepted : settings.problem? = none) (source : FilePath) :
    ((of settings).unitPath source).IsInside settings.outputPath := by
  obtain ⟨directories, stem, plain, generated⟩ := exists_plain_unitPath (of settings) source
  refine ⟨directories, stem, plain, generated.slashFree, ?_⟩
  rw [generated.components, start_of_accepted accepted]

theorem isInside_singleFilePath (settings : Settings) :
    (of settings).singleFilePath.IsInside settings.outputPath := by
  refine ⟨[], "types".toList, nofun, by decide, ?_⟩
  have relative : ("types.ts".toList).head? ≠ some '/' := by decide
  have notCurrent : (Text.splitOn '/' "types.ts".toList).head? ≠ some ['.'] := by decide
  show (settings.outputPath.child "types.ts".toList).components = _
  rw [components_child settings.outputPath relative notCurrent, List.append_assoc]
  rfl

end Layout

/-- All files that are generated with accepted settings lie inside the output directory. -/
theorem OutputUnit.isInside_of_mem_assemble {settings : Settings} {time : Timestamp}
    {files : List ParsedFile} (accepted : settings.problem? = none) {unit : OutputUnit}
    (isUnit : unit ∈ assemble settings time files) : unit.path.IsInside settings.outputPath := by
  cases mode : settings.singleFile with
  | false =>
    obtain ⟨source, same⟩ := exists_source_of_mem_assemble mode isUnit
    rw [same]
    exact Layout.isInside_unitPath accepted source
  | true =>
    unfold assemble at isUnit
    rw [mode] at isUnit
    dsimp only at isUnit
    split at isUnit
    · cases isUnit
    · rw [if_pos rfl, List.mem_singleton] at isUnit
      rw [isUnit]
      exact Layout.isInside_singleFilePath settings

namespace Command

/-! ### What a run changes -/

/-- The names of source files and of project files do not end as those of generated files. -/
theorem not_generated_of_ending {name : List Char}
    (ending : ".cs".toList <:+ name ∨ ".csproj".toList <:+ name) : ¬ ".ts".toList <:+ name := by
  intro generated
  rcases ending with source | project
  · rcases List.suffix_or_suffix_of_suffix source generated with within | within <;>
      revert within <;> decide
  · rcases List.suffix_or_suffix_of_suffix project generated with within | within <;>
      revert within <;> decide

/-- Settings that were loaded are accepted. -/
theorem problem?_of_load {place : Workplace} {given : Option FilePath} {path : FilePath}
    {project : ProjectSettings} (loaded : load place given = .ok (path, project)) :
    project.settings.problem? = none := by
  obtain ⟨located, _, loaded⟩ := Settings.eq_of_bind_eq_ok loaded
  obtain ⟨read, _, loaded⟩ := Settings.eq_of_bind_eq_ok loaded
  obtain ⟨⟨⟩, valid, loaded⟩ := Settings.eq_of_bind_eq_ok loaded
  obtain ⟨_, rfl⟩ := Prod.mk.inj (Except.ok.inj loaded)
  unfold validate at valid
  split at valid
  · cases valid
  · assumption

/-- A path inside the directory leads to the location. -/
def ledToInside (place : Workplace) (directory : FilePath) (location : Location) : Prop :=
  ∃ path : FilePath, path.IsInside directory ∧ place.locate path = .ok location

/-- The locations at which files may be generated with the settings that are loaded. -/
def outputPlaces (place : Workplace) (given : Option FilePath) (location : Location) : Prop :=
  ∃ path project, load place given = .ok (path, project) ∧
    location.IsInside (place.placeOf project.settings.outputPath)

/-- Without links a path inside the directory leads inside the directory. -/
theorem isInside_of_ledToInside {place : Workplace} {tree : FileTree} (plain : tree.IsPlain)
    {directory : FilePath} {location : Location}
    (isLedTo : ledToInside (place.withTree tree) directory location) :
    location.IsInside (place.placeOf directory) := by
  obtain ⟨path, inside, located⟩ := isLedTo
  have here : location = (place.withTree tree).placeOf path :=
    Workplace.placeOf_of_locate plain located
  exact here ▸ inside.placeOf place

section

variable {place : Workplace} {given : Option FilePath} {path : FilePath}
  {project : ProjectSettings}

theorem tree_generate_of_not_loaded (time : Timestamp) {failure : Failure}
    (failed : load place given = .error failure) :
    (generate place time given).tree = place.tree := by
  rw [generate, failed]
  rfl

/-- Generating files writes texts where paths inside the output directory lead only, and makes
directories. -/
theorem becomes_of_generate (time : Timestamp) (loaded : load place given = .ok (path, project)) :
    FileTree.Becomes (ledToInside (place.withTree (generate place time given).tree)
      project.settings.outputPath) place.tree (generate place time given).tree := by
  have course := course_generate place time given
  generalize generate place time given = outcome at course ⊢
  cases course with
  | notLoaded => exact .refl _ _
  | notRead => exact .refl _ _
  | nothingFound => exact .refl _ _
  | collided => exact .refl _ _
  | wrote loadedSo read apart wrote lines events =>
    subst wrote
    obtain ⟨rfl, rfl⟩ := Prod.mk.inj (Except.ok.inj (loadedSo.symm.trans loaded))
    refine (becomes_of_writeUnits place _ _).mono fun location ⟨unit, isUnit, located⟩ => ?_
    exact ⟨unit.path, OutputUnit.isInside_of_mem_assemble (problem?_of_load loaded) isUnit, located⟩

theorem becomes_of_generate_of_isPlain (plain : place.tree.IsPlain) (time : Timestamp)
    (given : Option FilePath) :
    FileTree.Becomes (outputPlaces place given) place.tree (generate place time given).tree := by
  cases loaded : load place given with
  | error failure =>
    rw [tree_generate_of_not_loaded time loaded]
    exact .refl _ _
  | ok found =>
    obtain ⟨path, project⟩ := found
    have becomes := becomes_of_generate time loaded
    refine becomes.mono fun location isLedTo => ⟨path, project, loaded, ?_⟩
    exact isInside_of_ledToInside (becomes.isPlain plain) isLedTo

end

/-- What a run that generates files into a directory may have done at a location. -/
inductive Change (place : Workplace) (directory : FilePath) (result : FileTree)
    (location : Location) : Prop where
  /-- It was empty and is a directory now. -/
  | made (empty : place.tree.get? location = none)
      (isDirectory : result.get? location = some .directory)
  /-- It was empty or held a file, and holds a text now, to which a path inside the directory leads.
  -/
  | filled (free : ∀ node ∈ place.tree.get? location, node.isFile = true)
      (contents : List Char) (holds : result.get? location = some (.text contents))
      (isLedTo : ledToInside (place.withTree result) directory location)

/-- A tree that differs only as it may after a run that generates files into a directory. -/
structure IsContained (place : Workplace) (directory : FilePath) (result : FileTree) : Prop where
  changes : ∀ location, result.get? location ≠ place.tree.get? location →
    Change place directory result location
  /-- Without symbolic links every file that is new or another one lies inside the directory. -/
  inside : place.tree.IsPlain → ∀ location node, result.get? location = some node →
    node.isFile = true → place.tree.get? location ≠ some node →
      location.IsInside (place.placeOf directory)
  /-- Without symbolic links no source file and no project file is changed. -/
  keeps : place.tree.IsPlain → ∀ location name node, location.getLast? = some name →
    (".cs".toList <:+ name ∨ ".csproj".toList <:+ name) →
      place.tree.get? location = some node → result.get? location = some node

theorem isContained_of_becomes {place : Workplace} {directory : FilePath} {result : FileTree}
    (becomes : FileTree.Becomes (ledToInside (place.withTree result) directory) place.tree result) :
    IsContained place directory result := by
  have within (plain : place.tree.IsPlain) {location : Location}
      (isLedTo : ledToInside (place.withTree result) directory location) :
      location.IsInside (place.placeOf directory) :=
    isInside_of_ledToInside (becomes.isPlain plain) isLedTo
  refine ⟨fun location changed => ?_, fun plain location node there isFile changed => ?_,
    fun plain location name node last ending there => ?_⟩
  · cases becomes location with
    | kept same => exact absurd same changed
    | made empty isDirectory => exact .made empty isDirectory
    | filled isLedTo free contents holds => exact .filled free contents holds isLedTo
  · cases becomes location with
    | kept same => exact absurd (same ▸ there) changed
    | made _ isDirectory =>
      rw [isDirectory] at there
      obtain rfl := Option.some.inj there
      cases isFile
    | filled isLedTo _ _ _ => exact within plain isLedTo
  · refine becomes.get?_eq_of_not_written (fun isLedTo => ?_) there
    exact Location.not_isInside_of_getLast? last (not_generated_of_ending ending)
      (within plain isLedTo)

/-- With accepted settings the path of every generated file lies inside the output directory. And
whatever a run that generates files changes in the tree is a directory that was made where nothing
was, or a text to which a path inside the output directory leads. Without symbolic links that is
inside the output directory, and no source file and no project file is changed. -/
theorem generated_files_contained :
    (∀ settings : Settings, settings.problem? = none →
      (Layout.of settings).singleFilePath.IsInside settings.outputPath ∧
        ∀ source, ((Layout.of settings).unitPath source).IsInside settings.outputPath) ∧
    ∀ (place : Workplace) (time : Timestamp) (arguments : List (List Char))
      (given : Option FilePath) (level : LogLevel),
      Arguments.parse arguments = .task (.generate given) level →
        (∀ failure, load place given = .error failure →
          (run place time arguments).tree = place.tree) ∧
        ∀ path project, load place given = .ok (path, project) →
          IsContained place project.settings.outputPath (run place time arguments).tree := by
  refine ⟨fun settings accepted => ⟨Layout.isInside_singleFilePath settings,
    Layout.isInside_unitPath accepted⟩, ?_⟩
  intro place time arguments given level asked
  rw [run_of_parse asked]
  exact ⟨fun failure failed => tree_generate_of_not_loaded time failed,
    fun path project loaded => isContained_of_becomes (becomes_of_generate time loaded)⟩

/-- A tree with settings, a project file and a source file. -/
def smallTree : FileTree where
  entries :=
    [(["cs2ts.config.json".toList],
        .text "\x7b\"projectFiles\": \"App.csproj\", \"outputPath\": \"out\"\x7d".toList),
      (["App.csproj".toList], .text []),
      (["User.cs".toList], .text "[TypeSharp] public class User \x7b \x7d".toList)]
  distinct := by decide

/-- The settings of the small tree, seen from the root. -/
def smallSettings : ProjectSettings where
  projectFiles := .one ⟨"/App.csproj".toList⟩
  settings := .forOutput ⟨"/out".toList⟩

/-- Files for the small tree are generated: one inside its output directory, and its project file
stays. Settings with its output directory are accepted, also for a source above the project. -/
theorem generated_files_contained_for_user :
    ((Layout.of OutputUnit.intoOut).unitPath ⟨"../User.cs".toList⟩).IsInside ⟨"out".toList⟩ ∧
      smallTree.IsPlain ∧
      load ⟨smallTree, []⟩ none = .ok (⟨"/cs2ts.config.json".toList⟩, smallSettings) ∧
      Location.IsInside ["out".toList, "user.ts".toList] ["out".toList] ∧
      (run ⟨smallTree, []⟩ ⟨0, 0⟩ ["generate".toList]).tree.get? ["App.csproj".toList] =
        some (.text []) := by
  obtain ⟨paths, runs⟩ := generated_files_contained
  have plain : smallTree.IsPlain := by decide
  have loaded : load ⟨smallTree, []⟩ none =
      .ok (⟨"/cs2ts.config.json".toList⟩, smallSettings) := by
    decide +kernel
  have contained :=
    (runs ⟨smallTree, []⟩ ⟨0, 0⟩ ["generate".toList] none .warn (by decide)).2 _ _ loaded
  refine ⟨(paths OutputUnit.intoOut (by decide)).2 ⟨"../User.cs".toList⟩, plain, loaded, ?_, ?_⟩
  · have written : ∃ node, (run ⟨smallTree, []⟩ ⟨0, 0⟩ ["generate".toList]).tree.get?
        ["out".toList, "user.ts".toList] = some node ∧ node.isFile = true := by
      decide +kernel
    obtain ⟨node, there, isFile⟩ := written
    exact contained.inside plain _ node there isFile nofun
  · exact contained.keeps plain ["App.csproj".toList] "App.csproj".toList (.text []) rfl
      (.inr (by decide)) rfl

/-- The small tree with a link in its output directory that leads to the source file. -/
def linkedTree : FileTree where
  entries := smallTree.entries ++
    [(["out".toList], .directory),
      (["out".toList, "user.ts".toList], .link ⟨"../User.cs".toList⟩)]
  distinct := by decide

/-- Through the link a run that succeeds writes over the source file, which lies outside the output
directory. -/
theorem source_file_overwritten_through_link :
    Arguments.parse ["generate".toList] = .task (.generate none) .warn ∧
      load ⟨linkedTree, []⟩ none = .ok (⟨"/cs2ts.config.json".toList⟩, smallSettings) ∧
      (run ⟨linkedTree, []⟩ ⟨0, 0⟩ ["generate".toList]).status = 0 ∧
      linkedTree.get? ["User.cs".toList] =
        some (.text "[TypeSharp] public class User \x7b \x7d".toList) ∧
      (run ⟨linkedTree, []⟩ ⟨0, 0⟩ ["generate".toList]).tree.get? ["User.cs".toList] =
        some (.text (fileHeader ⟨0, 0⟩ ++ "\n\nexport interface User \x7b\x7d\n".toList)) ∧
      ¬ Location.IsInside ["User.cs".toList]
        (Workplace.placeOf ⟨linkedTree, []⟩ smallSettings.settings.outputPath) := by
  have notGenerated : ¬ ".ts".toList <:+ "User.cs".toList := by decide
  exact ⟨by decide, by decide +kernel, by decide +kernel, by decide, by decide +kernel,
    Location.not_isInside_of_getLast? rfl notGenerated⟩

end Command

end SharpTypes

/-
The directory that is searched for a project. It is the parent of the project file, and the search
starts where that file lies. The exception is a project file that is named alone in a settings file
that is named alone: its parent is the empty path, behind which the search starts at the root.
-/

import Mathlib.Data.List.Forall2
import Mathlib.Tactic.Common
import SharpTypes.Command.Loading
import SharpTypes.Proofs.Discovery

namespace SharpTypes

open FilePath

/-! ### Paths with a file name -/

namespace FilePath

theorem join_of_empty (path : FilePath) : (⟨[]⟩ : FilePath).join path = path := by
  unfold join
  split
  · exact if_pos rfl
  · rfl

/-- A path with a file name has a parent, which that name leads back from. -/
theorem exists_parent_of_fileName? {path : FilePath} {name : List Char}
    (named : path.fileName? = some name) :
    ∃ parent, path.parent? = some parent ∧ IsSegment name ∧
      path.components = parent.components ++ [.name name] := by
  obtain ⟨before, given⟩ : ∃ before, path.components = before ++ [.name name] := by
    unfold fileName? at named
    split at named
    case h_1 last ending =>
      obtain rfl := Option.some.inj named
      exact List.getLast?_eq_some_iff.mp ending
    case h_2 => cases named
  obtain ⟨front, idle, pieces, isName, _, _⟩ := exists_pieces_of_components given
  have slashFree : '/' ∉ name := by
    refine (wellFormed_parts path).slashFree name ?_
    rw [pieces]
    exact List.mem_append_right front List.mem_cons_self
  obtain ⟨parent, isParent, same⟩ := Option.map_eq_some_iff.mp (components_parent? given)
  exact ⟨parent, isParent, ⟨slashFree, isName⟩, by rw [given, same]⟩

/-- A path behind another one is a single name only if it is one itself and the other is empty. -/
theorem components_join_eq_name_iff {base path : FilePath} {name : List Char}
    (named : path.fileName? ≠ none) :
    (base.join path).components = [.name name] ↔
      base.text = [] ∧ path.components = [.name name] := by
  by_cases empty : base.text = []
  · obtain ⟨text⟩ := base
    obtain rfl : text = [] := empty
    rw [join_of_empty]
    exact (and_iff_right rfl).symm
  refine ⟨fun single => ?_, fun ⟨isEmpty, _⟩ => absurd isEmpty empty⟩
  by_cases relative : path.isRelative = true
  · -- There is something before the name.
    obtain ⟨last, named⟩ := Option.ne_none_iff_exists'.mp named
    obtain ⟨parent, _, _, given⟩ := exists_parent_of_fileName? named
    obtain ⟨front, idle, pieces, isName, allIdle, _⟩ := exists_pieces_of_components given
    rw [components_join empty relative, pieces, List.filterMap_append,
      List.filterMap_cons_some isName, filterMap_of_idle allIdle, ← List.append_assoc] at single
    have nothingBefore := (List.append_inj' (single.trans (List.nil_append _).symm) rfl).1
    exact absurd (components_eq_nil_iff.mp (List.append_eq_nil_iff.mp nothingBefore).1) empty
  · rw [join, if_neg relative] at single
    rw [isRelative, decide_eq_true_iff, not_not] at relative
    rw [components, relative] at single
    cases single

end FilePath

namespace Command

/-! ### Projects of a settings file -/

/-- Settings that can be read name the project files as they are seen from the parent of the
settings file. -/
theorem exists_of_readSettings {place : Workplace} {path : FilePath} {text : List Char}
    {written : ProjectSettings} (read : place.read path = .ok text)
    (parsed : (SettingsFormat.ofPath path).parse? text = some written) :
    ∃ project, readSettings place path = .ok project ∧ project.projectFiles.paths =
      written.projectFiles.paths.map (path.parent?.getD ⟨[]⟩).join := by
  unfold readSettings
  rw [read]
  dsimp only
  rw [parsed]
  dsimp only
  cases path.parent? with
  | none =>
    refine ⟨written, rfl, ?_⟩
    rw [Option.getD_none, List.map_congr_left fun path _ => join_of_empty path, List.map_id']
  | some base =>
    refine ⟨written.relocate base, rfl, ?_⟩
    show (written.projectFiles.map base.join).paths = _
    cases written.projectFiles <;> rfl

/-- For every project file that can be read from a settings file and has a name, the directory that
is searched leads to it by this name, and the search starts at the place it lies at, unless the path
of the directory is empty. It is empty if the project file and the settings file are both named
alone, and then the search starts at the root. -/
theorem search_starts_beside_project (place : Workplace) {path : FilePath} {text : List Char}
    {written : ProjectSettings} (read : place.read path = .ok text)
    (parsed : (SettingsFormat.ofPath path).parse? text = some written) :
    ∃ project, readSettings place path = .ok project ∧
      ∀ (index : Nat) (given : FilePath), written.projectFiles.paths[index]? = some given →
        ∃ file directory, project.projectFiles.paths[index]? = some file ∧
          project.directories[index]? = some directory ∧
          ∀ name, file.fileName? = some name →
            (directory.child name).components = file.components ∧
            (directory.text = [] ↔ file.components = [.name name]) ∧
            (given.fileName? ≠ none →
              (directory.text = [] ↔
                (path.parent?.getD ⟨[]⟩).text = [] ∧ given.components = [.name name])) ∧
            (directory.text ≠ [] → ∀ base, Discovery.base? place directory = some base →
              place.placeOf base ++ [name] = place.placeOf file) ∧
            (directory.text = [] → Discovery.base? place directory = some ⟨['/']⟩) := by
  obtain ⟨project, loaded, paths⟩ := exists_of_readSettings read parsed
  refine ⟨project, loaded, fun index given isGiven => ?_⟩
  have isFile : project.projectFiles.paths[index]? =
      some ((path.parent?.getD ⟨[]⟩).join given) := by
    rw [paths, List.getElem?_map, isGiven]
    rfl
  generalize seen : (path.parent?.getD ⟨[]⟩).join given = file at isFile
  refine ⟨file, file.parent?.getD ⟨['.']⟩, isFile, ?_, fun name named => ?_⟩
  · rw [ProjectSettings.directories, List.getElem?_map, isFile]
    rfl
  · obtain ⟨directory, isParent, segment, components⟩ := exists_parent_of_fileName? named
    have alone : directory.text = [] ↔ file.components = [.name name] := by
      rw [components, List.append_eq_singleton_iff, ← components_eq_nil_iff]
      simp
    rw [isParent, Option.getD_some]
    refine ⟨?_, alone, fun givenNamed => ?_, fun filled base found => ?_, fun empty => ?_⟩
    · rw [components_child_segment directory segment, components]
    · rw [alone, ← seen, components_join_eq_name_iff givenNamed]
    · rw [Discovery.placeOf_base? filled found, Workplace.placeOf, Workplace.placeOf, components,
        List.foldl_append]
      rfl
    · unfold Discovery.base?
      rw [empty]

/-- A project in a directory, with its settings file, and a source file that lies elsewhere. -/
def besideTree : FileTree where
  entries :=
    [(["w".toList], .directory),
      (["w".toList, "s.json".toList],
        .text "\x7b\"projectFiles\": \"App.csproj\", \"outputPath\": \"out\"\x7d".toList),
      (["w".toList, "App.csproj".toList], .text []),
      (["other.cs".toList], .text [])]
  distinct := by decide

/-- With the whole path of the settings file, the search starts in the directory of the project. -/
theorem search_starts_beside_app :
    Discovery.base? ⟨besideTree, ["w".toList]⟩ ⟨"/w".toList⟩ = some ⟨"/w".toList⟩ ∧
      Workplace.placeOf ⟨besideTree, ["w".toList]⟩ ⟨"/w".toList⟩ ++ ["App.csproj".toList] =
        Workplace.placeOf ⟨besideTree, ["w".toList]⟩ ⟨"/w/App.csproj".toList⟩ := by
  have read : Workplace.read ⟨besideTree, ["w".toList]⟩ ⟨"/w/s.json".toList⟩ =
      .ok "\x7b\"projectFiles\": \"App.csproj\", \"outputPath\": \"out\"\x7d".toList := by
    decide
  have parsed : (SettingsFormat.ofPath ⟨"/w/s.json".toList⟩).parse?
      "\x7b\"projectFiles\": \"App.csproj\", \"outputPath\": \"out\"\x7d".toList =
        some ⟨.one ⟨"App.csproj".toList⟩, .forOutput ⟨"out".toList⟩⟩ := by
    decide +kernel
  have found : Discovery.base? ⟨besideTree, ["w".toList]⟩ ⟨"/w".toList⟩ =
      some ⟨"/w".toList⟩ := by
    decide +kernel
  obtain ⟨project, loaded, searched⟩ := search_starts_beside_project _ read parsed
  obtain rfl : ⟨.one ⟨"/w/App.csproj".toList⟩, .forOutput ⟨"/w/out".toList⟩⟩ = project :=
    Except.ok.inj (.trans (by decide +kernel) loaded)
  obtain ⟨file, directory, isFile, isDirectory, beside⟩ := searched 0 _ rfl
  obtain rfl : ⟨"/w/App.csproj".toList⟩ = file := Option.some.inj isFile
  obtain rfl : ⟨"/w".toList⟩ = directory := Option.some.inj isDirectory
  obtain ⟨_, _, _, starts, _⟩ := beside "App.csproj".toList (by decide)
  exact ⟨found, starts (by decide) _ found⟩

/-- With bare names the directory of the project is empty, and the source files of the whole tree
are found. -/
theorem search_starts_at_root_for_bare_names :
    load ⟨besideTree, ["w".toList]⟩ (some ⟨"s.json".toList⟩) =
        .ok (⟨"s.json".toList⟩, ⟨.one ⟨"App.csproj".toList⟩, .forOutput ⟨"out".toList⟩⟩) ∧
      FilePath.fileName? ⟨"App.csproj".toList⟩ = some "App.csproj".toList ∧
      Workplace.placeOf ⟨besideTree, ["w".toList]⟩ ⟨"App.csproj".toList⟩ =
        ["w".toList, "App.csproj".toList] ∧
      ProjectSettings.directories ⟨.one ⟨"App.csproj".toList⟩, .forOutput ⟨"out".toList⟩⟩ =
        [⟨[]⟩] ∧
      Discovery.sources ⟨besideTree, ["w".toList]⟩ ⟨[]⟩ = [⟨"/other.cs".toList⟩] := by
  decide +kernel

end Command

end SharpTypes

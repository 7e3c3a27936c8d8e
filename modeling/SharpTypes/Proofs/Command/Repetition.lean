/-
Generating files twice, in trees without symbolic links. A run writes only under names of generated
files, so a second run finds the same settings, project files and source files, also where the
output directory lies among them, and writes the same files under the same paths. Only their headers
tell that it came later.
-/

import Mathlib.Tactic.Common
import SharpTypes.Command
import SharpTypes.Proofs.Command.Containment
import SharpTypes.Proofs.Command.NothingLost
import SharpTypes.Proofs.Discovery

namespace SharpTypes.Command

open FileTree FilePath Workplace

/-! ### What a second run finds -/

/-- How the names of generated files end. -/
def generatedEnding : List Char := ".ts".toList

section

variable {place : Workplace} {later : FileTree} {written : Location → Prop} {path : FilePath}
  {project : ProjectSettings} {given : Option FilePath} (sound : place.IsSound)
  (plain : place.tree.IsPlain) (soundLater : (place.withTree later).IsSound)
  (becomes : Becomes written place.tree later)
  (generated : ∀ location name, written (location ++ [name]) → generatedEnding <:+ name)

include sound plain generated in
/-- A file that is not named like generated ones is not written. -/
theorem not_written_of_hasFile (file : place.hasFile path = true)
    (named : ∀ name ∈ path.fileName?, ¬ generatedEnding <:+ name) :
    ∀ location, place.locate path = .ok location → ¬ written location := by
  obtain ⟨node, found, isFile⟩ := hasFile_iff_find.mp file
  obtain ⟨before, name, components⟩ := exists_name_of_file sound plain found isFile
  intro location located isWritten
  rw [placeOf_of_locate plain located, placeOf, components, List.foldl_append] at isWritten
  exact named name (fileName?_of_components components) (generated _ name isWritten)

include sound plain becomes generated in
theorem read_again (file : place.hasFile path = true)
    (named : ∀ name ∈ path.fileName?, ¬ generatedEnding <:+ name) :
    (place.withTree later).read path = place.read path :=
  read_of_becomes becomes file (not_written_of_hasFile sound plain generated file named)

theorem hasFile_of_read {text : List Char} (read : place.read path = .ok text) :
    place.hasFile path = true := by
  obtain ⟨node, found, isText⟩ := Settings.eq_of_bind_eq_ok read
  refine hasFile_iff_find.mpr ⟨node, found, ?_⟩
  cases node with
  | text => rfl
  | binary => rfl
  | directory => cases isText
  | link => cases isText

theorem not_generated_fileName (format : SettingsFormat) :
    ¬ generatedEnding <:+ format.fileName := by
  cases format <;> decide

include sound plain soundLater becomes generated in
/-- The same settings file is looked for. -/
theorem locate_again (given : Option FilePath) :
    locate (place.withTree later) (place.withTree later).currentPath given =
      locate place place.currentPath given := by
  have same (format : SettingsFormat) :
      (place.withTree later).hasFile (place.currentPath.child format.fileName) =
        place.hasFile (place.currentPath.child format.fileName) := by
    have notWritten : ¬ written (place.current ++ [format.fileName]) := fun isWritten =>
      not_generated_fileName format (generated _ _ isWritten)
    rw [Bool.eq_iff_iff]
    have plainLater : (place.withTree later).tree.IsPlain := becomes.isPlain plain
    exact (hasFile_currentPath_child_iff soundLater plainLater (isSegment_fileName format)).trans
      ((and_congr_right fun _ => becomes.holdsFile_iff notWritten).trans
        (hasFile_currentPath_child_iff sound plain (isSegment_fileName format)).symm)
  have here : (place.withTree later).currentPath = place.currentPath := rfl
  cases given with
  | some path => rfl
  | none =>
    rw [here]
    simp only [locate, SettingsFormat.all, List.map_cons, List.map_nil, List.find?_cons, same,
      List.find?_nil]

theorem not_generated_of_extension {name : List Char}
    (extension : (splitExtension name).2 = some projectExtension) :
    ¬ generatedEnding <:+ name := by
  rintro ⟨stem, rfl⟩
  cases stem with
  | nil => revert extension; decide
  | cons first rest =>
    have cut := splitExtension_append (List.cons_ne_nil first rest)
      (show '.' ∉ "ts".toList by decide)
    have whole : first :: rest ++ generatedEnding = first :: rest ++ '.' :: "ts".toList := rfl
    have differs : "ts".toList ≠ projectExtension := by decide
    rw [whole, cut] at extension
    exact differs (Option.some.inj extension)

theorem checkProject_eq_ok (checked : checkProject place path = .ok ()) :
    place.isThere path = true ∧ place.hasFile path = true ∧
      path.extension? = some projectExtension := by
  unfold checkProject at checked
  split_ifs at checked with missing noFile otherwise
  simp only [Bool.not_eq_true', Bool.not_eq_false, ne_eq, not_not] at missing noFile otherwise
  exact ⟨missing, noFile, otherwise⟩

include sound plain becomes generated in
theorem checkProject_again (checked : checkProject place path = .ok ()) :
    checkProject (place.withTree later) path = .ok () := by
  obtain ⟨there, file, extension⟩ := checkProject_eq_ok checked
  have named : ∀ name ∈ path.fileName?, ¬ generatedEnding <:+ name := by
    intro name isName
    refine not_generated_of_extension ?_
    rw [FilePath.extension?, Option.mem_def.mp isName] at extension
    exact extension
  have notWritten := not_written_of_hasFile sound plain generated file named
  unfold checkProject
  rw [isThere_of_becomes becomes there, hasFile_of_becomes becomes file notWritten, extension]
  rfl

theorem forM_eq_ok_iff {paths : List FilePath} {check : FilePath → Except Failure Unit} :
    paths.forM check = .ok () ↔ ∀ path ∈ paths, check path = .ok () := by
  induction paths with
  | nil => exact iff_of_true rfl nofun
  | cons path rest inductionHypothesis =>
    rw [List.forall_mem_cons, ← inductionHypothesis]
    constructor
    · intro checked
      obtain ⟨⟨⟩, first, others⟩ := Settings.eq_of_bind_eq_ok checked
      exact ⟨first, others⟩
    · rintro ⟨first, others⟩
      show (check path).bind (fun _ => rest.forM check) = .ok ()
      rw [first]
      exact others

theorem validate_eq_ok_iff :
    validate place project = .ok () ↔ project.settings.problem? = none ∧
      project.projectFiles.paths ≠ [] ∧
      ∀ path ∈ project.projectFiles.paths, checkProject place path = .ok () := by
  unfold validate
  rw [← forM_eq_ok_iff]
  cases project.settings.problem? with
  | some problem => simp
  | none =>
    dsimp only
    split
    case isTrue empty => simp [List.isEmpty_iff.mp empty]
    case isFalse filled => simp [List.isEmpty_iff.not.mp filled]

theorem load_eq_ok_iff :
    load place given = .ok (path, project) ↔
      locate place place.currentPath given = .ok path ∧ readSettings place path = .ok project ∧
        validate place project = .ok () := by
  constructor
  · intro loaded
    obtain ⟨located, isLocated, loaded⟩ := Settings.eq_of_bind_eq_ok loaded
    obtain ⟨read, isRead, loaded⟩ := Settings.eq_of_bind_eq_ok loaded
    obtain ⟨⟨⟩, valid, loaded⟩ := Settings.eq_of_bind_eq_ok loaded
    obtain ⟨rfl, rfl⟩ := Prod.mk.inj (Except.ok.inj loaded)
    exact ⟨isLocated, isRead, valid⟩
  · rintro ⟨isLocated, isRead, valid⟩
    unfold load
    rw [isLocated]
    dsimp only [bind, Except.bind]
    rw [isRead]
    dsimp only
    rw [valid]
    rfl

theorem exists_read_of_readSettings (read : readSettings place path = .ok project) :
    ∃ text, place.read path = .ok text := by
  unfold readSettings at read
  split at read
  case h_1 => cases read
  case h_2 text isText => exact ⟨text, isText⟩

theorem fileName?_of_locate (located : locate place place.currentPath none = .ok path) :
    ∃ format : SettingsFormat, path.fileName? = some format.fileName := by
  unfold locate at located
  dsimp only at located
  split at located
  case h_2 => cases located
  case h_1 candidate found =>
    obtain rfl := Except.ok.inj located
    obtain ⟨format, _, rfl⟩ := List.mem_map.mp (List.mem_of_find?_eq_some found)
    exact ⟨format, fileName?_of_components (components_child_segment _ (isSegment_fileName format))⟩

include sound plain soundLater becomes generated in
/-- The same settings are loaded. -/
theorem load_again (named : ∀ path ∈ given, ∀ name ∈ path.fileName?, ¬ generatedEnding <:+ name)
    (loaded : load place given = .ok (path, project)) :
    load (place.withTree later) given = .ok (path, project) := by
  obtain ⟨located, read, valid⟩ := load_eq_ok_iff.mp loaded
  obtain ⟨text, isText⟩ := exists_read_of_readSettings read
  have namedOtherwise : ∀ name ∈ path.fileName?, ¬ generatedEnding <:+ name := by
    cases given with
    | some path =>
      obtain rfl := Except.ok.inj located
      exact named path rfl
    | none =>
      obtain ⟨format, isName⟩ := fileName?_of_locate located
      intro name isOther
      obtain rfl : format.fileName = name := Option.some.inj (isName.symm.trans isOther)
      exact not_generated_fileName format
  have readAgain := read_again sound plain becomes generated (hasFile_of_read isText)
    namedOtherwise
  refine load_eq_ok_iff.mpr ⟨?_, ?_, ?_⟩
  · rw [locate_again sound plain soundLater becomes generated, located]
  · rw [← read, readSettings, readSettings, readAgain]
  · obtain ⟨accepted, projectsGiven, checked⟩ := validate_eq_ok_iff.mp valid
    exact validate_eq_ok_iff.mpr ⟨accepted, projectsGiven, fun path isPath =>
      checkProject_again sound plain becomes generated (checked path isPath)⟩

include sound plain in
theorem exists_reaches_directory (valid : validate place project = .ok ()) :
    ∀ directory ∈ project.directories, ∃ location, place.Reaches directory location := by
  intro directory isDirectory
  obtain ⟨file, isFile, rfl⟩ := List.mem_map.mp isDirectory
  obtain ⟨_, _, checked⟩ := validate_eq_ok_iff.mp valid
  obtain ⟨_, there, _⟩ := checkProject_eq_ok (checked file isFile)
  obtain ⟨node, found, nodeIsFile⟩ := hasFile_iff_find.mp there
  obtain ⟨parent, location, isParent, reaches⟩ := exists_reaches_parent sound plain found nodeIsFile
  exact ⟨location, by rw [isParent]; exact reaches⟩

theorem scanFiles_congr {other : Workplace} (marker : List Char)
    {sources : List (FilePath × FilePath)}
    (same : ∀ source ∈ sources, other.read source.2 = place.read source.2) :
    scanFiles other marker sources = scanFiles place marker sources := by
  induction sources with
  | nil => rfl
  | cons source rest inductionHypothesis =>
    obtain ⟨sameFirst, sameRest⟩ := List.forall_mem_cons.mp same
    rw [scanFiles, scanFiles, sameFirst, inductionHypothesis sameRest]

include sound plain soundLater becomes generated in
/-- The same source files are found, and the same is read from them. -/
theorem scan_again (valid : validate place project = .ok ()) :
    scan (place.withTree later) project = scan place project := by
  have elsewhere (location : Location) (name : List Char)
      (isWritten : written (location ++ [name])) : ¬ Discovery.sourceEnding <:+ name :=
    fun ending => not_generated_of_ending (.inl ending) (generated location name isWritten)
  have sameSources : sourcesOf (place.withTree later) project = sourcesOf place project := by
    refine List.flatMap_congr fun directory isDirectory => ?_
    obtain ⟨location, reaches⟩ := exists_reaches_directory sound plain valid directory isDirectory
    have same : Discovery.sources (place.withTree later) directory =
        Discovery.sources place directory :=
      Discovery.sources_of_becomes sound plain soundLater.tree becomes elsewhere reaches
    rw [same]
  unfold scan
  rw [sameSources]
  refine scanFiles_congr _ fun source isSource => ?_
  obtain ⟨directory, _, isPair⟩ := List.mem_flatMap.mp isSource
  obtain ⟨path, isFound, rfl⟩ := List.mem_map.mp isPair
  obtain ⟨file, named⟩ := Discovery.hasFile_of_mem_sources isFound
  refine read_again sound plain becomes generated file fun name isName => ?_
  exact not_generated_of_ending (.inl (Discovery.sourceEnding_of_isNamedAsSource named isName))

end

/-! ### What a second run writes -/

/-- The texts are the same but for the line that says when they were generated. -/
def AlikeButForTime (time later : Timestamp) (old new : List Char) : Prop :=
  ∃ before after, '\n' ∉ time.render ∧ '\n' ∉ later.render ∧
    old = before ++ "\n * Generated at: ".toList ++ time.render ++ '\n' :: after ∧
    new = before ++ "\n * Generated at: ".toList ++ later.render ++ '\n' :: after

theorem alikeButForTime_underHeader (time later : Timestamp) (body : OutputUnit) :
    AlikeButForTime time later (OutputUnit.underHeader time body).contents
      (OutputUnit.underHeader later body).contents := by
  have contents (time : Timestamp) : (OutputUnit.underHeader time body).contents =
      "/**\n * Auto-generated by cs2ts".toList ++ "\n * Generated at: ".toList ++ time.render ++
        '\n' :: (" * Do not edit this file manually\n */".toList ++ body.contents) := by
    rw [OutputUnit.underHeader]
    dsimp only
    rw [fileHeader_eq, List.append_assoc _ _ body.contents, List.cons_append]
  exact ⟨_, _, time.newline_not_mem_render, later.newline_not_mem_render, contents time,
    contents later⟩

/-- One file that is written again says the same as before but for the line that tells the time. -/
theorem alikeButForTime_of_writeUnits {place : Workplace} (plain : place.tree.IsPlain)
    (root : FilePath) {settings : Settings} {time later : Timestamp} {files : List ParsedFile}
    (apart : Collision.find? settings files = none) {first second : Written}
    (isFirst : writeUnits place root (OutputUnit.assemble settings time files) = first)
    (isSecond : writeUnits (place.withTree first.tree) root
      (OutputUnit.assemble settings later files) = second)
    (complete : first.failure = none) (completeToo : second.failure = none)
    {unit : OutputUnit} (isUnit : unit ∈ OutputUnit.assemble settings later files) :
    (∃ before ∈ OutputUnit.assemble settings time files,
      place.placeOf unit.path = place.placeOf before.path) ∧
      ∃ old new, first.tree.get? (place.placeOf unit.path) = some (.text old) ∧
        second.tree.get? (place.placeOf unit.path) = some (.text new) ∧
        AlikeButForTime time later old new := by
  subst isFirst isSecond
  obtain ⟨bodies, inFiles⟩ := OutputUnit.exists_bodies settings files
  have plainFirst := (becomes_of_writeUnits place (OutputUnit.assemble settings time files)
    root).isPlain plain
  have placedNew := get?_writeUnits (place.withTree _) plainFirst root
    (OutputUnit.pairwise_placeOf_assemble (place.withTree _) later apart) completeToo unit isUnit
  rw [inFiles, List.mem_map] at isUnit
  obtain ⟨body, isBody, rfl⟩ := isUnit
  have isOld : OutputUnit.underHeader time body ∈ OutputUnit.assemble settings time files := by
    rw [inFiles]
    exact List.mem_map_of_mem isBody
  have placedOld := get?_writeUnits place plain root
    (OutputUnit.pairwise_placeOf_assemble place time apart) complete _ isOld
  exact ⟨⟨_, isOld, rfl⟩, _, _, placedOld, placedNew, alikeButForTime_underHeader time later body⟩

/-- What is written a second time differs only in the line that tells the time. -/
theorem writeUnits_later {place : Workplace} (plain : place.tree.IsPlain) (root : FilePath)
    {settings : Settings} {time : Timestamp} (later : Timestamp) {files : List ParsedFile}
    (apart : Collision.find? settings files = none) {first : Written}
    (isFirst : writeUnits place root (OutputUnit.assemble settings time files) = first)
    (complete : first.failure = none) :
    ∃ second, writeUnits (place.withTree first.tree) root
        (OutputUnit.assemble settings later files) = second ∧
      second.failure = none ∧ second.paths = first.paths ∧
      ∀ location, second.tree.get? location = first.tree.get? location ∨
        (∃ unit ∈ OutputUnit.assemble settings time files, location = place.placeOf unit.path) ∧
          ∃ old new, first.tree.get? location = some (.text old) ∧
            second.tree.get? location = some (.text new) ∧ AlikeButForTime time later old new := by
  subst isFirst
  have samePaths : (OutputUnit.assemble settings later files).map OutputUnit.path =
      (OutputUnit.assemble settings time files).map OutputUnit.path := by
    obtain ⟨bodies, inFiles⟩ := OutputUnit.exists_bodies settings files
    rw [inFiles, inFiles, List.map_map, List.map_map]
    rfl
  have again := writeUnits_again place plain root samePaths complete
  refine ⟨_, again, rfl, ?_, fun location => ?_⟩
  · rw [paths_of_writeUnits place root complete]
    exact samePaths
  · by_cases isWritten : ∃ unit ∈ OutputUnit.assemble settings later files,
        location = place.placeOf unit.path
    · obtain ⟨unit, isUnit, rfl⟩ := isWritten
      exact .inr (alikeButForTime_of_writeUnits plain root apart rfl again complete rfl isUnit)
    · refine .inl (get?_withTexts place _ fun unit isUnit here => ?_)
      exact isWritten ⟨unit, isUnit, here⟩

/-! ### The whole -/

theorem generatedEnding_of_outputPlaces (place : Workplace) (given : Option FilePath)
    (location : Location) (name : List Char)
    (isOutput : outputPlaces place given (location ++ [name])) : generatedEnding <:+ name := by
  obtain ⟨_, _, _, _, stem, _, _, whole⟩ := isOutput
  have last := (List.append_inj' whole rfl).2
  obtain rfl : name = stem ++ ".ts".toList := by simpa using last
  exact List.suffix_append stem _

theorem isSound_generate {place : Workplace} (sound : place.IsSound) (time : Timestamp)
    (given : Option FilePath) : (place.withTree (generate place time given).tree).IsSound := by
  have course := course_generate place time given
  generalize generate place time given = outcome at course ⊢
  cases course with
  | notLoaded => exact sound
  | notRead => exact sound
  | nothingFound => exact sound
  | collided => exact sound
  | wrote loaded read apart wrote lines events =>
    subst wrote
    exact @invariant_of_writeUnits (fun tree => (place.withTree tree).IsSound) _ place
      (fun _ _ _ soundBefore => isSound_of_makeDirectory soundBefore)
      (fun _ _ _ _ soundBefore => isSound_of_write soundBefore) _ sound

/-- What is found in the sources is written a second time as it was the first time. -/
theorem produce_again {place : Workplace} (plain : place.tree.IsPlain) {settings : Settings}
    (time later : Timestamp) {lines : List (List Char)} {found : Scan} {first : Outcome}
    (isFirst : produce place time settings lines found = first)
    (succeeded : first.failure = none) :
    ∃ second, produce (place.withTree first.tree) later settings lines found = second ∧
      second.failure = none ∧ second.lines = first.lines ∧
      ∀ location, second.tree.get? location = first.tree.get? location ∨
        (∃ unit ∈ OutputUnit.assemble settings time found.files,
          location = place.placeOf unit.path) ∧
          ∃ old new, first.tree.get? location = some (.text old) ∧
            second.tree.get? location = some (.text new) ∧ AlikeButForTime time later old new := by
  subst isFirst
  refine ⟨_, rfl, ?_⟩
  cases apart : Collision.find? settings found.files with
  | some collision =>
    rw [produce, apart] at succeeded
    cases succeeded
  | none =>
    rw [produce, apart] at succeeded
    rw [produce, produce, apart]
    dsimp only at succeeded ⊢
    obtain ⟨second, isSecond, complete, samePaths, changes⟩ :=
      writeUnits_later plain settings.outputPath later apart rfl succeeded
    rw [isSecond, complete, succeeded]
    refine ⟨rfl, ?_, changes⟩
    rw [writtenLines, writtenLines, samePaths, OutputUnit.length_assemble _ time later]

/-- Generating files a second time goes as the first time, and what differs are the lines in the
generated files that tell the time. -/
theorem generate_again {place : Workplace} (sound : place.IsSound) (plain : place.tree.IsPlain)
    (time later : Timestamp) {given : Option FilePath}
    (named : ∀ path ∈ given, ∀ name ∈ path.fileName?, ¬ generatedEnding <:+ name) {first : Outcome}
    (isFirst : generate place time given = first) (succeeded : first.failure = none) :
    ∃ second, generate (place.withTree first.tree) later given = second ∧
      second.failure = none ∧ second.lines = first.lines ∧
      ∀ location, second.tree.get? location = first.tree.get? location ∨
        outputPlaces place given location ∧
          ∃ old new, first.tree.get? location = some (.text old) ∧
            second.tree.get? location = some (.text new) ∧ AlikeButForTime time later old new := by
  subst isFirst
  have soundLater := isSound_generate sound time given
  have becomes := becomes_of_generate_of_isPlain plain time given
  have generated := generatedEnding_of_outputPlaces place given
  cases loaded : load place given with
  | error failure =>
    rw [generate, loaded] at succeeded
    cases succeeded
  | ok found =>
    obtain ⟨path, project⟩ := found
    have read := failure_scan_of_generate loaded succeeded
    have loadedAgain := load_again sound plain soundLater becomes generated named loaded
    have scannedAgain := scan_again sound plain soundLater becomes generated
      (load_eq_ok_iff.mp loaded).2.2
    have readAgain := read
    rw [← scannedAgain] at readAgain
    rw [generate_of_read loadedAgain readAgain, scannedAgain]
    have whole : generate place time given = _ := generate_of_read loaded read
    rw [whole] at succeeded ⊢
    by_cases nothing : (scan place project).files.isEmpty = true
    · rw [if_pos nothing, if_pos nothing]
      exact ⟨_, rfl, rfl, rfl, fun _ => .inl rfl⟩
    rw [if_neg nothing] at succeeded
    rw [if_neg nothing, if_neg nothing]
    obtain ⟨second, isSecond, complete, sameLines, changes⟩ :=
      produce_again plain time later rfl succeeded
    refine ⟨second, isSecond, complete, sameLines, fun location => ?_⟩
    rcases changes location with same | ⟨⟨unit, isUnit, here⟩, alike⟩
    · exact .inl same
    · have inside := OutputUnit.isInside_of_mem_assemble (problem?_of_load loaded) isUnit
      exact .inr ⟨⟨path, project, loaded, here ▸ inside.placeOf place⟩, alike⟩

/-- In every tree as it is on a disk, without symbolic links, and with a settings file that is not
named like generated files, a run that generates files and succeeds can be repeated on what it left:
that succeeds too, prints the same, and leaves everything as it is, but for the lines in the
generated files that tell the time. -/
theorem generation_repeatable {place : Workplace} (sound : place.IsSound)
    (plain : place.tree.IsPlain) (time later : Timestamp) {arguments : List (List Char)}
    {given : Option FilePath} {level : LogLevel}
    (asked : Arguments.parse arguments = .task (.generate given) level)
    (named : ∀ path ∈ given, ∀ name ∈ path.fileName?, ¬ generatedEnding <:+ name)
    {first : Report} (isFirst : run place time arguments = first) (succeeded : first.status = 0) :
    ∃ second, run (place.withTree first.tree) later arguments = second ∧
      second.status = 0 ∧ second.error = none ∧ second.output = first.output ∧
      ∀ location, second.tree.get? location = first.tree.get? location ∨
        outputPlaces place given location ∧
          ∃ old new, first.tree.get? location = some (.text old) ∧
            second.tree.get? location = some (.text new) ∧ AlikeButForTime time later old new := by
  have whole (place : Workplace) (time : Timestamp) :
      run place time arguments = .ofOutcome (generate place time given) :=
    run_of_parse asked
  rw [whole] at isFirst
  subst isFirst
  obtain ⟨second, isSecond, noFailure, sameLines, changes⟩ :=
    generate_again sound plain time later named rfl
      (Report.status_ofOutcome_eq_zero_iff.mp succeeded)
  refine ⟨.ofOutcome second, ?_, Report.status_ofOutcome_eq_zero_iff.mpr noFailure, ?_, ?_,
    changes⟩
  · rw [whole, ← isSecond]
    rfl
  · rw [Report.ofOutcome, noFailure]
    rfl
  · show second.lines.flatMap _ = (generate place time given).lines.flatMap _
    rw [sameLines]

/-- One second later, the small tree is left with one text that differs in its time. -/
theorem generation_repeatable_for_user :
    let first := run ⟨smallTree, []⟩ ⟨0, 0⟩ ["generate".toList]
    let second := run ⟨first.tree, []⟩ ⟨1, 0⟩ ["generate".toList]
    second.status = 0 ∧ second.output = first.output ∧
      ∃ old new, first.tree.get? ["out".toList, "user.ts".toList] = some (.text old) ∧
        second.tree.get? ["out".toList, "user.ts".toList] = some (.text new) ∧
        AlikeButForTime ⟨0, 0⟩ ⟨1, 0⟩ old new := by
  intro first second
  have asked : Arguments.parse ["generate".toList] = .task (.generate none) .warn := by decide
  have succeeded : first.status = 0 := by decide +kernel
  have sound : Workplace.IsSound ⟨smallTree, []⟩ := by decide
  have plain : smallTree.IsPlain := by decide
  obtain ⟨_, rfl, statusToo, _, sameOutput, changes⟩ :=
    generation_repeatable sound plain ⟨0, 0⟩ ⟨1, 0⟩ asked nofun rfl succeeded
  refine ⟨statusToo, sameOutput, ?_⟩
  have changed : second.tree.get? ["out".toList, "user.ts".toList] ≠
      first.tree.get? ["out".toList, "user.ts".toList] := by
    decide +kernel
  exact ((changes ["out".toList, "user.ts".toList]).resolve_left changed).2

end SharpTypes.Command

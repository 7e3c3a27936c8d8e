/-
The output directory. What lies below it does not depend on where it is: assembled into two
directories, the same source files give generated files that lie below the two in the same way, hold
the same texts, and import each other by the same specifiers. No specifier leads out of the output
directory on its way. All of this needs that no file name is itself a path from the root, as only a
suffix with a slash in it can make one, and settings with such a suffix are refused.
-/

import Mathlib.Data.List.Forall2
import Mathlib.Tactic.Common
import SharpTypes.Proofs.Output.Assembly
import SharpTypes.Proofs.Output.ImportTargets
import SharpTypes.Proofs.Output.Specifier

namespace SharpTypes

open Text FilePath

/-- The same settings with another output directory. -/
def Settings.into (settings : Settings) (root : FilePath) : Settings :=
  { settings with outputPath := root }

/-! ### Paths below two directories -/

/-- Two generated files lie below two directories in the same way. -/
def FilePath.LieAlike (first second one other : FilePath) : Prop :=
  ∃ directories stem, one.Generated first.components directories stem ∧
    other.Generated second.components directories stem

namespace FilePath.LieAlike

variable {first second one other nextOne nextOther : FilePath}

/-- What lies alike is told apart alike. -/
theorem same_eq (alike : LieAlike first second one other)
    (next : LieAlike first second nextOne nextOther) : one.same nextOne = other.same nextOther := by
  obtain ⟨directories, stem, generated, generatedToo⟩ := alike
  obtain ⟨nextDirectories, nextStem, nextGenerated, nextGeneratedToo⟩ := next
  rw [Bool.eq_iff_iff, same_iff, same_iff, generated.components, generatedToo.components,
    nextGenerated.components, nextGeneratedToo.components]
  simp only [List.append_assoc, List.append_cancel_left_eq]

/-- The specifier between files depends on how they lie below the directory alone. -/
theorem between_eq (alike : LieAlike first second one other)
    (next : LieAlike first second nextOne nextOther) :
    ModuleSpecifier.between one nextOne = ModuleSpecifier.between other nextOther := by
  obtain ⟨directories, stem, generated, generatedToo⟩ := alike
  obtain ⟨nextDirectories, nextStem, nextGenerated, nextGeneratedToo⟩ := next
  have sameWay : ModuleSpecifier.way one nextOne = ModuleSpecifier.way other nextOther := by
    rw [ModuleSpecifier.way_eq generated nextGenerated,
      ModuleSpecifier.way_eq generatedToo nextGeneratedToo]
  rw [ModuleSpecifier.between_eq, ModuleSpecifier.between_eq, sameWay]

/-- Files that lie alike have the same names below the two directories. -/
theorem exists_names (alike : LieAlike first second one other) :
    ∃ names : List (List Char), names ≠ [] ∧
      one.components = first.components ++ names.map Component.name ∧
      other.components = second.components ++ names.map Component.name := by
  obtain ⟨directories, stem, generated, generatedToo⟩ := alike
  refine ⟨directories ++ [stem ++ ".ts".toList], by simp, ?_, ?_⟩
  · rw [generated.components, List.map_append, List.append_assoc]
    rfl
  · rw [generatedToo.components, List.map_append, List.append_assoc]
    rfl

end FilePath.LieAlike

namespace Layout

theorem unitPath_into (settings : Settings) (root source : FilePath) :
    (of (settings.into root)).unitPath source =
      ((directoryNames source).foldl
        (fun path name => path.child ((of settings).naming.directory.apply name)) root).child
        ((of settings).fileName source) := rfl

/-- Where the name of a generated file is no path from the root, the file lies below the output
directory in a way that does not depend on that. -/
theorem exists_generated_into {settings : Settings} {source : FilePath}
    (below : ((of settings).fileName source).head? ≠ some '/') :
    ∃ directories stem, ∀ root,
      ((of (settings.into root)).unitPath source).Generated root.components directories stem := by
  obtain ⟨directories, plain, same⟩ :=
    exists_components_foldl_child (of settings).naming.directory
      fun name (member : name ∈ directoryNames source) => slashFree_of_mem_directoryNames member
  obtain ⟨fronts, stem, pieces, plainPieces⟩ := exists_splitOn_fileName (of settings) source
  obtain ⟨plainStem, plainFronts⟩ := List.forall_mem_cons.mp plainPieces
  obtain ⟨between, plainBetween, betweenSame⟩ := exists_plain plainFronts
  refine ⟨directories ++ between, stem, fun root => ⟨?_, plainStem.1, plainStem.2, ?_⟩⟩
  · intro name member
    exact ((List.mem_append.mp member).elim (plain name) (plainBetween name)).isSegment
  · have notCurrent := head?_splitOn_fileName (of settings) source
    rw [unitPath_into, components_child _ below notCurrent, same, pieces, List.filterMap_append,
      betweenSame, List.filterMap_cons_some (componentOf?_append_extension stem), List.map_append]
    simp only [List.filterMap_nil, List.append_assoc]

theorem lieAlike_unitPath {settings : Settings} {source : FilePath}
    (below : ((of settings).fileName source).head? ≠ some '/') (first second : FilePath) :
    LieAlike first second ((of (settings.into first)).unitPath source)
      ((of (settings.into second)).unitPath source) := by
  obtain ⟨directories, stem, generated⟩ := exists_generated_into below
  exact ⟨directories, stem, generated first, generated second⟩

end Layout

/-! ### Specifiers on their way -/

namespace ModuleSpecifier

/-- Read segment by segment from a directory, a specifier never leads out of another one. -/
def StaysIn (root directory : List Component) (specifier : List Char) : Prop :=
  ∀ count, root <+: ((splitOn '/' specifier).take count).foldl step directory

/-- With no more steps up than there are names, and with names behind them, no step leads above
where the names started. -/
theorem prefix_foldl_step (root : List Component) (names : List (List Char)) {ups : Nat}
    (few : ups ≤ names.length) {down : List (List Char)}
    (segments : ∀ segment ∈ down, IsSegment segment) (count : Nat) :
    root <+: ((List.replicate ups "..".toList ++ down).take count).foldl step
      (root ++ names.map Component.name) := by
  induction ups generalizing names count with
  | zero =>
    rw [List.replicate_zero, List.nil_append, foldl_step_segments, List.append_assoc]
    · exact List.prefix_append _ _
    · exact fun segment member => (segments segment (List.mem_of_mem_take member)).named
  | succ ups inductionHypothesis =>
    cases count with
    | zero => exact List.prefix_append _ _
    | succ count =>
      obtain ⟨before, last, rfl⟩ := (List.eq_nil_or_concat names).resolve_left fun empty => by
        rw [empty] at few
        cases few
      rw [List.concat_eq_append, List.length_append] at few
      rw [List.replicate_succ, List.cons_append, List.take_succ_cons, List.foldl_cons,
        List.concat_eq_append, List.map_append, ← List.append_assoc]
      show root <+: List.foldl step
        (step (root ++ before.map Component.name ++ [.name last]) ['.', '.']) _
      rw [step_up, above_concat_name]
      exact inductionHypothesis before (Nat.le_of_succ_le_succ few) count

theorem staysIn_nil {root directory : List Component} (inside : root <+: directory) :
    StaysIn root directory [] := by
  intro count
  cases count with
  | zero => exact inside
  | succ count =>
    show root <+: (List.take count []).foldl step (step directory [])
    rw [List.take_nil, step_of_isIdle rfl]
    exact inside

theorem staysIn_current {root directory : List Component} {text : List Char}
    (stays : StaysIn root directory text) : StaysIn root directory ("./".toList ++ text) := by
  have split : splitOn '/' ("./".toList ++ text) = ['.'] :: splitOn '/' text := by
    rw [show "./".toList ++ text = ['.'] ++ '/' :: text from rfl, splitOn_append_separator]
    rfl
  intro count
  rw [split]
  cases count with
  | zero => exact stays 0
  | succ count =>
    rw [List.take_succ_cons, List.foldl_cons, step_of_isIdle rfl]
    exact stays count

/-- The specifier between two files below a directory never leads out of it. -/
theorem staysIn_between {source target : FilePath} {start : List Component}
    {above below : List (List Char)} {first stem : List Char}
    (importing : source.Generated start above first)
    (imported : target.Generated start below stem) :
    StaysIn start source.directory (between source target) := by
  obtain ⟨common, up, down, rfl, belowSame, wayIs, _⟩ := exists_way importing imported
  have segments := isSegment_of_mem_down imported belowSame
  have stays : StaysIn start source.directory (join ['/'] (way source target)) := by
    rw [importing.directory_eq]
    by_cases nothing : way source target = []
    · rw [nothing]
      exact staysIn_nil (List.prefix_append _ _)
    · intro count
      have few : up.length ≤ (common ++ up).length := by simp
      rw [splitOn_join (by rw [wayIs]; exact slashFree_of_mem_way segments) nothing, wayIs,
        List.map_const']
      exact prefix_foldl_step start (common ++ up) few segments count
  rw [between_eq]
  split
  · exact stays
  · exact staysIn_current stays

end ModuleSpecifier

/-! ### Imports -/

namespace OutputUnit

variable {settings : Settings} {files : List ParsedFile} {file : ParsedFile}

/-- No file of a batch is turned into one whose name is itself a path from the root. -/
def StaysBelow (settings : Settings) (files : List ParsedFile) : Prop :=
  ∀ file ∈ files, ((Layout.of settings).fileName file.relativePath).head? ≠ some '/'

instance (settings : Settings) (files : List ParsedFile) : Decidable (StaysBelow settings files) :=
  inferInstanceAs (Decidable (∀ file ∈ files, _))

/-- Settings without a problem make no such file. -/
theorem staysBelow_of_accepted (accepted : settings.problem? = none) (files : List ParsedFile) :
    StaysBelow settings files := fun file _ atRoot =>
  Layout.slashFree_fileName accepted file.relativePath (List.mem_of_mem_head? atRoot)

/-- The imports of a file do not depend on the output directory. -/
theorem importsOf_into (below : StaysBelow settings files) (isFile : file ∈ files)
    (first second : FilePath) :
    importsOf (Layout.of (settings.into first))
        (Index.build (Layout.of (settings.into first)) files) file =
      importsOf (Layout.of (settings.into second))
        (Index.build (Layout.of (settings.into second)) files) file := by
  have importing := Layout.lieAlike_unitPath (below file isFile) first second
  unfold importsOf Import.collect
  congr 1
  funext imports name
  rw [Index.get?_build, Index.get?_build]
  cases found : files.reverse.find? (·.declares name) with
  | none => rfl
  | some other =>
    have isOther : other ∈ files := List.mem_reverse.mp (List.mem_of_find?_eq_some found)
    have imported := Layout.lieAlike_unitPath (below other isOther) first second
    simp only [Option.map_some]
    rw [imported.same_eq importing, importing.between_eq imported]

/-- So nor do the contents of the file that it is turned into. -/
theorem contents_into (below : StaysBelow settings files) (isFile : file ∈ files)
    (first second : FilePath) (time : Timestamp) :
    (ofFile (settings.into first) (Index.build (Layout.of (settings.into first)) files) time
        file).contents =
      (ofFile (settings.into second) (Index.build (Layout.of (settings.into second)) files) time
        file).contents := by
  show layOut _ (importsOf (Layout.of (settings.into first)) _ file) _ = _
  rw [importsOf_into below isFile first second]
  rfl

/-- Every import of a file leads on its way to nothing outside of the output directory. -/
theorem staysIn_of_mem_importsOf (below : StaysBelow settings files) (isFile : file ∈ files)
    {statement : Import}
    (isImport : statement ∈
      importsOf (Layout.of settings) (Index.build (Layout.of settings) files) file) :
    ModuleSpecifier.StaysIn settings.outputPath.components
      ((Layout.of settings).unitPath file.relativePath).directory statement.specifier := by
  have filled := ((Import.ordered_collect _ _ _).names statement isImport).1
  obtain ⟨name, isName⟩ := List.exists_mem_of_ne_nil _ filled
  obtain ⟨target, held, made⟩ := exists_target_of_mem_importsOf isImport isName
  obtain ⟨other, isOther, _, rfl⟩ := Index.exists_file_of_get? held
  obtain ⟨_, _, importing⟩ := Layout.exists_generated_into (below file isFile)
  obtain ⟨_, _, imported⟩ := Layout.exists_generated_into (below other isOther)
  rw [made]
  exact ModuleSpecifier.staysIn_between (importing settings.outputPath)
    (imported settings.outputPath)

/-- If no file is turned into one whose name is itself a path from the root, and settings without a
problem turn none into such a one, the generated files for two output directories correspond to each
other in order: they have the same names below the two directories and the same contents. And the
specifier of an import never leads out of the output directory. -/
theorem assemble_into (settings : Settings) (time : Timestamp) (files : List ParsedFile)
    (multiple : settings.singleFile = false) :
    (settings.problem? = none → StaysBelow settings files) ∧
    (StaysBelow settings files →
      (∀ first second : FilePath,
        List.Forall₂
          (fun one other : OutputUnit => one.contents = other.contents ∧
            ∃ names : List (List Char), names ≠ [] ∧
              one.path.components = first.components ++ names.map Component.name ∧
              other.path.components = second.components ++ names.map Component.name)
          (assemble (settings.into first) time files)
          (assemble (settings.into second) time files)) ∧
      ∀ unit ∈ assemble settings time files, ∃ file ∈ files,
        unit = ofFile settings (Index.build (Layout.of settings) files) time file ∧
          ∀ statement ∈
              importsOf (Layout.of settings) (Index.build (Layout.of settings) files) file,
            ModuleSpecifier.StaysIn settings.outputPath.components unit.path.directory
              statement.specifier) := by
  refine ⟨fun accepted => staysBelow_of_accepted accepted files,
    fun below => ⟨fun first second => ?_, fun unit isUnit => ?_⟩⟩
  · have filtered (root : FilePath) : assemble (settings.into root) time files =
        files.filterMap (unitOf? (settings.into root) time files) :=
      assemble_eq_filterMap time files multiple
    rw [filtered first, filtered second]
    refine List.rel_filterMap (R := fun file other => file = other ∧ file ∈ files) ?_
      (List.forall₂_same.mpr fun file isFile => ⟨rfl, isFile⟩)
    rintro file _ ⟨rfl, isFile⟩
    unfold unitOf?
    split
    · exact .none
    · exact .some ⟨contents_into below isFile first second time,
        (Layout.lieAlike_unitPath (below file isFile) first second).exists_names⟩
  · obtain ⟨file, isFile, _, rfl⟩ := (mem_assemble multiple unit).mp isUnit
    exact ⟨file, isFile, rfl, fun statement isImport =>
      staysIn_of_mem_importsOf below isFile isImport⟩

/-- The small run into a directory beside the current one gives the contents of the run into `out`.
-/
theorem assemble_into_for_order :
    StaysBelow intoOut [orderSource, userSource ⟨"Models/User.cs".toList⟩] ∧
      (assemble (intoOut.into ⟨"../x/y".toList⟩) ⟨0, 0⟩
        [orderSource, userSource ⟨"Models/User.cs".toList⟩]).map contents =
      (assemble (intoOut.into ⟨"out".toList⟩) ⟨0, 0⟩
        [orderSource, userSource ⟨"Models/User.cs".toList⟩]).map contents := by
  obtain ⟨accepted, relocated⟩ := assemble_into intoOut ⟨0, 0⟩
    [orderSource, userSource ⟨"Models/User.cs".toList⟩] rfl
  have below := accepted (by decide)
  have alike := (relocated below).1 ⟨"../x/y".toList⟩ ⟨"out".toList⟩
  refine ⟨below, ?_⟩
  rw [← List.forall₂_eq_eq_eq, List.forall₂_map_left_iff, List.forall₂_map_right_iff]
  exact alike.imp fun _ _ both => both.1

/-- Settings with a suffix that starts with a slash, as no settings may have that are used. -/
def withRootedSuffix : Settings := { intoOut with fileSuffix := some "/a".toList }

/-- With a suffix that starts with a slash, a source file without a name to convert is turned into a
file at the root, and the specifier of an import from it tells how deep the output directory lies.
-/
theorem imports_of_rooted_file :
    (∃ unit ∈ assemble (withRootedSuffix.into ⟨"x/y".toList⟩) ⟨0, 0⟩
        [orderSource, userSource ⟨"_.cs".toList⟩],
      ¬ FilePath.components ⟨"x/y".toList⟩ <+: unit.path.components) ∧
      (assemble (withRootedSuffix.into ⟨"out".toList⟩) ⟨0, 0⟩
        [orderSource, userSource ⟨"_.cs".toList⟩]).map contents ≠
      (assemble (withRootedSuffix.into ⟨"x/y".toList⟩) ⟨0, 0⟩
        [orderSource, userSource ⟨"_.cs".toList⟩]).map contents := by
  have isUnit : ofFile (withRootedSuffix.into ⟨"x/y".toList⟩)
      (Index.build (Layout.of (withRootedSuffix.into ⟨"x/y".toList⟩))
        [orderSource, userSource ⟨"_.cs".toList⟩]) ⟨0, 0⟩ (userSource ⟨"_.cs".toList⟩) ∈
        assemble (withRootedSuffix.into ⟨"x/y".toList⟩) ⟨0, 0⟩
          [orderSource, userSource ⟨"_.cs".toList⟩] :=
    ofFile_mem_assemble rfl (List.mem_cons_of_mem _ List.mem_cons_self) (by decide)
  exact ⟨⟨_, isUnit, by decide⟩, by decide +kernel⟩

end OutputUnit

end SharpTypes

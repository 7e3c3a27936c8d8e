/-
A run that fails before it writes leaves the tree of files as it is. Generating files fails so
wherever settings cannot be loaded, a source file of any project cannot be read, or two source files
ask for the same file. Checking settings never changes the tree. A sample of a settings file is only
written if nothing exists under its path, and then it is what the path leads to. This holds in every
tree, with symbolic links or without. What exists under a path is told as everywhere by what the
path leads to, so a link that leads nowhere is nothing, and the file that it stands for is made.
-/

import Mathlib.Tactic.Common
import SharpTypes.Command
import SharpTypes.Proofs.Command.Containment
import SharpTypes.Proofs.Command.Course
import SharpTypes.Proofs.FileTree.Lasting
import SharpTypes.Proofs.FileTree.Soundness

namespace SharpTypes.Command

open FileTree FilePath

variable {place : Workplace} {time : Timestamp}

/-- The run fails for the given reason, and the tree is as it was. -/
structure Report.Refuses (report : Report) (tree : FileTree) (failure : Failure) : Prop where
  tree : report.tree = tree
  status : report.status = 1
  error : report.error = some failure.message

theorem Report.refuses_ofOutcome {outcome : Outcome} {tree : FileTree} {failure : Failure}
    (failed : outcome.failure = some failure) (same : outcome.tree = tree) :
    (Report.ofOutcome outcome).Refuses tree failure := by
  refine ⟨same, ?_, ?_⟩
  · show (if outcome.failure.isSome then 1 else 0) = 1
    rw [failed]
    rfl
  · show outcome.failure.map Failure.message = _
    rw [failed]
    rfl

/-! ### Generating files -/

/-- Only writing changes the tree: unless that fails, a run that fails leaves it as it is. -/
theorem tree_generate_of_failure {given : Option FilePath} {failure : Failure}
    (failed : (generate place time given).failure = some failure)
    (early : failure.isOfWriting = false) : (generate place time given).tree = place.tree := by
  have course := course_generate place time given
  generalize generate place time given = outcome at course failed ⊢
  cases course with
  | notLoaded => rfl
  | notRead => rfl
  | nothingFound => rfl
  | collided => rfl
  | wrote loaded read apart wrote lines events =>
    subst wrote
    rw [isOfWriting_of_writeUnits failed] at early
    cases early

theorem generate_of_load_error {given : Option FilePath} {failure : Failure}
    (failed : load place given = .error failure) :
    generate place time given = .failed place.tree failure := by
  unfold generate
  rw [failed]

/-- All source files of the project can be read. -/
def Readable (place : Workplace) (project : ProjectSettings) : Prop :=
  ∀ source ∈ sourcesOf place project, ∃ text, place.read source.2 = .ok text

section

variable (time) {given : Option FilePath} {path : FilePath} {project : ProjectSettings}
  (loaded : load place given = .ok (path, project))

include loaded

theorem generate_of_unreadable {source : FilePath × FilePath} {error : FileError}
    (isSource : source ∈ sourcesOf place project)
    (unreadable : place.read source.2 = .error error) :
    ∃ other ∈ sourcesOf place project, ∃ error, place.read other.2 = .error error ∧
      (generate place time given).failure = some (.unreadableSource other.2 error) ∧
      (generate place time given).tree = place.tree := by
  cases failing : (scan place project).failure with
  | none =>
    obtain ⟨text, read⟩ := (scanFiles_failure_eq_none_iff _ _ _).mp failing source isSource
    rw [read] at unreadable
    cases unreadable
  | some failure =>
    obtain ⟨other, isOther, otherError, unreadable, rfl⟩ := exists_of_scanFiles failing
    refine ⟨other, isOther, otherError, unreadable, ?_⟩
    unfold generate
    rw [loaded]
    dsimp only
    rw [failing]
    exact ⟨rfl, rfl⟩

variable (readable : Readable place project)

include readable

theorem generate_of_collision {collision : Collision}
    (found : Collision.find? project.settings (scan place project).files = some collision) :
    (generate place time given).failure = some (.collision collision) ∧
      (generate place time given).tree = place.tree := by
  have read : (scan place project).failure = none :=
    (scanFiles_failure_eq_none_iff _ _ _).mpr readable
  have declared : (scan place project).files ≠ [] := by
    intro noFiles
    rw [noFiles] at found
    revert found
    unfold Collision.find?
    split <;> exact nofun
  rw [generate_of_read loaded read, if_neg (by simpa using declared), produce, found]
  exact ⟨rfl, rfl⟩

theorem generate_of_nothing (nothing : (scan place project).files = []) :
    (generate place time given).failure = none ∧
      (generate place time given).tree = place.tree := by
  have read : (scan place project).failure = none :=
    (scanFiles_failure_eq_none_iff _ _ _).mpr readable
  rw [generate_of_read loaded read, nothing]
  exact ⟨rfl, rfl⟩

end

/-! ### Settings files -/

theorem tree_check (place : Workplace) (given : Option FilePath) :
    (check place given).tree = place.tree := by
  unfold check
  split <;> rfl

/-- What is changed at a location where a sample settings file was written. -/
structure IsSample (place : Workplace) (format : SettingsFormat) (result : FileTree)
    (location : Location) : Prop where
  /-- No entry of that name existed: nothing was found under the path of the settings file. -/
  absent : place.isThere (place.currentPath.child format.fileName) = false
  empty : place.tree.get? location = none
  sample : result.get? location = some (.text format.sample)
  /-- It is the one settings file: its path leads to it. -/
  isLedTo : (place.withTree result).locate (place.currentPath.child format.fileName) = .ok location
  /-- It has the name of the settings file in the current directory, unless that is the name of a
  link. -/
  inCurrent : place.IsSound →
    (∀ target, place.tree.get? (place.current ++ [format.fileName]) ≠ some (.link target)) →
      location = place.current ++ [format.fileName]

/-- Whatever a run that writes a sample changes is the sample, where nothing was. -/
theorem isSample_of_changed {format : SettingsFormat} {location : Location}
    (changed : (init place format).tree.get? location ≠ place.tree.get? location) :
    IsSample place format (init place format).tree location := by
  unfold init at changed ⊢
  dsimp only at changed ⊢
  split at changed
  case isTrue => exact absurd rfl changed
  case isFalse absent =>
    rw [if_neg absent]
    split at changed
    case h_1 => exact absurd rfl changed
    case h_2 tree wrote =>
      obtain ⟨slot, slotted, _, same, holds⟩ := Workplace.write_eq_ok wrote
      have onlyThere : slot = location := by
        by_contra differs
        refine changed ?_
        show tree.get? location = place.tree.get? location
        rw [same, get?_set_of_ne place.tree _ differs]
      subst onlyThere
      have absent := Bool.eq_false_iff.mpr absent
      have located := Workplace.locate_of_write wrote (.refl (fun _ => False) tree) slotted
      refine ⟨absent, ?_, holds, located, fun sound noLink => ?_⟩
      · by_contra there
        -- What lies there would be found under the path.
        rw [← ne_eq, Option.ne_none_iff_isSome] at there
        have located := Workplace.locate_of_slot (.refl (fun _ => False) place.tree) slotted there
        have isThere : place.isThere (place.currentPath.child format.fileName) = true :=
          Workplace.isThere_iff_locate.mpr ⟨_, located, there⟩
        rw [isThere] at absent
        cases absent
      · exact Workplace.slot_currentPath_child sound (isSegment_fileName format) noLink slotted

/-! ### The whole -/

/-- How a run that generates files ends before it writes, and that the tree is then as it was. -/
structure EndsEarly (place : Workplace) (time : Timestamp) (given : Option FilePath)
    (report : Report) : Prop where
  /-- Whatever it fails of, unless that is writing. -/
  failed : ∀ failure, (generate place time given).failure = some failure →
    failure.isOfWriting = false → report.Refuses place.tree failure
  notLoaded : ∀ failure, load place given = .error failure →
    failure.isOfWriting = false ∧ report.Refuses place.tree failure
  /-- It fails of an unreadable source file of any project, and names one. -/
  unreadable : ∀ path project, load place given = .ok (path, project) →
    ∀ source ∈ sourcesOf place project, ∀ error, place.read source.2 = .error error →
      ∃ other ∈ sourcesOf place project, ∃ error, place.read other.2 = .error error ∧
        report.Refuses place.tree (.unreadableSource other.2 error)
  collided : ∀ path project, load place given = .ok (path, project) → Readable place project →
    ∀ collision, Collision.find? project.settings (scan place project).files = some collision →
      report.Refuses place.tree (.collision collision)
  nothingDeclared : ∀ path project, load place given = .ok (path, project) →
    Readable place project → (scan place project).files = [] →
      report.status = 0 ∧ report.tree = place.tree
  /-- Only writing fails of writing. -/
  ofWriting : ∀ path project, load place given = .ok (path, project) →
    ∀ failure, (writeUnits place project.settings.outputPath (OutputUnit.assemble project.settings
      time (scan place project).files)).failure = some failure → failure.isOfWriting = true

theorem endsEarly_generate (place : Workplace) (time : Timestamp) (given : Option FilePath) :
    EndsEarly place time given (.ofOutcome (generate place time given)) where
  failed failure failed early :=
    Report.refuses_ofOutcome failed (tree_generate_of_failure failed early)
  notLoaded failure failed := by
    rw [generate_of_load_error failed]
    exact ⟨isOfWriting_of_load failed, Report.refuses_ofOutcome rfl rfl⟩
  unreadable path project loaded source isSource error unreadable := by
    obtain ⟨other, isOther, otherError, otherUnreadable, failed, same⟩ :=
      generate_of_unreadable time loaded isSource unreadable
    exact ⟨other, isOther, otherError, otherUnreadable, Report.refuses_ofOutcome failed same⟩
  collided path project loaded readable collision found := by
    obtain ⟨failed, same⟩ := generate_of_collision time loaded readable found
    exact Report.refuses_ofOutcome failed same
  nothingDeclared path project loaded readable nothing := by
    obtain ⟨well, same⟩ := generate_of_nothing time loaded readable nothing
    exact ⟨Report.status_ofOutcome_eq_zero_iff.mpr well, same⟩
  ofWriting path project _ failure := isOfWriting_of_writeUnits

/-- The small tree with a source file whose bytes are no text. -/
def unreadableTree : FileTree where
  entries := smallTree.entries.take 2 ++ [(["User.cs".toList], .binary [255])]
  distinct := by decide

end SharpTypes.Command

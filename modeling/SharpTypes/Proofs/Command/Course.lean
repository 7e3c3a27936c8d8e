/-
How a run that generates files goes. It ends early if the settings cannot be loaded, if a source
file cannot be read, if nothing is declared, or if two source files ask for the same file; otherwise
files are written. Each end is described with what comes of it. The failures of the early ends and
those of writing are told apart by their kind.
-/

import Mathlib.Tactic.Common
import SharpTypes.Command
import SharpTypes.Proofs.FilePath

namespace SharpTypes.Command

/-- Whether a command failed in writing files. -/
def Failure.isOfWriting : Failure → Bool
  | .noOutputDirectory _ => true
  | .noDirectory _ => true
  | .unwritable _ => true
  | _ => false

variable {place : Workplace} {given : Option FilePath} {failure : Failure}

/-! ### Reports -/

/-- The program reports on what comes of the task that it is asked for. -/
theorem run_of_parse {time : Timestamp} {arguments : List (List Char)} {task : Task}
    {level : LogLevel} (asked : Arguments.parse arguments = .task task level) :
    run place time arguments = .ofOutcome (perform place time task) := by
  rw [run, asked]

theorem Report.status_ofOutcome_eq_zero_iff {outcome : Outcome} :
    (Report.ofOutcome outcome).status = 0 ↔ outcome.failure = none := by
  rw [Report.ofOutcome]
  cases outcome.failure <;> simp

/-! ### Loading -/

theorem eq_of_bind_eq_error {result : Except ε α} {further : α → Except ε β} {error : ε}
    (failed : result.bind further = .error error) :
    result = .error error ∨ ∃ inner, result = .ok inner ∧ further inner = .error error := by
  cases result with
  | error other =>
    cases failed
    exact .inl rfl
  | ok inner => exact .inr ⟨inner, rfl, failed⟩

theorem isSegment_fileName (format : SettingsFormat) :
    FilePath.IsSegment format.fileName := by
  cases format <;> exact ⟨by decide, by decide⟩

theorem isOfWriting_of_locate {directory : FilePath}
    (failed : locate place directory given = .error failure) : failure.isOfWriting = false := by
  unfold locate at failed
  split at failed
  · cases failed
  · dsimp only at failed
    split at failed <;> cases failed
    rfl

theorem isOfWriting_of_readSettings {path : FilePath}
    (failed : readSettings place path = .error failure) : failure.isOfWriting = false := by
  unfold readSettings at failed
  split at failed
  · cases failed
    rfl
  · split at failed
    · cases failed
      rfl
    · split at failed <;> cases failed

theorem exists_of_forM_eq_error {paths : List FilePath} {check : FilePath → Except Failure Unit}
    (failed : paths.forM check = .error failure) : ∃ path ∈ paths, check path = .error failure := by
  induction paths with
  | nil => cases failed
  | cons path rest inductionHypothesis =>
    rcases eq_of_bind_eq_error failed with atFirst | ⟨_, _, later⟩
    · exact ⟨path, List.mem_cons_self, atFirst⟩
    · obtain ⟨other, member, found⟩ := inductionHypothesis later
      exact ⟨other, List.mem_cons_of_mem path member, found⟩

theorem isOfWriting_of_validate {project : ProjectSettings}
    (failed : validate place project = .error failure) : failure.isOfWriting = false := by
  unfold validate at failed
  split at failed
  · cases failed
    rfl
  · split_ifs at failed
    · cases failed
      rfl
    · obtain ⟨path, _, checked⟩ := exists_of_forM_eq_error failed
      unfold checkProject at checked
      split_ifs at checked <;> cases checked <;> rfl

/-- Settings that cannot be loaded are no failure of writing. -/
theorem isOfWriting_of_load (failed : load place given = .error failure) :
    failure.isOfWriting = false := by
  rcases eq_of_bind_eq_error failed with unlocated | ⟨path, _, failed⟩
  · exact isOfWriting_of_locate unlocated
  rcases eq_of_bind_eq_error failed with unread | ⟨project, _, failed⟩
  · exact isOfWriting_of_readSettings unread
  rcases eq_of_bind_eq_error failed with invalid | ⟨_, _, loaded⟩
  · exact isOfWriting_of_validate invalid
  · cases loaded

/-! ### Reading -/

/-- Reading fails if one of the source files cannot be read, wherever it stands. -/
theorem scanFiles_failure_eq_none_iff (place : Workplace) (marker : List Char)
    (sources : List (FilePath × FilePath)) :
    (scanFiles place marker sources).failure = none ↔
      ∀ source ∈ sources, ∃ text, place.read source.2 = .ok text := by
  induction sources with
  | nil => simp [scanFiles]
  | cons source rest inductionHypothesis =>
    unfold scanFiles
    rw [List.forall_mem_cons]
    split
    case h_1 fault unread =>
      rw [unread]
      simp
    case h_2 text read =>
      rw [read]
      simpa using inductionHypothesis

/-- What it fails with names a source file and why it cannot be read. -/
theorem exists_of_scanFiles {marker : List Char} {sources : List (FilePath × FilePath)}
    (failed : (scanFiles place marker sources).failure = some failure) :
    ∃ source ∈ sources, ∃ error,
      place.read source.2 = .error error ∧ failure = .unreadableSource source.2 error := by
  induction sources with
  | nil => cases failed
  | cons source rest inductionHypothesis =>
    unfold scanFiles at failed
    split at failed
    case h_1 error unread =>
      exact ⟨source, List.mem_cons_self, error, unread, (Option.some.inj failed).symm⟩
    case h_2 =>
      obtain ⟨other, member, found⟩ := inductionHypothesis failed
      exact ⟨other, List.mem_cons_of_mem source member, found⟩

/-! ### Writing -/

theorem isOfWriting_of_makeParent {path : FilePath}
    (failed : (makeParent place path).2 = some failure) : failure.isOfWriting = true := by
  unfold makeParent at failed
  split at failed
  · cases failed
  · obtain ⟨_, _, rfl⟩ := Option.map_eq_some_iff.mp failed
    rfl

theorem isOfWriting_of_writeEach {units : List OutputUnit}
    (failed : (writeEach place units).failure = some failure) : failure.isOfWriting = true := by
  induction units generalizing place with
  | nil => cases failed
  | cons unit rest inductionHypothesis =>
    unfold writeEach at failed
    split at failed
    case h_1 tree other parent =>
      obtain rfl : other = failure := Option.some.inj failed
      exact isOfWriting_of_makeParent (by rw [parent])
    case h_2 =>
      split at failed
      case h_1 =>
        cases failed
        rfl
      case h_2 => exact inductionHypothesis failed

/-- Files that cannot be written are a failure of writing. -/
theorem isOfWriting_of_writeUnits {root : FilePath} {units : List OutputUnit}
    (failed : (writeUnits place root units).failure = some failure) :
    failure.isOfWriting = true := by
  unfold writeUnits at failed
  dsimp only at failed
  split at failed
  · cases failed
    rfl
  · exact isOfWriting_of_writeEach failed

/-! ### The whole -/

/-- A run that reads all source files goes on with what it finds in them. -/
theorem generate_of_read {time : Timestamp} {path : FilePath} {project : ProjectSettings}
    (loaded : load place given = .ok (path, project))
    (read : (scan place project).failure = none) :
    generate place time given =
      if (scan place project).files.isEmpty then
        ⟨place.tree,
          openingLines path project.settings ++ (scan place project).files.flatMap foundLines ++
            ["No [".toList ++ project.settings.marker ++
              "] declarations found, nothing to generate".toList],
          (scan place project).events, none⟩
      else
        produce place time project.settings
          (openingLines path project.settings ++ (scan place project).files.flatMap foundLines)
          (scan place project) := by
  unfold generate
  rw [loaded]
  dsimp only
  rw [read]

/-- A run that succeeds has read every source file. -/
theorem failure_scan_of_generate {time : Timestamp} {path : FilePath} {project : ProjectSettings}
    (loaded : load place given = .ok (path, project))
    (succeeded : (generate place time given).failure = none) :
    (scan place project).failure = none := by
  cases read : (scan place project).failure with
  | none => rfl
  | some failure =>
    rw [generate, loaded] at succeeded
    dsimp only at succeeded
    rw [read] at succeeded
    cases succeeded

/-- The ends of a run that generates files, each with what comes of it. -/
inductive Course (place : Workplace) (time : Timestamp) (given : Option FilePath) :
    Outcome → Prop where
  | notLoaded {failure : Failure} (failed : load place given = .error failure) :
      Course place time given (.failed place.tree failure)
  | notRead {path : FilePath} {project : ProjectSettings} {failure : Failure}
      (loaded : load place given = .ok (path, project))
      (failed : (scan place project).failure = some failure) (lines : List (List Char)) :
      Course place time given ⟨place.tree, lines, (scan place project).events, some failure⟩
  | nothingFound {path : FilePath} {project : ProjectSettings}
      (loaded : load place given = .ok (path, project))
      (read : (scan place project).failure = none) (nothing : (scan place project).files = [])
      (lines : List (List Char)) :
      Course place time given ⟨place.tree, lines, (scan place project).events, none⟩
  | collided {path : FilePath} {project : ProjectSettings} {collision : Collision}
      (loaded : load place given = .ok (path, project))
      (read : (scan place project).failure = none)
      (found : Collision.find? project.settings (scan place project).files = some collision)
      (lines : List (List Char)) :
      Course place time given
        ⟨place.tree, lines, (scan place project).events, some (.collision collision)⟩
  | wrote {path : FilePath} {project : ProjectSettings}
      (loaded : load place given = .ok (path, project))
      (read : (scan place project).failure = none)
      (apart : Collision.find? project.settings (scan place project).files = none)
      {written : Written}
      (wrote : writeUnits place project.settings.outputPath
        (OutputUnit.assemble project.settings time (scan place project).files) = written)
      (lines : List (List Char)) (events : List Event) :
      Course place time given ⟨written.tree, lines, events, written.failure⟩

/-- A run goes one of these ways. -/
theorem course_generate (place : Workplace) (time : Timestamp) (given : Option FilePath) :
    Course place time given (generate place time given) := by
  unfold generate
  split
  case h_1 failure failed => exact .notLoaded failed
  case h_2 path project loaded =>
    dsimp only
    split
    case h_1 failure failed => exact .notRead loaded failed _
    case h_2 read =>
      split
      case isTrue nothing => exact .nothingFound loaded read (List.isEmpty_iff.mp nothing) _
      case isFalse =>
        unfold produce
        split
        case h_1 collision found => exact .collided loaded read found _
        case h_2 apart => exact .wrote loaded read apart rfl _ _

end SharpTypes.Command

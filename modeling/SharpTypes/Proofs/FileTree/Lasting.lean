/-
What lasts while a tree of files changes. A path that leads somewhere leads there afterwards, and to
the same file unless a text was written there. A directory that was made once need not be made
again, and a text that was written once can be written again: the second time nothing else happens.
-/

import Mathlib.Tactic.Common
import SharpTypes.Proofs.FileTree.Following

namespace SharpTypes

open Text FilePath Settings

namespace FileTree

variable {written : Location → Prop} {old new : FileTree} {location : Location} {node : FileNode}

/-- Where a file is, there is one afterwards. -/
theorem Becomes.isFile_of_get? (becomes : Becomes written old new)
    (there : old.get? location = some node) (file : node.isFile = true) :
    ∀ other ∈ new.get? location, other.isFile = true := by
  intro other isThere
  cases becomes location with
  | kept same =>
    rw [same, there] at isThere
    rwa [← Option.some.inj isThere]
  | made empty _ =>
    rw [there] at empty
    cases empty
  | filled _ _ contents holds =>
    rw [holds] at isThere
    rw [← Option.some.inj isThere]
    rfl

end FileTree

namespace Workplace

open FileTree

variable {written : Location → Prop} {place : Workplace} {path : FilePath} {later : FileTree}

/-! ### Finding again -/

theorem Reaches.of_becomes (becomes : Becomes written place.tree later) {location : Location}
    (reaches : place.Reaches path location) : (place.withTree later).Reaches path location :=
  follow_of_becomes becomes reaches

theorem locate_of_becomes (becomes : Becomes written place.tree later) {location : Location}
    (located : place.locate path = .ok location) :
    (place.withTree later).locate path = .ok location := by
  obtain ⟨isPath, reaches⟩ := locate_eq_ok_iff.mp located
  exact locate_eq_ok_iff.mpr ⟨isPath, reaches.of_becomes becomes⟩

theorem find_of_becomes (becomes : Becomes written place.tree later) {node : FileNode}
    (found : place.find path = .ok node)
    (notWritten : ∀ location, place.locate path = .ok location → ¬ written location) :
    (place.withTree later).find path = .ok node := by
  obtain ⟨location, located, there⟩ := find_eq_ok found
  exact find_of_locate (locate_of_becomes becomes located)
    (becomes.get?_eq_of_not_written (notWritten location located) there)

theorem find_directory_of_becomes (becomes : Becomes written place.tree later)
    (found : place.find path = .ok .directory) :
    (place.withTree later).find path = .ok .directory := by
  obtain ⟨location, located, there⟩ := find_eq_ok found
  exact find_of_locate (locate_of_becomes becomes located)
    (hasDirectory_iff.mp (becomes.hasDirectory (hasDirectory_iff.mpr there)))

theorem hasDirectory_of_becomes (becomes : Becomes written place.tree later)
    (directory : place.hasDirectory path = true) :
    (place.withTree later).hasDirectory path = true :=
  hasDirectory_iff_find.mpr (find_directory_of_becomes becomes (hasDirectory_iff_find.mp directory))

theorem isThere_of_becomes (becomes : Becomes written place.tree later)
    (there : place.isThere path = true) : (place.withTree later).isThere path = true := by
  obtain ⟨location, located, holds⟩ := isThere_iff_locate.mp there
  exact isThere_iff_locate.mpr
    ⟨location, locate_of_becomes becomes located, becomes.isSome_get? holds⟩

theorem hasFile_of_becomes (becomes : Becomes written place.tree later)
    (file : place.hasFile path = true)
    (notWritten : ∀ location, place.locate path = .ok location → ¬ written location) :
    (place.withTree later).hasFile path = true := by
  obtain ⟨node, found, isFile⟩ := hasFile_iff_find.mp file
  exact hasFile_iff_find.mpr ⟨node, find_of_becomes becomes found notWritten, isFile⟩

theorem read_of_becomes (becomes : Becomes written place.tree later)
    (file : place.hasFile path = true)
    (notWritten : ∀ location, place.locate path = .ok location → ¬ written location) :
    (place.withTree later).read path = place.read path := by
  obtain ⟨node, found, _⟩ := hasFile_iff_find.mp file
  unfold read
  rw [found, find_of_becomes becomes found notWritten]

/-- The last name of a path is looked up where it was, as the names before it lead there still. -/
theorem lastStep_of_becomes (becomes : Becomes written place.tree later)
    {step : Location × Option (List Char)} (stepped : place.lastStep path = .ok step) :
    (place.withTree later).lastStep path = .ok step := by
  obtain ⟨⟨⟩, isPath, stepped⟩ := eq_of_bind_eq_ok stepped
  unfold lastStep
  rw [isPath]
  split at stepped
  case h_1 => exact stepped
  case h_2 last before reversed =>
    obtain ⟨location, followed, stepped⟩ := eq_of_bind_eq_ok stepped
    have again : follow (place.withTree later).tree ((place.withTree later).origin path)
        before.reverse = .ok location := follow_of_becomes becomes followed
    have directory : place.tree.hasDirectory location = true := by
      by_contra missing
      rw [Bool.not_eq_true] at missing
      rw [missing] at stepped
      cases stepped
    have directoryToo : (place.withTree later).tree.hasDirectory location = true :=
      becomes.hasDirectory directory
    rw [directory] at stepped
    simp only [again, bind, Except.bind]
    rw [directoryToo]
    exact stepped

/-! ### Making directories again -/

theorem enter_ne_alreadyExists {tree : FileTree} {location : Location} {piece : List Char}
    {fault : FileError} (failed : enter tree location piece = .error fault) :
    fault ≠ .alreadyExists := by
  unfold enter at failed
  split_ifs at failed <;> cases failed <;> nofun

theorem checkPath_ne_alreadyExists {fault : FileError} (refused : checkPath path = .error fault) :
    fault ≠ .alreadyExists := by
  unfold checkPath at refused
  split_ifs at refused <;> cases refused <;> nofun

theorem followWithin_ne_alreadyExists {tree : FileTree} {links : Nat} {location : Location}
    {pieces : List (List Char)} {fault : FileError}
    (failed : followWithin tree (enter tree) links location pieces = .error fault) :
    fault ≠ .alreadyExists := by
  induction links generalizing location pieces with
  | zero =>
    cases failed
    nofun
  | succ links onward =>
    rw [followWithin] at failed
    induction pieces generalizing location with
    | nil => cases failed
    | cons piece rest inductionHypothesis =>
      rw [followUntil, ite_self] at failed
      split at failed
      case h_1 other entered =>
        obtain rfl : other = fault := Except.error.inj failed
        exact enter_ne_alreadyExists entered
      case h_2 next _ =>
        split at failed
        case h_1 target _ =>
          cases isPath : checkPath target with
          | error other =>
            rw [isPath] at failed
            obtain rfl : other = fault := Except.error.inj failed
            exact checkPath_ne_alreadyExists isPath
          | ok _ =>
            rw [isPath] at failed
            exact onward failed
        case h_2 => exact inductionHypothesis failed

theorem lastStep_ne_alreadyExists {fault : FileError}
    (failed : place.lastStep path = .error fault) : fault ≠ .alreadyExists := by
  unfold lastStep at failed
  cases isPath : checkPath path with
  | error other =>
    rw [isPath] at failed
    obtain rfl : other = fault := Except.error.inj failed
    exact checkPath_ne_alreadyExists isPath
  | ok _ =>
    rw [isPath] at failed
    dsimp only [bind, Except.bind] at failed
    split at failed
    case h_1 => cases failed
    case h_2 last before _ =>
      cases followed : follow place.tree (place.origin path) before.reverse with
      | error other =>
        rw [followed] at failed
        obtain rfl : other = fault := Except.error.inj failed
        exact followWithin_ne_alreadyExists followed
      | ok location =>
        rw [followed] at failed
        dsimp only at failed
        split_ifs at failed <;> cases failed <;> nofun

/-- The path leads to a directory, and what its last name stands for is there. -/
structure Stands (place : Workplace) (path : FilePath) : Prop where
  exists_lastStep : ∃ location last, place.lastStep path = .ok (location, last) ∧
    ∀ name ∈ last, (place.tree.get? (location ++ [name])).isSome = true
  directory : place.hasDirectory path = true

/-- A directory that stands cannot be made. -/
theorem Stands.makeDirectory_eq (stands : place.Stands path) :
    place.makeDirectory path = .error .alreadyExists := by
  obtain ⟨location, last, stepped, there⟩ := stands.exists_lastStep
  unfold makeDirectory
  rw [stepped]
  cases last with
  | none => rfl
  | some name =>
    dsimp only [bind, Except.bind]
    rw [if_pos (there name rfl)]

theorem Stands.of_becomes (stands : place.Stands path)
    (becomes : Becomes written place.tree later) : (place.withTree later).Stands path := by
  obtain ⟨location, last, stepped, there⟩ := stands.exists_lastStep
  exact ⟨⟨location, last, lastStep_of_becomes becomes stepped,
    fun name isLast => becomes.isSome_get? (there name isLast)⟩,
    hasDirectory_of_becomes becomes stands.directory⟩

theorem stands_of_alreadyExists (isMade : place.makeDirectory path = .error .alreadyExists)
    (directory : place.hasDirectory path = true) : place.Stands path := by
  unfold makeDirectory at isMade
  cases stepped : place.lastStep path with
  | error fault =>
    rw [stepped] at isMade
    exact absurd (Except.error.inj isMade) (lastStep_ne_alreadyExists stepped)
  | ok step =>
    obtain ⟨location, last⟩ := step
    refine ⟨⟨location, last, stepped, fun name isLast => ?_⟩, directory⟩
    obtain rfl := Option.mem_def.mp isLast
    rw [stepped] at isMade
    dsimp only [bind, Except.bind] at isMade
    by_contra missing
    rw [if_neg missing] at isMade
    cases isMade

/-- A directory that was made stands. -/
theorem stands_of_makeDirectory (plain : place.tree.IsPlain)
    (made : place.makeDirectory path = .ok later) : (place.withTree later).Stands path := by
  obtain ⟨location, name, step, stepped, empty, rfl⟩ := makeDirectory_eq_ok made
  have there : (place.tree.set (location ++ [name]) .directory).get? (location ++ [name]) =
      some .directory := get?_set_same _ _ (by simp)
  have becomes : Becomes (fun _ => False) place.tree _ := becomes_of_makeDirectory made
  refine ⟨⟨location, some name, lastStep_of_becomes becomes stepped, fun other same => ?_⟩, ?_⟩
  · obtain rfl : name = other := Option.some.inj same
    show ((place.tree.set (location ++ [name]) .directory).get? (location ++ [name])).isSome = true
    rw [there]
    rfl
  · have located := step.locate_directory plain becomes there
    exact hasDirectory_iff_find.mpr (find_of_locate located there)

theorem stands_of_makeAll {tree : FileTree} (plain : tree.IsPlain) (paths : List FilePath)
    (complete : ((place.withTree tree).makeAll paths).failure = none) :
    ∀ path ∈ paths, (place.withTree ((place.withTree tree).makeAll paths).tree).Stands path := by
  induction paths generalizing tree with
  | nil => exact nofun
  | cons path further inductionHypothesis =>
    have lasts (tree : FileTree) (stands : (place.withTree tree).Stands path) :
        (place.withTree ((place.withTree tree).makeAll further).tree).Stands path :=
      stands.of_becomes (becomes_of_makeAll (fun _ => False) (place.withTree tree) further)
    unfold makeAll at complete ⊢
    split at complete
    case h_1 made isMade =>
      have stands : ((place.withTree tree).withTree made).Stands path :=
        stands_of_makeDirectory plain isMade
      have becomes : Becomes (fun _ => False) tree made := becomes_of_makeDirectory isMade
      exact List.forall_mem_cons.mpr
        ⟨lasts made stands, inductionHypothesis (becomes.isPlain plain) complete⟩
    case h_2 fault failed =>
      split at complete
      case isTrue standing =>
        have stands : (place.withTree tree).Stands path :=
          stands_of_alreadyExists (standing.1 ▸ failed) standing.2
        rw [if_pos standing]
        exact List.forall_mem_cons.mpr ⟨lasts tree stands, inductionHypothesis plain complete⟩
      case isFalse => cases complete

theorem subset_makeFirst (missing paths : List FilePath) :
    missing ⊆ (place.makeFirst missing paths).2 := by
  induction paths generalizing missing with
  | nil => exact List.Subset.refl _
  | cons path further inductionHypothesis =>
    unfold makeFirst
    split
    case h_1 => exact List.Subset.refl _
    case h_2 => exact List.subset_of_cons_subset (inductionHypothesis (path :: missing))
    case h_3 => split <;> exact List.Subset.refl _

/-- The first directory stands, or is among those that still have to be made. -/
theorem stands_of_makeFirst (plain : place.tree.IsPlain) (missing further : List FilePath)
    (complete : (place.makeFirst missing (path :: further)).1.failure = none) :
    path ∈ (place.makeFirst missing (path :: further)).2 ∨
      (place.withTree (place.makeFirst missing (path :: further)).1.tree).Stands path := by
  unfold makeFirst at complete ⊢
  split at complete
  case h_1 made isMade => exact .inr (stands_of_makeDirectory plain isMade)
  case h_2 => exact .inl (subset_makeFirst (path :: missing) further List.mem_cons_self)
  case h_3 fault _ failed =>
    split at complete
    case isTrue standing =>
      have stands : place.Stands path := stands_of_alreadyExists (standing.1 ▸ failed) standing.2
      rw [if_pos standing]
      exact .inr stands
    case isFalse => cases complete

theorem ancestors_eq (path : FilePath) :
    ancestors path = [] ∨ ∃ further, ancestors path = path :: further := by
  unfold ancestors upward
  split
  · split
    · exact .inl rfl
    · exact .inr ⟨_, rfl⟩
  · exact .inl rfl

/-- Directories that were made once are not made again, whatever happened in between. -/
theorem makeDirectories_again (plain : place.tree.IsPlain)
    (complete : (place.makeDirectories path).failure = none)
    (becomes : Becomes written (place.makeDirectories path).tree later) :
    (place.withTree later).makeDirectories path = ⟨later, none⟩ := by
  rcases ancestors_eq path with noAncestors | ⟨further, ancestorsSame⟩
  · unfold makeDirectories
    rw [noAncestors]
    rfl
  · have stands : (place.withTree (place.makeDirectories path).tree).Stands path := by
      unfold makeDirectories at complete ⊢
      rw [ancestorsSame] at complete ⊢
      dsimp only at complete ⊢
      split at complete
      case h_1 => cases complete
      case h_2 made =>
        have becomes := becomes_of_makeFirst (fun _ => False) place [] (path :: further)
        rcases stands_of_makeFirst plain [] further made with missing | stands
        · exact stands_of_makeAll (becomes.isPlain plain) _ complete path missing
        · exact stands.of_becomes (becomes_of_makeAll (fun _ => False) (place.withTree _) _)
    have standsStill : (place.withTree later).Stands path := stands.of_becomes becomes
    unfold makeDirectories
    rw [ancestorsSame]
    unfold makeFirst
    rw [standsStill.makeDirectory_eq]
    dsimp only
    rw [if_pos ⟨rfl, standsStill.directory⟩]
    rfl

/-! ### Writing again -/

/-- A text that was written can be written again, and only that changes. -/
theorem write_again {contents : List Char} {tree : FileTree}
    (wrote : place.write path contents = .ok tree) (becomes : Becomes written tree later)
    (other : List Char) :
    ∃ location, place.slot path = .ok location ∧
      (place.withTree later).write path other = .ok (later.set location (.text other)) := by
  have altogether : Becomes (fun _ => True) place.tree later :=
    (becomes_of_write wrote).somehow.trans becomes.somehow
  obtain ⟨location, slotted, _, _, text⟩ := write_eq_ok wrote
  have slottedAgain := slot_of_becomes altogether slotted
  have file : (later.get? location).all FileNode.isFile = true :=
    (Option.all_eq_true _ _).mpr (becomes.isFile_of_get? text rfl)
  refine ⟨location, slotted, ?_⟩
  unfold write
  rw [slottedAgain]
  exact if_pos file

end Workplace

end SharpTypes

/-
How a tree of files changes. Directories are made only where nothing is, and texts are written only
where nothing is or a file. So nothing is taken away, a directory stays one, a symbolic link stays
as it is, and whatever is written later elsewhere leaves a file as it is. A way through the tree
that was open stays open and leads to the same place.
-/

import Mathlib.Tactic.Common
import SharpTypes.FileTree.Access
import SharpTypes.Settings.Reading

namespace SharpTypes

namespace FileTree

/-- What becomes of a location while texts are written at some locations. -/
inductive Fate (written : Location → Prop) (old new : FileTree) (location : Location) : Prop where
  /-- Nothing. -/
  | kept (same : new.get? location = old.get? location)
  /-- It was empty and is a directory now. -/
  | made (empty : old.get? location = none) (directory : new.get? location = some .directory)
  /-- It holds a text now, and was empty or held a file before. -/
  | filled (isWritten : written location)
      (free : ∀ node ∈ old.get? location, node.isFile = true)
      (contents : List Char) (holds : new.get? location = some (.text contents))

/-- One tree comes from another by making directories and by writing texts at some locations. -/
def Becomes (written : Location → Prop) (old new : FileTree) : Prop :=
  ∀ location, Fate written old new location

variable {written : Location → Prop} {old middle new : FileTree}

theorem Becomes.refl (written : Location → Prop) (tree : FileTree) : Becomes written tree tree :=
  fun _ => .kept rfl

theorem Becomes.mono {other : Location → Prop} (becomes : Becomes written old new)
    (allowed : ∀ location, written location → other location) : Becomes other old new := by
  intro location
  cases becomes location with
  | kept same => exact .kept same
  | made empty directory => exact .made empty directory
  | filled isWritten free contents holds =>
    exact .filled (allowed location isWritten) free contents holds

theorem Becomes.somehow (becomes : Becomes written old new) : Becomes (fun _ => True) old new :=
  becomes.mono fun _ _ => trivial

theorem Becomes.trans (first : Becomes written old middle) (second : Becomes written middle new) :
    Becomes written old new := by
  intro location
  cases second location with
  | kept same =>
    cases first location with
    | kept sameBefore => exact .kept (same.trans sameBefore)
    | made empty directory => exact .made empty (same.trans directory)
    | filled isWritten free contents holds =>
      exact .filled isWritten free contents (same.trans holds)
  | made empty directory =>
    cases first location with
    | kept sameBefore => exact .made (sameBefore ▸ empty) directory
    | made _ there =>
      rw [empty] at there
      cases there
    | filled _ _ _ holds =>
      rw [empty] at holds
      cases holds
  | filled isWritten free contents holds =>
    cases first location with
    | kept sameBefore => exact .filled isWritten (sameBefore ▸ free) contents holds
    | made _ directory => exact absurd (free _ directory) Bool.false_ne_true
    | filled _ freeBefore _ _ => exact .filled isWritten freeBefore contents holds

/-- Making a directory where nothing is. -/
theorem becomes_set_directory {location : Location} (empty : old.get? location = none) :
    Becomes written old (old.set location .directory) := by
  intro other
  by_cases same : location = other
  · subst same
    have below : location ≠ [] := by
      rintro rfl
      cases empty
    exact .made empty (get?_set_same old _ below)
  · exact .kept (get?_set_of_ne old _ same)

/-- Writing a text where nothing is or a file. -/
theorem becomes_set_text (written : Location → Prop) {location : Location}
    (isWritten : written location) (free : ∀ node ∈ old.get? location, node.isFile = true)
    (contents : List Char) :
    Becomes written old (old.set location (.text contents)) := by
  intro other
  by_cases same : location = other
  · subst same
    have below : location ≠ [] := by
      rintro rfl
      exact absurd (free _ rfl) Bool.false_ne_true
    exact .filled isWritten free contents (get?_set_same old _ below)
  · exact .kept (get?_set_of_ne old _ same)

/-- What lies at a location stays there if no text is written at it. -/
theorem Becomes.get?_eq_of_not_written (becomes : Becomes written old new) {location : Location}
    (notWritten : ¬ written location) {node : FileNode} (there : old.get? location = some node) :
    new.get? location = some node := by
  cases becomes location with
  | kept same => exact same.trans there
  | made empty _ =>
    rw [there] at empty
    cases empty
  | filled isWritten _ _ _ => exact absurd isWritten notWritten

/-- What is no file stays as it is. -/
theorem Becomes.get?_eq_of_not_file (becomes : Becomes written old new) {location : Location}
    {node : FileNode} (there : old.get? location = some node) (notFile : node.isFile = false) :
    new.get? location = some node := by
  cases becomes location with
  | kept same => exact same.trans there
  | made empty _ =>
    rw [there] at empty
    cases empty
  | filled _ free _ _ =>
    rw [free node there] at notFile
    cases notFile

/-- There is a symbolic link where one was, and nowhere else. -/
theorem Becomes.get?_eq_link_iff (becomes : Becomes written old new) {location : Location}
    {target : FilePath} :
    new.get? location = some (.link target) ↔ old.get? location = some (.link target) := by
  refine ⟨fun there => ?_, fun there => becomes.get?_eq_of_not_file there rfl⟩
  cases becomes location with
  | kept same => rwa [same] at there
  | made _ directory =>
    rw [directory] at there
    cases there
  | filled _ _ _ holds =>
    rw [holds] at there
    cases there

/-- Whether a file lies at the location. -/
def HoldsFile (tree : FileTree) (location : Location) : Prop :=
  ∃ node, tree.get? location = some node ∧ node.isFile = true

theorem HoldsFile.isSome_get? {tree : FileTree} {location : Location}
    (holds : tree.HoldsFile location) : (tree.get? location).isSome = true := by
  obtain ⟨node, there, _⟩ := holds
  rw [there]
  rfl

/-- Where no text is written, a file lies there exactly if one did before. -/
theorem Becomes.holdsFile_iff (becomes : Becomes written old new) {location : Location}
    (notWritten : ¬ written location) : new.HoldsFile location ↔ old.HoldsFile location := by
  constructor
  · rintro ⟨node, there, file⟩
    cases becomes location with
    | kept same => exact ⟨node, same ▸ there, file⟩
    | made _ directory =>
      rw [directory] at there
      obtain rfl := Option.some.inj there
      cases file
    | filled isWritten _ _ _ => exact absurd isWritten notWritten
  · rintro ⟨node, there, file⟩
    exact ⟨node, becomes.get?_eq_of_not_written notWritten there, file⟩

theorem Becomes.hasDirectory (becomes : Becomes written old new) {location : Location}
    (directory : old.hasDirectory location = true) : new.hasDirectory location = true := by
  rw [hasDirectory_iff] at directory ⊢
  exact becomes.get?_eq_of_not_file directory rfl

theorem Becomes.isSome_get? (becomes : Becomes written old new) {location : Location}
    (there : (old.get? location).isSome = true) : (new.get? location).isSome = true := by
  cases becomes location with
  | kept same => rwa [same]
  | made _ directory =>
    rw [directory]
    rfl
  | filled _ _ _ holds =>
    rw [holds]
    rfl

/-! ### Trees without links -/

/-- There is no symbolic link in the tree. -/
def IsPlain (tree : FileTree) : Prop :=
  ∀ location target, tree.get? location ≠ some (.link target)

theorem Becomes.isPlain (becomes : Becomes written old new) (plain : old.IsPlain) : new.IsPlain :=
  fun location target there => plain location target (becomes.get?_eq_link_iff.mp there)

end FileTree

/-! ### Ways through a tree -/

namespace Workplace

open FileTree

variable {written : Location → Prop} {old new : FileTree}

@[simp] theorem withTree_withTree (place : Workplace) (tree later : FileTree) :
    (place.withTree tree).withTree later = place.withTree later := rfl

theorem enter_of_becomes (becomes : Becomes written old new) {location next : Location}
    {piece : List Char} (entered : enter old location piece = .ok next) :
    enter new location piece = .ok next := by
  unfold enter at entered ⊢
  by_cases directory : old.hasDirectory location = true
  · rw [directory] at entered
    rw [becomes.hasDirectory directory]
    by_cases there : (old.get? (location ++ [piece])).isSome = true
    · rw [becomes.isSome_get? there]
      rwa [there] at entered
    · -- What is not there is only passed over by a dot or left by two of them.
      rw [if_neg there] at entered
      split_ifs at entered ⊢ <;> exact entered
  · rw [Bool.not_eq_true] at directory
    rw [directory] at entered
    cases entered

theorem enterNew_of_becomes (becomes : Becomes written old new) {location next : Location}
    {piece : List Char} (entered : enterNew old location piece = .ok next) :
    enterNew new location piece = .ok next := by
  unfold enterNew at entered ⊢
  by_cases directory : old.hasDirectory location = true
  · rw [directory] at entered
    rwa [becomes.hasDirectory directory]
  · rw [Bool.not_eq_true] at directory
    rw [directory] at entered
    cases entered

/-- Where something is, a piece of a path leads to what it names. -/
theorem enter_of_enterNew {tree : FileTree} {location next : Location} {piece : List Char}
    (entered : enterNew tree location piece = .ok next)
    (there : (tree.get? next).isSome = true) : enter tree location piece = .ok next := by
  unfold enterNew at entered
  unfold enter
  split_ifs at entered with missing dots long
  obtain rfl := Except.ok.inj entered
  rw [not_or] at dots
  rw [if_neg missing, if_neg dots.1, if_neg dots.2, if_neg long, if_pos there]

/-- One piece of a way: it leads to a symbolic link and on from there, or to something else. -/
theorem followUntil_cons_eq_ok_iff {tree : FileTree}
    {last : Location → List Char → Except FileError Location}
    {onward : Location → List (List Char) → Except FileError Location}
    {location arrived : Location} {piece : List Char} {rest : List (List Char)} :
    followUntil tree last onward location (piece :: rest) = .ok arrived ↔
      ∃ next, (if rest.isEmpty then last location piece else enter tree location piece) = .ok next ∧
        ((∃ target, tree.get? next = some (.link target) ∧ checkPath target = .ok () ∧
            onward (startFrom location target) (target.parts.pieces ++ rest) = .ok arrived) ∨
          (∀ target, tree.get? next ≠ some (.link target)) ∧
            followUntil tree last onward next rest = .ok arrived) := by
  rw [followUntil]
  generalize (if rest.isEmpty then last location piece else enter tree location piece) = entered
  cases entered with
  | error fault => simp
  | ok next =>
    cases there : tree.get? next with
    | none => simp [there]
    | some node =>
      cases node with
      | link target => cases isPath : checkPath target <;> simp [bind, Except.bind, there, isPath]
      | directory => simp [there]
      | text => simp [there]
      | binary => simp [there]

section

variable {last lastLater : Location → List Char → Except FileError Location} {arrived : Location}
  (becomes : Becomes written old new)
  (lastAgain : ∀ location piece next, last location piece = .ok next →
    next = arrived ∨ (old.get? next).isSome = true → lastLater location piece = .ok next)

include becomes lastAgain

theorem followUntil_of_becomes
    {onward onwardLater : Location → List (List Char) → Except FileError Location}
    (onwardAgain : ∀ location pieces, onward location pieces = .ok arrived →
      onwardLater location pieces = .ok arrived)
    {location : Location} {pieces : List (List Char)}
    (followed : followUntil old last onward location pieces = .ok arrived) :
    followUntil new lastLater onwardLater location pieces = .ok arrived := by
  induction pieces generalizing location with
  | nil => exact followed
  | cons piece rest inductionHypothesis =>
    obtain ⟨next, entered, onOrOver⟩ := followUntil_cons_eq_ok_iff.mp followed
    have enteredAgain : (if rest.isEmpty then lastLater location piece
        else enter new location piece) = .ok next := by
      split_ifs at entered ⊢ with atEnd
      · refine lastAgain location piece next entered ?_
        rcases onOrOver with ⟨target, isLink, _⟩ | ⟨_, followed⟩
        · exact .inr (by rw [isLink]; rfl)
        · rw [List.isEmpty_iff.mp atEnd] at followed
          exact .inl (Except.ok.inj followed)
      · exact enter_of_becomes becomes entered
    refine followUntil_cons_eq_ok_iff.mpr ⟨next, enteredAgain, ?_⟩
    rcases onOrOver with ⟨target, isLink, isPath, onOver⟩ | ⟨noLink, followed⟩
    · exact .inl ⟨target, becomes.get?_eq_link_iff.mpr isLink, isPath, onwardAgain _ _ onOver⟩
    · exact .inr ⟨fun target isLink => noLink target (becomes.get?_eq_link_iff.mp isLink),
        inductionHypothesis followed⟩

theorem followWithin_of_becomes {links : Nat} {location : Location} {pieces : List (List Char)}
    (followed : followWithin old last links location pieces = .ok arrived) :
    followWithin new lastLater links location pieces = .ok arrived := by
  induction links generalizing location pieces with
  | zero => cases followed
  | succ links inductionHypothesis =>
    exact followUntil_of_becomes becomes lastAgain (fun _ _ => inductionHypothesis) followed

end

theorem follow_of_becomes (becomes : Becomes written old new) {location arrived : Location}
    {pieces : List (List Char)} (followed : follow old location pieces = .ok arrived) :
    follow new location pieces = .ok arrived :=
  followWithin_of_becomes becomes (fun _ _ _ entered _ => enter_of_becomes becomes entered) followed

theorem slot_of_becomes {place : Workplace} {path : FilePath} {location : Location}
    (becomes : Becomes written place.tree new) (slotted : place.slot path = .ok location) :
    (place.withTree new).slot path = .ok location := by
  obtain ⟨⟨⟩, isPath, followed⟩ := Settings.eq_of_bind_eq_ok slotted
  unfold slot
  rw [isPath]
  exact followWithin_of_becomes becomes
    (fun _ _ _ entered _ => enterNew_of_becomes becomes entered) followed

/-- What a path names in a tree is what it leads to as soon as anything is there. -/
theorem locate_of_slot {place : Workplace} {path : FilePath} {location : Location}
    (becomes : Becomes written place.tree new) (slotted : place.slot path = .ok location)
    (there : (new.get? location).isSome = true) :
    (place.withTree new).locate path = .ok location := by
  obtain ⟨⟨⟩, isPath, followed⟩ := Settings.eq_of_bind_eq_ok slotted
  unfold locate
  rw [isPath]
  refine followWithin_of_becomes becomes (fun holder piece next entered atEnd => ?_) followed
  refine enter_of_enterNew (enterNew_of_becomes becomes entered) ?_
  rcases atEnd with rfl | isThere
  · exact there
  · exact becomes.isSome_get? isThere

end Workplace

end SharpTypes

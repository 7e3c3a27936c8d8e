/-
Writing generated files one after the other. Each of them is written where its path leads in the
tree that is left, the directories that it needs are made, and nothing else in the tree changes,
however far the writing comes. If all files could be written and no two of their paths lead to the
same place, every one of them is read back as it was written.
-/

import Mathlib.Data.List.Basic
import Mathlib.Tactic.Common
import SharpTypes.Command.Generate
import SharpTypes.Proofs.FileTree.Lasting

namespace SharpTypes.Command

open FileTree Workplace

/-- The locations that the paths of files lead to. -/
def ledTo (place : Workplace) (units : List OutputUnit) (location : Location) : Prop :=
  ∃ unit ∈ units, place.locate unit.path = .ok location

/-- No two paths of files lead to the same location. -/
def LeadApart (place : Workplace) (units : List OutputUnit) : Prop :=
  units.Pairwise fun earlier later => ∀ location,
    place.locate earlier.path = .ok location → place.locate later.path ≠ .ok location

theorem leadApart_of_isPlain {place : Workplace} (plain : place.tree.IsPlain)
    {units : List OutputUnit} (apart : units.Pairwise fun earlier later =>
      place.placeOf earlier.path ≠ place.placeOf later.path) : LeadApart place units :=
  apart.imp fun differ _ isEarlier isLater =>
    differ ((placeOf_of_locate plain isEarlier).symm.trans (placeOf_of_locate plain isLater))

/-! ### Files that could all be written -/

theorem writeEach_cons {place : Workplace} {unit : OutputUnit} {made filled : FileTree}
    (parent : makeParent place unit.path = (made, none))
    (wrote : (place.withTree made).write unit.path unit.contents = .ok filled)
    (rest : List OutputUnit) :
    writeEach place (unit :: rest) =
      { writeEach (place.withTree filled) rest with
        paths := unit.path :: (writeEach (place.withTree filled) rest).paths } := by
  rw [writeEach, parent]
  dsimp only
  rw [wrote]

/-- The directory of the first file was made and the file written, and the others after it. -/
theorem exists_of_writeEach_cons {place : Workplace} {unit : OutputUnit} {rest : List OutputUnit}
    (complete : (writeEach place (unit :: rest)).failure = none) :
    ∃ made filled, makeParent place unit.path = (made, none) ∧
      (place.withTree made).write unit.path unit.contents = .ok filled ∧
      (writeEach (place.withTree filled) rest).failure = none := by
  unfold writeEach at complete
  split at complete
  case h_1 => cases complete
  case h_2 made parent =>
    split at complete
    case h_1 => cases complete
    case h_2 filled wrote => exact ⟨made, filled, parent, wrote, complete⟩

/-- The output directory was made, and the files written after it. -/
theorem writeUnits_of_complete {place : Workplace} {root : FilePath} {units : List OutputUnit}
    (complete : (writeUnits place root units).failure = none) :
    (place.makeDirectories root).failure = none ∧
      writeUnits place root units =
        writeEach (place.withTree (place.makeDirectories root).tree) units := by
  unfold writeUnits at complete ⊢
  dsimp only at complete ⊢
  split at complete
  case h_1 => cases complete
  case h_2 made => exact ⟨made, rfl⟩

/-! ### What changes -/

section

variable {holds : FileTree → Prop} {units : List OutputUnit} (place : Workplace)
  (afterMaking : ∀ tree path made, holds tree →
    (place.withTree tree).makeDirectory path = .ok made → holds made)
  (afterWriting : ∀ unit ∈ units, ∀ tree filled, holds tree →
    (place.withTree tree).write unit.path unit.contents = .ok filled → holds filled)

include afterMaking

theorem invariant_of_makeParent (tree : FileTree) (path : FilePath) (start : holds tree) :
    holds (makeParent (place.withTree tree) path).1 := by
  unfold makeParent
  split
  · exact start
  · exact (place.withTree tree).invariant_of_makeDirectories afterMaking _ start

include afterWriting

theorem invariant_of_writeEach (tree : FileTree) (start : holds tree) :
    holds (writeEach (place.withTree tree) units).tree := by
  induction units generalizing tree with
  | nil => exact start
  | cons unit rest inductionHypothesis =>
    obtain ⟨afterFirst, afterRest⟩ := List.forall_mem_cons.mp afterWriting
    have parent := invariant_of_makeParent place afterMaking tree unit.path start
    unfold writeEach
    split
    case h_1 made failure same => rwa [same] at parent
    case h_2 made same =>
      rw [same] at parent
      split
      case h_1 => exact parent
      case h_2 filled wrote =>
        exact inductionHypothesis afterRest filled (afterFirst made filled parent wrote)

/-- What every single directory and text leaves true holds after files were written, however far
that comes. -/
theorem invariant_of_writeUnits (root : FilePath) (start : holds place.tree) :
    holds (writeUnits place root units).tree := by
  have made := place.invariant_of_makeDirectories afterMaking root start
  unfold writeUnits
  dsimp only
  split
  · exact made
  · exact invariant_of_writeEach place afterMaking afterWriting _ made

end

/-- What was written before is written where the paths lead later, too. -/
theorem becomes_onward {place : Workplace} {units : List OutputUnit} {start tree later : FileTree}
    {written : Location → Prop} (before : Becomes (ledTo (place.withTree tree) units) start tree)
    (next : Becomes written tree later)
    (allowed : ∀ location, written location → ledTo (place.withTree later) units location) :
    Becomes (ledTo (place.withTree later) units) start later := by
  have still (location : Location) : ledTo (place.withTree tree) units location →
      ledTo (place.withTree later) units location := by
    rintro ⟨unit, isUnit, located⟩
    have locatedStill : ((place.withTree tree).withTree later).locate unit.path = .ok location :=
      locate_of_becomes next located
    exact ⟨unit, isUnit, locatedStill⟩
  exact (before.mono still).trans (next.mono allowed)

section

variable (place : Workplace) (units : List OutputUnit) {start : FileTree}

theorem becomes_of_making (tree : FileTree) (path : FilePath) (made : FileTree)
    (before : Becomes (ledTo (place.withTree tree) units) start tree)
    (isMade : (place.withTree tree).makeDirectory path = .ok made) :
    Becomes (ledTo (place.withTree made) units) start made :=
  becomes_onward before (becomes_of_makeDirectory isMade : Becomes (fun _ => False) tree made)
    nofun

theorem becomes_of_writing (unit : OutputUnit) (isUnit : unit ∈ units) (tree filled : FileTree)
    (before : Becomes (ledTo (place.withTree tree) units) start tree)
    (wrote : (place.withTree tree).write unit.path unit.contents = .ok filled) :
    Becomes (ledTo (place.withTree filled) units) start filled :=
  becomes_onward before (becomes_of_write wrote) fun _ slotted =>
    ⟨unit, isUnit, locate_of_write wrote (.refl (fun _ => False) filled) slotted⟩

theorem becomes_of_writeEach :
    Becomes (ledTo (place.withTree (writeEach place units).tree) units) place.tree
      (writeEach place units).tree :=
  @invariant_of_writeEach
    (fun tree => Becomes (ledTo (place.withTree tree) units) place.tree tree) units place
    (becomes_of_making place units) (becomes_of_writing place units) place.tree (.refl _ _)

/-- Writing files below a directory changes the tree only where their paths lead then, and makes
directories. -/
theorem becomes_of_writeUnits (root : FilePath) :
    Becomes (ledTo (place.withTree (writeUnits place root units).tree) units) place.tree
      (writeUnits place root units).tree :=
  @invariant_of_writeUnits
    (fun tree => Becomes (ledTo (place.withTree tree) units) place.tree tree) units place
    (becomes_of_making place units) (becomes_of_writing place units) root (.refl _ _)

end

/-! ### What is read back -/

theorem read_of_writeEach (place : Workplace) {units : List OutputUnit}
    (apart : LeadApart (place.withTree (writeEach place units).tree) units)
    (complete : (writeEach place units).failure = none) :
    ∀ unit ∈ units,
      (place.withTree (writeEach place units).tree).read unit.path = .ok unit.contents := by
  induction units generalizing place with
  | nil => exact nofun
  | cons unit rest inductionHypothesis =>
    obtain ⟨made, filled, parent, wrote, completeRest⟩ := exists_of_writeEach_cons complete
    rw [writeEach_cons parent wrote] at apart ⊢
    obtain ⟨fromLater, apartRest⟩ := List.pairwise_cons.mp apart
    refine List.forall_mem_cons.mpr ⟨?_, ?_⟩
    · -- The files after this one are written elsewhere.
      have later := becomes_of_writeEach (place.withTree filled) rest
      refine (place.withTree made).read_of_write wrote later ?_
      rintro location located ⟨other, isOther, same⟩
      exact fromLater other isOther location located same
    · exact inductionHypothesis (place.withTree filled) apartRest completeRest

/-- If files whose paths lead apart could all be written, each path leads to what was written. -/
theorem read_of_writeUnits (place : Workplace) (root : FilePath) {units : List OutputUnit}
    (apart : LeadApart (place.withTree (writeUnits place root units).tree) units)
    (complete : (writeUnits place root units).failure = none) :
    ∀ unit ∈ units,
      (place.withTree (writeUnits place root units).tree).read unit.path = .ok unit.contents := by
  obtain ⟨_, same⟩ := writeUnits_of_complete complete
  rw [same] at complete apart ⊢
  exact read_of_writeEach (place.withTree _) apart complete

/-- Without links every file stands at the place of its path. -/
theorem get?_writeUnits (place : Workplace) (plain : place.tree.IsPlain) (root : FilePath)
    {units : List OutputUnit} (apart : units.Pairwise fun earlier later =>
      place.placeOf earlier.path ≠ place.placeOf later.path)
    (complete : (writeUnits place root units).failure = none) :
    ∀ unit ∈ units, (writeUnits place root units).tree.get? (place.placeOf unit.path) =
      some (.text unit.contents) := by
  intro unit isUnit
  have plainLater : (place.withTree (writeUnits place root units).tree).tree.IsPlain :=
    (becomes_of_writeUnits place units root).isPlain plain
  have readBack := read_of_writeUnits place root (leadApart_of_isPlain plainLater apart) complete
  exact get?_placeOf_of_read plainLater (readBack unit isUnit)

/-! ### Writing again -/

/-- The tree with the texts of files at their places. -/
def withTexts (place : Workplace) (tree : FileTree) (units : List OutputUnit) : FileTree :=
  units.foldl (fun tree unit => tree.set (place.placeOf unit.path) (.text unit.contents)) tree

theorem get?_withTexts (place : Workplace) (tree : FileTree) {units : List OutputUnit}
    {location : Location} (elsewhere : ∀ unit ∈ units, location ≠ place.placeOf unit.path) :
    (withTexts place tree units).get? location = tree.get? location := by
  induction units generalizing tree with
  | nil => rfl
  | cons unit rest inductionHypothesis =>
    obtain ⟨notFirst, notLater⟩ := List.forall_mem_cons.mp elsewhere
    exact (inductionHypothesis _ notLater).trans (get?_set_of_ne tree _ notFirst.symm)

theorem paths_of_writeEach (place : Workplace) {units : List OutputUnit}
    (complete : (writeEach place units).failure = none) :
    (writeEach place units).paths = units.map OutputUnit.path := by
  induction units generalizing place with
  | nil => rfl
  | cons unit rest inductionHypothesis =>
    obtain ⟨_, _, parent, wrote, completeRest⟩ := exists_of_writeEach_cons complete
    rw [writeEach_cons parent wrote]
    exact congrArg (unit.path :: ·) (inductionHypothesis _ completeRest)

theorem makeParent_again {written : Location → Prop} {place : Workplace} {path : FilePath}
    {made later : FileTree} (plain : place.tree.IsPlain)
    (parent : makeParent place path = (made, none))
    (becomes : Becomes written made later) :
    makeParent (place.withTree later) path = (later, none) := by
  unfold makeParent at parent ⊢
  split at parent
  case h_1 => rfl
  case h_2 directory _ =>
    obtain ⟨rfl, complete⟩ := Prod.mk.inj parent
    rw [makeDirectories_again plain (Option.map_eq_none_iff.mp complete) becomes]
    rfl

theorem becomes_of_makeParent (place : Workplace) (path : FilePath) :
    Becomes (fun _ => False) place.tree (makeParent place path).1 :=
  invariant_of_makeParent place (fun _ _ _ becomes made =>
    becomes.trans (becomes_of_makeDirectory made)) place.tree path (.refl _ _)

/-- Files that were written can be written again with other texts, and only these change. -/
theorem writeEach_again (place : Workplace) {tree : FileTree} (plain : tree.IsPlain)
    {units others : List OutputUnit} {later : FileTree}
    (samePaths : others.map OutputUnit.path = units.map OutputUnit.path)
    (complete : (writeEach (place.withTree tree) units).failure = none)
    (becomes : Becomes (fun _ => True) (writeEach (place.withTree tree) units).tree later) :
    writeEach (place.withTree later) others =
      ⟨withTexts place later others, others.map OutputUnit.path, none⟩ := by
  induction units generalizing tree others later with
  | nil =>
    obtain rfl : others = [] := List.map_eq_nil_iff.mp samePaths
    rfl
  | cons unit rest inductionHypothesis =>
    obtain ⟨other, more, rfl, samePath, sameRest⟩ := List.map_eq_cons_iff.mp samePaths
    obtain ⟨made, filled, parent, wrote, completeRest⟩ := exists_of_writeEach_cons complete
    rw [writeEach_cons parent wrote] at becomes
    dsimp only at becomes
    have afterFilled : Becomes (fun _ => True) filled later :=
      (becomes_of_writeEach (place.withTree filled) rest).somehow.trans becomes
    have parentAgain := makeParent_again plain parent
      ((becomes_of_write wrote).somehow.trans afterFilled)
    have plainMade : made.IsPlain := by
      have becomesMade := becomes_of_makeParent (place.withTree tree) unit.path
      rw [parent] at becomesMade
      exact becomesMade.isPlain plain
    obtain ⟨location, slotted, wroteAgain⟩ := write_again wrote afterFilled other.contents
    have here : location = ((place.withTree tree).withTree made).placeOf unit.path :=
      placeOf_of_slot plainMade slotted
    obtain rfl : location = place.placeOf unit.path := here
    have again := inductionHypothesis ((becomes_of_write wrote).isPlain plainMade) sameRest
      completeRest (becomes.trans (becomes_of_write wroteAgain).somehow)
    rw [withTree_withTree] at parentAgain wroteAgain
    rw [← samePath] at parentAgain wroteAgain again
    rw [writeEach_cons parentAgain wroteAgain, withTree_withTree, again]
    rfl

/-- A run that could write all of its files can write them again with other texts. It makes no
directory, and of the files only the texts change. -/
theorem writeUnits_again (place : Workplace) (plain : place.tree.IsPlain) (root : FilePath)
    {units others : List OutputUnit}
    (samePaths : others.map OutputUnit.path = units.map OutputUnit.path)
    (complete : (writeUnits place root units).failure = none) :
    writeUnits (place.withTree (writeUnits place root units).tree) root others =
      ⟨withTexts place (writeUnits place root units).tree others,
        others.map OutputUnit.path, none⟩ := by
  obtain ⟨made, same⟩ := writeUnits_of_complete complete
  rw [same] at complete ⊢
  have becomes := becomes_of_writeEach (place.withTree (place.makeDirectories root).tree) units
  have plainMade := (becomes_of_makeDirectories (fun _ => False) place root).isPlain plain
  have again := writeEach_again place plainMade samePaths complete (.refl _ _)
  rw [writeUnits, makeDirectories_again plain made becomes]
  dsimp only
  rw [withTree_withTree, again]

theorem paths_of_writeUnits (place : Workplace) (root : FilePath) {units : List OutputUnit}
    (complete : (writeUnits place root units).failure = none) :
    (writeUnits place root units).paths = units.map OutputUnit.path := by
  obtain ⟨_, same⟩ := writeUnits_of_complete complete
  rw [same] at complete ⊢
  exact paths_of_writeEach _ complete

end SharpTypes.Command

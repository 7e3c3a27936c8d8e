/-
Source files that are turned into the same file. The search for a collision fails exactly if no two
source files have output paths with the same components, and otherwise it names the first file whose
output path an earlier one already had. Output paths without a collision are not only different:
none of them is a directory on the way to another, but for settings that are refused.
-/

import Mathlib.Data.List.Infix
import Mathlib.Tactic.Common
import SharpTypes.Proofs.Output.Assembly
import SharpTypes.Proofs.Output.UnitPath

namespace SharpTypes

open Text FilePath

/-! ### The search -/

namespace Collision

/-- Two source files are turned into different files. -/
def Apart (layout : Layout) (first second : ParsedFile) : Prop :=
  (layout.unitPath first.relativePath).components ≠ (layout.unitPath second.relativePath).components

/-- The source files at two positions, the smaller of which comes first, are turned into the same
file. -/
def MeetAt (layout : Layout) (files : List ParsedFile) (earlier later : Nat) : Prop :=
  earlier < later ∧ ∃ first second, files[earlier]? = some first ∧ files[later]? = some second ∧
    (layout.unitPath first.relativePath).components =
      (layout.unitPath second.relativePath).components

/-- The collision of the first position that meets an earlier one: it names the sources at both
positions, the owner of the file first, and the path of the file. -/
inductive IsFirst (layout : Layout) (files : List ParsedFile) : Collision → Prop where
  | intro {earlier later : Nat} {owner source : ParsedFile}
      (meets : MeetAt layout files earlier later)
      (foremost : ∀ before position, MeetAt layout files before position → later ≤ position)
      (isOwner : files[earlier]? = some owner) (isSource : files[later]? = some source) :
      IsFirst layout files
        ⟨owner.sourcePath, source.sourcePath, layout.unitPath source.relativePath⟩

variable {layout : Layout} {files : List ParsedFile}

/-- The search stops at the first file that meets one of those before it. -/
theorem exists_of_findAfter {searched : List ParsedFile} {collision : Collision}
    (apart : searched.Pairwise (Apart layout))
    (found : findAfter layout
      (searched.map fun file => (layout.unitPath file.relativePath, file.sourcePath)) files =
        some collision) :
    ∃ front later back, files = front ++ later :: back ∧
      (searched ++ front).Pairwise (Apart layout) ∧
      ∃ earlier ∈ searched ++ front, ¬ Apart layout earlier later ∧
        collision =
          ⟨earlier.sourcePath, later.sourcePath, layout.unitPath later.relativePath⟩ := by
  induction files generalizing searched with
  | nil => cases found
  | cons file rest inductionHypothesis =>
    rw [findAfter] at found
    split at found
    case h_1 owner owned =>
      obtain ⟨earlier, isEarlier, rfl⟩ := List.mem_map.mp (List.mem_of_find?_eq_some owned)
      have same := List.find?_some owned
      simp only [FilePath.same_iff] at same
      refine ⟨[], file, rest, rfl, by rwa [List.append_nil], earlier, ?_,
        fun apart => apart same, (Option.some.inj found).symm⟩
      rwa [List.append_nil]
    case h_2 free =>
      have apartFile : (searched ++ [file]).Pairwise (Apart layout) := by
        refine List.pairwise_append.mpr ⟨apart, List.pairwise_singleton _ _, ?_⟩
        intro earlier isEarlier other isOther same
        obtain rfl := List.mem_singleton.mp isOther
        have noOwner := List.find?_eq_none.mp free _
          (List.mem_map.mpr ⟨earlier, isEarlier, rfl⟩)
        exact noOwner (FilePath.same_iff.mpr same)
      have further : findAfter layout ((searched ++ [file]).map fun file =>
          (layout.unitPath file.relativePath, file.sourcePath)) rest = some collision := by
        rw [List.map_append]
        exact found
      obtain ⟨front, later, back, rfl, apartFront, earlier, isEarlier, meets, same⟩ :=
        inductionHypothesis apartFile further
      rw [List.append_assoc, List.singleton_append] at apartFront isEarlier
      exact ⟨file :: front, later, back, rfl, apartFront, earlier, isEarlier, meets, same⟩

/-- Files are pairwise turned into different ones exactly if no two positions meet. -/
theorem pairwise_apart_iff : files.Pairwise (Apart layout) ↔
    ∀ earlier later, ¬ MeetAt layout files earlier later := by
  rw [List.pairwise_iff_getElem]
  constructor
  · rintro apart earlier later ⟨before, first, second, isFirst, isSecond, same⟩
    obtain ⟨inFiles, rfl⟩ := List.getElem?_eq_some_iff.mp isFirst
    obtain ⟨inFilesToo, rfl⟩ := List.getElem?_eq_some_iff.mp isSecond
    exact apart earlier later inFiles inFilesToo before same
  · intro never earlier later inFiles inFilesToo before same
    exact never earlier later ⟨before, files[earlier], files[later],
      List.getElem?_eq_getElem inFiles, List.getElem?_eq_getElem inFilesToo, same⟩

variable {settings : Settings}

theorem exists_of_find? (multiple : settings.singleFile = false) {collision : Collision}
    (found : find? settings files = some collision) :
    ∃ front later back, files = front ++ later :: back ∧
      front.Pairwise (Apart (Layout.of settings)) ∧
      ∃ earlier ∈ front, ¬ Apart (Layout.of settings) earlier later ∧
        collision = ⟨earlier.sourcePath, later.sourcePath,
          (Layout.of settings).unitPath later.relativePath⟩ := by
  rw [find?, multiple, if_neg Bool.false_ne_true] at found
  have nothing : ([] : List ParsedFile).Pairwise (Apart (Layout.of settings)) := .nil
  exact exists_of_findAfter nothing found

/-- There is no collision exactly if no two source files are turned into the same file. -/
theorem find?_eq_none_iff (multiple : settings.singleFile = false) :
    find? settings files = none ↔ files.Pairwise (Apart (Layout.of settings)) := by
  refine ⟨fun distinct => ?_, fun apart => ?_⟩
  · rw [find?, multiple, if_neg Bool.false_ne_true] at distinct
    exact (pairwise_of_findAfter distinct).1
  rw [Option.eq_none_iff_forall_ne_some]
  intro collision found
  obtain ⟨front, later, back, rfl, _, earlier, isEarlier, meets, _⟩ :=
    exists_of_find? multiple found
  obtain ⟨_, _, fromFront⟩ := List.pairwise_append.mp apart
  exact meets (fromFront earlier isEarlier later List.mem_cons_self)

/-- What is found is the collision of the first position which meets an earlier one. -/
theorem isFirst_of_find? (multiple : settings.singleFile = false) {collision : Collision}
    (found : find? settings files = some collision) :
    IsFirst (Layout.of settings) files collision := by
  obtain ⟨front, second, back, rfl, apart, first, isFirst, meets, rfl⟩ :=
    exists_of_find? multiple found
  obtain ⟨earlier, inFront, rfl⟩ := List.mem_iff_getElem.mp isFirst
  have firstThere : (front ++ second :: back)[earlier]? = some front[earlier] := by
    rw [List.getElem?_append_left inFront, List.getElem?_eq_getElem inFront]
  have secondThere : (front ++ second :: back)[front.length]? = some second := by
    rw [List.getElem?_append_right (Nat.le_refl _), Nat.sub_self]
    rfl
  have meetThere : MeetAt (Layout.of settings) (front ++ second :: back) earlier front.length :=
    ⟨inFront, _, _, firstThere, secondThere, not_not.mp meets⟩
  refine .intro meetThere ?_ firstThere secondThere
  rintro before position ⟨smaller, one, other, isOne, isOther, sameToo⟩
  by_contra inside
  rw [Nat.not_le] at inside
  rw [List.getElem?_append_left (smaller.trans inside)] at isOne
  rw [List.getElem?_append_left inside] at isOther
  exact pairwise_apart_iff.mp apart before position ⟨smaller, one, other, isOne, isOther, sameToo⟩

end Collision

end SharpTypes

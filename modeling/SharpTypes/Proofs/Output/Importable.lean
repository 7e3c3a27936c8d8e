/-
Which output paths can be imported from which. All output paths of a layout start at its output
directory, but for a file whose name is itself a path from the root, which settings without a
problem never make. Between two paths that agree in everything but names, the specifier leads to the
imported file exactly if that has a name before its extension.
-/

import Mathlib.Data.List.Basic
import Mathlib.Tactic.Common
import SharpTypes.Proofs.Output.Specifier

namespace SharpTypes

open Text

namespace FilePath

/-! ### Down from the root -/

/-- Pieces among whose components there are only names stand for names that are segments. -/
theorem exists_names_of_pieces {pieces : List (List Char)}
    (slashFree : ∀ piece ∈ pieces, '/' ∉ piece)
    (noBearings : bearings (pieces.filterMap componentOf?) = []) :
    ∃ names : List (List Char), (∀ name ∈ names, IsSegment name) ∧
      pieces.filterMap componentOf? = names.map Component.name := by
  induction pieces with
  | nil => exact ⟨[], List.forall_mem_nil _, rfl⟩
  | cons piece others inductionHypothesis =>
    obtain ⟨fromFirst, fromOthers⟩ := List.forall_mem_cons.mp slashFree
    rw [filterMap_componentOf?_cons, bearings_append, List.append_eq_nil_iff] at noBearings
    obtain ⟨names, segments, same⟩ := inductionHypothesis fromOthers noBearings.2
    rw [filterMap_componentOf?_cons, same]
    cases given : componentOf? piece with
    | none => exact ⟨names, segments, rfl⟩
    | some component =>
      rcases eq_or_eq_of_componentOf? given with rfl | rfl
      · rw [given] at noBearings
        cases noBearings.1
      · exact ⟨piece :: names, List.forall_mem_cons.mpr ⟨⟨fromFirst, given⟩, segments⟩, rfl⟩

/-- A path whose only component that is no name is the root goes down from the root by names. -/
theorem exists_names_of_bearings {path : FilePath} (atRoot : bearings path.components = [.root]) :
    ∃ names : List (List Char), (∀ name ∈ names, IsSegment name) ∧
      path.components = .root :: names.map Component.name := by
  rw [components] at atRoot ⊢
  have onlyNames := exists_names_of_pieces (wellFormed_parts path).slashFree
  generalize given : path.parts.pieces.filterMap componentOf? = rest at onlyNames atRoot ⊢
  cases anchor : path.parts.anchor with
  | root =>
    rw [anchor] at atRoot
    obtain ⟨names, segments, rfl⟩ := onlyNames (List.cons.inj atRoot).2
    exact ⟨names, segments, rfl⟩
  | current =>
    rw [anchor] at atRoot
    cases atRoot
  | free =>
    rw [anchor] at atRoot
    have isRoot : Component.root ∈ bearings rest := by
      rw [show bearings rest = [.root] from atRoot]
      exact List.mem_singleton_self _
    rw [← given] at isRoot
    obtain ⟨piece, _, isComponent⟩ := List.mem_filterMap.mp (List.mem_filter.mp isRoot).1
    rcases eq_or_eq_of_componentOf? isComponent with same | same <;> cases same

/-- A file below a directory that is reached from the root by names is itself so reached. -/
theorem Generated.exists_fromRoot {base path : FilePath} {directories : List (List Char)}
    {last : List Char} (generated : path.Generated base.components directories last)
    (atRoot : bearings base.components = [.root]) :
    ∃ directories, path.Generated [.root] directories last := by
  obtain ⟨names, segments, same⟩ := exists_names_of_bearings atRoot
  refine ⟨names ++ directories, ?_, generated.slashFree, generated.dotFree, ?_⟩
  · intro name member
    exact (List.mem_append.mp member).elim (segments name) (generated.segments name)
  · rw [generated.components, same, List.map_append]
    simp only [List.cons_append, List.nil_append, List.append_assoc]

end FilePath

open FilePath

namespace Layout

/-! ### Common starts -/

theorem start_eq_or (layout : Layout) (source : FilePath) :
    layout.start source = layout.root.components ∨ layout.start source = [.root] := by
  unfold start
  split
  · exact .inr rfl
  · exact .inl rfl

/-- Two output paths that agree in everything but names have a common start. -/
theorem exists_common_start {layout : Layout} {source target : FilePath}
    (agree : bearings (layout.unitPath source).components =
      bearings (layout.unitPath target).components) :
    ∃ start above first below stem,
      (layout.unitPath source).Generated start above first ∧
        (layout.unitPath target).Generated start below stem := by
  obtain ⟨above, first, importing⟩ := exists_generated_unitPath layout source
  obtain ⟨below, stem, imported⟩ := exists_generated_unitPath layout target
  rw [importing.bearings_eq, imported.bearings_eq] at agree
  rcases start_eq_or layout source with sourceStart | sourceStart <;>
    rcases start_eq_or layout target with targetStart | targetStart <;>
    rw [sourceStart] at importing agree <;> rw [targetStart] at imported agree
  · exact ⟨_, above, first, below, stem, importing, imported⟩
  · obtain ⟨directories, lowered⟩ := importing.exists_fromRoot agree
    exact ⟨_, directories, first, below, stem, lowered, imported⟩
  · obtain ⟨directories, lowered⟩ := imported.exists_fromRoot agree.symm
    exact ⟨_, above, first, directories, stem, importing, lowered⟩
  · exact ⟨_, above, first, below, stem, importing, imported⟩

theorem bearings_directory (layout : Layout) (source : FilePath) :
    bearings (layout.unitPath source).directory = bearings (layout.unitPath source).components := by
  obtain ⟨directories, stem, generated⟩ := exists_generated_unitPath layout source
  rw [generated.directory_eq, generated.bearings_eq]
  simp

/-- What can be reached from an output path agrees with it in everything but names. -/
theorem bearings_eq_of_reached {layout : Layout} {source target : FilePath} {text : List Char}
    (reached : bearings (ModuleSpecifier.follow (layout.unitPath source).directory text) =
      bearings (layout.unitPath target).components) :
    bearings (layout.unitPath source).components =
      bearings (layout.unitPath target).components := by
  have fromDirectory := bearings_directory layout source
  obtain ⟨_, _, importing⟩ := exists_generated_unitPath layout source
  obtain ⟨_, _, imported⟩ := exists_generated_unitPath layout target
  obtain ⟨steps, stepped⟩ :=
    ModuleSpecifier.exists_bearings_follow (layout.unitPath source).directory text
  rw [stepped, fromDirectory] at reached
  have stays (atRoot : layout.start source = [.root]) :
      bearings (layout.unitPath source).components =
        bearings (layout.unitPath target).components := by
    have sourceRoot : bearings (layout.unitPath source).components = [.root] := by
      rw [importing.bearings_eq, atRoot]
      rfl
    rw [← reached, ← fromDirectory, ← stepped, ModuleSpecifier.bearings_follow_of_root,
      fromDirectory, sourceRoot]
    rw [fromDirectory, sourceRoot]
  rcases start_eq_or layout source with sourceStart | sourceStart
  · rcases start_eq_or layout target with targetStart | targetStart
    · rw [importing.bearings_eq, imported.bearings_eq, sourceStart, targetStart]
    · rw [imported.bearings_eq, targetStart] at reached ⊢
      have root : bearings [Component.root] = [Component.root] := rfl
      rw [root] at reached ⊢
      rcases List.append_eq_singleton_iff.mp reached with ⟨_, added⟩ | ⟨same, _⟩
      · cases steps with
        | zero => cases added
        | succ more =>
          rw [List.replicate_succ] at added
          cases added
      · exact same
  · exact stays sourceStart

/-- Whether one output path can be imported from another: they agree in everything but names, and
the imported file has a name before its extension. -/
def Importable (source target : FilePath) : Prop :=
  bearings source.components = bearings target.components ∧
    target.fileName? ≠ some ".ts".toList

theorem fileName?_ne_iff {path : FilePath} {start : List Component}
    {directories : List (List Char)} {stem : List Char}
    (generated : path.Generated start directories stem) :
    path.fileName? ≠ some ".ts".toList ↔ stem ≠ [] := by
  rw [generated.fileName?, Ne, Option.some_inj, List.append_left_eq_self]

/-- The specifier between two output paths leads to the second exactly if it can be imported. -/
theorem destination_between_iff (layout : Layout) (source target : FilePath) :
    ModuleSpecifier.destination (layout.unitPath source).directory
        (ModuleSpecifier.between (layout.unitPath source) (layout.unitPath target)) =
      (layout.unitPath target).components ↔
    Importable (layout.unitPath source) (layout.unitPath target) := by
  constructor
  · intro reached
    have arrived : bearings (ModuleSpecifier.follow (layout.unitPath source).directory
        (ModuleSpecifier.between (layout.unitPath source) (layout.unitPath target))) =
          bearings (layout.unitPath target).components := by
      rw [← reached, ModuleSpecifier.destination, ModuleSpecifier.bearings_fileAt]
    have agree := bearings_eq_of_reached arrived
    obtain ⟨start, above, first, below, stem, importing, imported⟩ := exists_common_start agree
    refine ⟨agree, (fileName?_ne_iff imported).mpr fun hidden => ?_⟩
    exact ModuleSpecifier.destination_between_ne importing imported hidden imported reached
  · rintro ⟨agree, visible⟩
    obtain ⟨start, above, first, below, stem, importing, imported⟩ := exists_common_start agree
    exact ModuleSpecifier.destination_between importing imported
      ((fileName?_ne_iff imported).mp visible)

/-- If nothing stands before the extension of the imported file, the specifier leads to no output
path at all. -/
theorem destination_between_ne_unitPath {layout : Layout} {source target : FilePath}
    (agree : bearings (layout.unitPath source).components =
      bearings (layout.unitPath target).components)
    (hidden : (layout.unitPath target).fileName? = some ".ts".toList) (other : FilePath) :
    ModuleSpecifier.destination (layout.unitPath source).directory
        (ModuleSpecifier.between (layout.unitPath source) (layout.unitPath target)) ≠
      (layout.unitPath other).components := by
  obtain ⟨start, above, first, below, stem, importing, imported⟩ := exists_common_start agree
  obtain ⟨directories, last, generated⟩ := exists_generated_unitPath layout other
  have nothing : stem = [] := by
    by_contra visible
    exact (fileName?_ne_iff imported).mpr visible hidden
  exact ModuleSpecifier.destination_between_ne importing imported nothing generated

/-- Settings without a problem make output paths that agree in everything but names. -/
theorem bearings_eq_of_accepted {settings : Settings} (accepted : settings.problem? = none)
    (source target : FilePath) :
    bearings ((of settings).unitPath source).components =
      bearings ((of settings).unitPath target).components := by
  obtain ⟨_, _, importing⟩ := exists_generated_unitPath (of settings) source
  obtain ⟨_, _, imported⟩ := exists_generated_unitPath (of settings) target
  rw [importing.bearings_eq, imported.bearings_eq, start_of_accepted accepted,
    start_of_accepted accepted]

/-- The text of the specifier, with the extension behind it, leads there if moreover the imported
file is not named like a directory that holds the importing one. -/
theorem destinationOfText_between_iff (layout : Layout) (source target : FilePath) :
    ModuleSpecifier.destinationOfText (layout.unitPath source).directory
        (ModuleSpecifier.between (layout.unitPath source) (layout.unitPath target)) =
      (layout.unitPath target).components ↔
    Importable (layout.unitPath source) (layout.unitPath target) ∧
      ¬ (layout.unitPath target).withoutExtension.components <+:
        (layout.unitPath source).directory := by
  constructor
  · intro reached
    have agree : bearings (layout.unitPath source).components =
        bearings (layout.unitPath target).components :=
      bearings_eq_of_reached (congrArg bearings reached)
    obtain ⟨start, above, first, below, stem, importing, imported⟩ := exists_common_start agree
    obtain ⟨visible, down⟩ :=
      ModuleSpecifier.visible_of_destinationOfText importing imported reached
    exact ⟨⟨agree, (fileName?_ne_iff imported).mpr visible⟩, down⟩
  · rintro ⟨⟨agree, visible⟩, down⟩
    obtain ⟨start, above, first, below, stem, importing, imported⟩ := exists_common_start agree
    exact ModuleSpecifier.destinationOfText_between importing imported
      ((fileName?_ne_iff imported).mp visible) down

end Layout

end SharpTypes

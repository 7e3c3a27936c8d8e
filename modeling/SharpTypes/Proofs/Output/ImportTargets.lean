/-
Which imports lead to a generated file. In a run without a collision an import leads to the file of
a source that declares all of its names exactly if every file that the index has for these names
can be imported. Settings without a problem leave one way to fail: a source file whose name holds
nothing to convert, so that its generated file is named by the extension alone.
-/

import Mathlib.Tactic.Common
import SharpTypes.Proofs.Output.Assembly
import SharpTypes.Proofs.Output.Importable
import SharpTypes.Proofs.Output.ImportList

namespace SharpTypes

open FilePath Layout

namespace Import

/-- The files that an index has for the names of an import. -/
def targets (index : Index) (statement : Import) : List FilePath :=
  statement.names.filterMap index.get?

theorem forall_mem_targets {index : Index} {statement : Import} {property : FilePath → Prop} :
    (∀ target ∈ statement.targets index, property target) ↔
      ∀ name ∈ statement.names, ∀ target, index.get? name = some target → property target := by
  simp only [targets, List.mem_filterMap]
  exact ⟨fun all name isName target held => all target ⟨name, isName, held⟩,
    fun all target ⟨name, isName, held⟩ => all name isName target held⟩

end Import

namespace OutputUnit

/-- By a reading of specifiers, the import leads to the generated file of the source. -/
structure LeadsTo (reading : List Component → List Char → List Component) (settings : Settings)
    (time : Timestamp) (files : List ParsedFile) (unit : OutputUnit) (statement : Import)
    (source : ParsedFile) : Prop where
  isSource : source ∈ files
  generated : ofFile settings (Index.build (Layout.of settings) files) time source ∈
    assemble settings time files
  arrives : reading unit.path.directory statement.specifier =
    (ofFile settings (Index.build (Layout.of settings) files) time source).path.components
  declares : ∀ name ∈ statement.names, source.declares name = true

/-- The generated file of the source is the one that the index has for all names of the import. -/
def IsIndexed (settings : Settings) (files : List ParsedFile) (statement : Import)
    (source : ParsedFile) : Prop :=
  ∀ target ∈ statement.targets (Index.build (Layout.of settings) files),
    target = (Layout.of settings).unitPath source.relativePath

variable {settings : Settings} {files : List ParsedFile} {file : ParsedFile}

/-- Every name of an import has a file in the index, and the specifier is the one made for it. -/
theorem exists_target_of_mem_importsOf {layout : Layout} {index : Index} {statement : Import}
    (isImport : statement ∈ importsOf layout index file) {name : List Char}
    (isName : name ∈ statement.names) :
    ∃ target, index.get? name = some target ∧ statement.specifier =
      ModuleSpecifier.between (layout.unitPath file.relativePath) target := by
  obtain ⟨_, target, outside, same⟩ :=
    (Import.lists_collect _ _ _ _ _).mp ⟨statement, isImport, rfl, isName⟩
  exact ⟨target, (Index.outside?_eq_some.mp outside).1, same⟩

/-- A reading that follows specifiers exactly between paths that can reach each other leads imports
to the files that the index has for their names exactly if these can be reached. -/
theorem exists_leadsTo_iff (time : Timestamp)
    {reading : List Component → List Char → List Component}
    (reach : FilePath → FilePath → Prop)
    (follows : ∀ source target : FilePath,
      reading ((Layout.of settings).unitPath source).directory
          (ModuleSpecifier.between ((Layout.of settings).unitPath source)
            ((Layout.of settings).unitPath target)) =
        ((Layout.of settings).unitPath target).components ↔
      reach ((Layout.of settings).unitPath source) ((Layout.of settings).unitPath target))
    (multiple : settings.singleFile = false) (distinct : Collision.find? settings files = none)
    {statement : Import}
    (isImport : statement ∈
      importsOf (Layout.of settings) (Index.build (Layout.of settings) files) file) :
    (∃ source, LeadsTo reading settings time files
        (ofFile settings (Index.build (Layout.of settings) files) time file) statement source ∧
          IsIndexed settings files statement source) ↔
      ∀ target ∈ statement.targets (Index.build (Layout.of settings) files),
        reach ((Layout.of settings).unitPath file.relativePath) target := by
  rw [Import.forall_mem_targets]
  constructor
  · rintro ⟨source, leads, allHere⟩ name isName target held
    obtain ⟨found, heldFound, made⟩ := exists_target_of_mem_importsOf isImport isName
    obtain rfl : found = target := Option.some.inj (heldFound.symm.trans held)
    obtain rfl := Import.forall_mem_targets.mp allHere name isName found held
    rw [← follows, ← made]
    exact leads.arrives
  · intro reachable
    have filled := ((Import.ordered_collect _ _ _).names statement isImport).1
    obtain ⟨first, isFirst⟩ := List.exists_mem_of_ne_nil _ filled
    obtain ⟨target, held, made⟩ := exists_target_of_mem_importsOf isImport isFirst
    obtain ⟨source, isSource, declares, rfl⟩ := Index.exists_file_of_get? held
    have arrives := (follows _ _).mpr (reachable first isFirst _ held)
    -- The names of an import share its specifier, so all of them lead to one place.
    have others : ∀ name ∈ statement.names, source.declares name = true ∧ ∀ path,
        (Index.build (Layout.of settings) files).get? name = some path →
          path = (Layout.of settings).unitPath source.relativePath := by
      intro name isName
      obtain ⟨path, heldToo, madeToo⟩ := exists_target_of_mem_importsOf isImport isName
      obtain ⟨other, isOther, declaresToo, rfl⟩ := Index.exists_file_of_get? heldToo
      have arrivesToo := (follows _ _).mpr (reachable name isName _ heldToo)
      rw [← madeToo, made, arrives] at arrivesToo
      obtain rfl := Collision.eq_of_components_eq multiple distinct isSource isOther arrivesToo
      exact ⟨declaresToo, fun path heldPath => Option.some.inj (heldPath.symm.trans heldToo)⟩
    refine ⟨source, ⟨isSource, ?_, ?_, fun name isName => (others name isName).1⟩, ?_⟩
    · exact ofFile_mem_assemble multiple isSource (ParsedFile.declarations_ne_nil declares)
    · rw [made]
      exact arrives
    · exact Import.forall_mem_targets.mpr fun name isName => (others name isName).2

/-- With settings that have no problem, an import that leads to the file of a source which declares
its names leads to where the index has them. -/
theorem visible_of_leadsTo {time : Timestamp} (accepted : settings.problem? = none)
    {statement : Import}
    (isImport : statement ∈
      importsOf (Layout.of settings) (Index.build (Layout.of settings) files) file)
    {source : ParsedFile}
    (leads : LeadsTo ModuleSpecifier.destination settings time files
      (ofFile settings (Index.build (Layout.of settings) files) time file) statement source) :
    ∀ target ∈ statement.targets (Index.build (Layout.of settings) files),
      target.fileName? ≠ some ".ts".toList := by
  rw [Import.forall_mem_targets]
  intro name isName target held hidden
  obtain ⟨found, heldFound, made⟩ := exists_target_of_mem_importsOf isImport isName
  obtain rfl : found = target := Option.some.inj (heldFound.symm.trans held)
  obtain ⟨other, _, _, rfl⟩ := Index.exists_file_of_get? held
  have arrives := leads.arrives
  rw [made] at arrives
  exact destination_between_ne_unitPath (bearings_eq_of_accepted accepted _ _) hidden _ arrives

theorem importable_iff_of_accepted (accepted : settings.problem? = none) {name : List Char}
    {target : FilePath} (held : (Index.build (Layout.of settings) files).get? name = some target) :
    Importable ((Layout.of settings).unitPath file.relativePath) target ↔
      target.fileName? ≠ some ".ts".toList := by
  obtain ⟨source, _, _, rfl⟩ := Index.exists_file_of_get? held
  exact and_iff_right (bearings_eq_of_accepted accepted _ _)

/-- An import leads to the generated file of a source that declares all of its names, and where the
index has them, exactly if all files that the index has for the names can be imported. If the
extension goes onto the text of the specifier, none of them may moreover be named like a directory
that holds the importing file. With settings that have no problem, a file can be imported exactly if
it has a name before its extension. -/
structure LeadsExactly (settings : Settings) (time : Timestamp) (files : List ParsedFile)
    (unit : OutputUnit) (statement : Import) : Prop where
  indexed : statement.targets (Index.build (Layout.of settings) files) ≠ []
  byComponents : (∃ source,
      LeadsTo ModuleSpecifier.destination settings time files unit statement source ∧
        IsIndexed settings files statement source) ↔
    ∀ target ∈ statement.targets (Index.build (Layout.of settings) files),
      Importable unit.path target
  byText : (∃ source,
      LeadsTo ModuleSpecifier.destinationOfText settings time files unit statement source ∧
        IsIndexed settings files statement source) ↔
    ∀ target ∈ statement.targets (Index.build (Layout.of settings) files),
      Importable unit.path target ∧
        ¬ target.withoutExtension.components <+: unit.path.directory
  ofAccepted : settings.problem? = none →
    ((∃ source, LeadsTo ModuleSpecifier.destination settings time files unit statement source) ↔
      ∀ target ∈ statement.targets (Index.build (Layout.of settings) files),
        target.fileName? ≠ some ".ts".toList)

/-- In a run with a file for every source and without a collision, every import of every generated
file leads exactly where it can. -/
theorem imports_lead_to_units_iff (settings : Settings) (time : Timestamp)
    (files : List ParsedFile) (multiple : settings.singleFile = false)
    (distinct : Collision.find? settings files = none) :
    ∀ unit ∈ assemble settings time files, ∃ file ∈ files,
      unit = ofFile settings (Index.build (Layout.of settings) files) time file ∧
      ∀ statement ∈ importsOf (Layout.of settings) (Index.build (Layout.of settings) files) file,
        LeadsExactly settings time files unit statement := by
  intro unit isUnit
  obtain ⟨file, isFile, _, rfl⟩ := (mem_assemble multiple unit).mp isUnit
  refine ⟨file, isFile, rfl, fun statement isImport => ?_⟩
  have byComponents := exists_leadsTo_iff time Importable (destination_between_iff _) multiple
    distinct isImport
  refine ⟨?_, byComponents, ?_, fun accepted => ?_⟩
  · have filled := ((Import.ordered_collect _ _ _).names statement isImport).1
    obtain ⟨name, isName⟩ := List.exists_mem_of_ne_nil _ filled
    obtain ⟨target, held, _⟩ := exists_target_of_mem_importsOf isImport isName
    exact List.ne_nil_of_mem (List.mem_filterMap.mpr ⟨name, isName, held⟩)
  · exact exists_leadsTo_iff time
      (fun source target => Importable source target ∧
        ¬ target.withoutExtension.components <+: source.directory)
      (destinationOfText_between_iff _) multiple distinct isImport
  · refine ⟨fun ⟨_, leads⟩ => visible_of_leadsTo accepted isImport leads, fun visible => ?_⟩
    have importable : ∀ target ∈ statement.targets (Index.build (Layout.of settings) files),
        Importable ((Layout.of settings).unitPath file.relativePath) target := by
      rw [Import.forall_mem_targets] at visible ⊢
      intro name isName target held
      exact (importable_iff_of_accepted accepted held).mpr (visible name isName target held)
    obtain ⟨source, leads, _⟩ := byComponents.mpr importable
    exact ⟨source, leads⟩

/-- The import of a class from `User.cs` leads to the file of that. -/
theorem import_of_named_source_leads_to_unit :
    ∃ unit ∈ assemble intoOut ⟨0, 0⟩ [orderSource, userSource ⟨"User.cs".toList⟩],
      ∃ source, LeadsTo ModuleSpecifier.destination intoOut ⟨0, 0⟩
        [orderSource, userSource ⟨"User.cs".toList⟩] unit ⟨"./user".toList, ["User".toList]⟩
        source := by
  have isUnit : ofFile intoOut (Index.build (Layout.of intoOut)
      [orderSource, userSource ⟨"User.cs".toList⟩]) ⟨0, 0⟩ orderSource ∈
        assemble intoOut ⟨0, 0⟩ [orderSource, userSource ⟨"User.cs".toList⟩] :=
    ofFile_mem_assemble rfl List.mem_cons_self (by decide)
  refine ⟨_, isUnit, ?_⟩
  obtain ⟨file, isFile, same, leads⟩ :=
    imports_lead_to_units_iff intoOut ⟨0, 0⟩ _ rfl (by decide) _ isUnit
  rcases List.mem_pair.mp isFile with rfl | rfl
  · have isImport : ⟨"./user".toList, ["User".toList]⟩ ∈ importsOf (Layout.of intoOut)
        (Index.build (Layout.of intoOut) [orderSource, userSource ⟨"User.cs".toList⟩])
        orderSource := by
      decide
    exact ((leads _ isImport).ofAccepted (by decide)).mpr (by decide)
  · exact absurd (congrArg OutputUnit.path same) (by decide)

/-- The import of a class from `_.cs`, a name with nothing to convert, leads to no generated file,
though no two sources are turned into the same file. -/
theorem import_of_nameless_source_leads_nowhere :
    Collision.find? intoOut [orderSource, userSource ⟨"_.cs".toList⟩] = none ∧
      ∃ statement ∈ importsOf (Layout.of intoOut)
          (Index.build (Layout.of intoOut) [orderSource, userSource ⟨"_.cs".toList⟩]) orderSource,
        ∀ unit ∈ assemble intoOut ⟨0, 0⟩ [orderSource, userSource ⟨"_.cs".toList⟩],
          ModuleSpecifier.destination
              ((Layout.of intoOut).unitPath orderSource.relativePath).directory
              statement.specifier ≠
            unit.path.components := by
  refine ⟨by decide, ⟨"./.ts".toList, ["User".toList]⟩, by decide, ?_⟩
  intro unit isUnit
  obtain ⟨file, isFile, _, rfl⟩ := (mem_assemble rfl unit).mp isUnit
  rcases List.mem_pair.mp isFile with rfl | rfl <;> decide

end OutputUnit

end SharpTypes

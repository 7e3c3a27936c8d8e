/-
What is put together from a run. A name in the index belongs to a file of the run that declares it,
and if every source file gets a file of its own, the ones with declarations do. Source files without
a collision are told apart by the paths of what they are turned into.
-/

import Mathlib.Data.List.Basic
import Mathlib.Tactic.Common
import SharpTypes.Output.Unit
import SharpTypes.Proofs.FilePath

namespace SharpTypes

/-! ### The index -/

namespace Index

theorem lastPath?_append (name : List Char) (entries others : List (List Char × FilePath)) :
    lastPath? name (entries ++ others) = (lastPath? name others).or (lastPath? name entries) := by
  induction entries with
  | nil => rw [List.nil_append, lastPath?, Option.or_none]
  | cons entry rest inductionHypothesis =>
    rw [List.cons_append, lastPath?, inductionHypothesis, lastPath?]
    cases lastPath? name others <;> rfl

theorem lastPath?_entriesOf (layout : Layout) (file : ParsedFile) (name : List Char) :
    lastPath? name (entriesOf layout file) =
      if file.declares name then some (layout.unitPath file.relativePath) else none := by
  unfold entriesOf ParsedFile.declares
  induction file.declarations with
  | nil => rfl
  | cons declaration rest inductionHypothesis =>
    rw [List.map_cons, lastPath?, inductionHypothesis, List.any_cons]
    by_cases inRest : rest.any (fun other => other.name == name) = true
    · rw [if_pos inRest, inRest, Bool.or_true, if_pos rfl]
    · rw [if_neg inRest, Bool.eq_false_iff.mpr inRest, Bool.or_false]
      simp only [beq_iff_eq]

/-- The index has the path of the last file that declares a name. -/
theorem get?_build (layout : Layout) (files : List ParsedFile) (name : List Char) :
    (build layout files).get? name =
      (files.reverse.find? (·.declares name)).map fun file =>
        layout.unitPath file.relativePath := by
  unfold get? build
  induction files with
  | nil => rfl
  | cons file rest inductionHypothesis =>
    rw [List.flatMap_cons, lastPath?_append, lastPath?_entriesOf, inductionHypothesis,
      List.reverse_cons, List.find?_append]
    cases rest.reverse.find? (·.declares name) with
    | some later => rfl
    | none =>
      rw [Option.map_none, Option.none_or, Option.none_or, List.find?_singleton]
      split <;> rfl

/-- The path that the index has for a name is that of a file which declares it. -/
theorem exists_file_of_get? {layout : Layout} {files : List ParsedFile} {name : List Char}
    {path : FilePath} (held : (build layout files).get? name = some path) :
    ∃ file ∈ files, file.declares name = true ∧ layout.unitPath file.relativePath = path := by
  rw [get?_build] at held
  obtain ⟨file, found, same⟩ := Option.map_eq_some_iff.mp held
  have declares : file.declares name = true := by
    simpa using List.find?_some found
  exact ⟨file, List.mem_reverse.mp (List.mem_of_find?_eq_some found), declares, same⟩

/-- Every name that a file of the batch declares is in the index. -/
theorem exists_get?_of_declares {layout : Layout} {files : List ParsedFile} {file : ParsedFile}
    {name : List Char} (isFile : file ∈ files) (declares : file.declares name = true) :
    ∃ path, (build layout files).get? name = some path := by
  have isSome : (files.reverse.find? (·.declares name)).isSome = true :=
    List.find?_isSome.mpr ⟨file, List.mem_reverse.mpr isFile, declares⟩
  obtain ⟨last, found⟩ := Option.isSome_iff_exists.mp isSome
  exact ⟨_, by rw [get?_build, found]; rfl⟩

end Index

theorem ParsedFile.declarations_ne_nil {file : ParsedFile} {name : List Char}
    (declares : file.declares name = true) : file.declarations ≠ [] := by
  obtain ⟨_, member, _⟩ := List.any_eq_true.mp declares
  exact List.ne_nil_of_mem member

/-! ### The files of a run -/

namespace OutputUnit

variable {settings : Settings} {time : Timestamp} {files : List ParsedFile}

/-- The file that a source file of a batch is turned into, if it declares anything. -/
def unitOf? (settings : Settings) (time : Timestamp) (files : List ParsedFile)
    (file : ParsedFile) : Option OutputUnit :=
  if file.declarations.isEmpty then none
  else some (ofFile settings (Index.build (Layout.of settings) files) time file)

/-- Every source file gives its generated file, in its place. -/
theorem assemble_eq_filterMap (time : Timestamp) (files : List ParsedFile)
    (multiple : settings.singleFile = false) :
    assemble settings time files = files.filterMap (unitOf? settings time files) := by
  have chosen : files.filterMap (unitOf? settings time files) =
      (files.filter fun file => !file.declarations.isEmpty).map
        (ofFile settings (Index.build (Layout.of settings) files) time) := by
    rw [← List.filterMap_eq_map, List.filterMap_filter]
    refine List.filterMap_congr fun file _ => ?_
    unfold unitOf?
    cases file.declarations.isEmpty <;> rfl
  rw [chosen]
  unfold assemble
  dsimp only
  split
  case isTrue nothing =>
    rw [List.isEmpty_iff.mp nothing]
    rfl
  case isFalse _ => rw [multiple, if_neg Bool.false_ne_true]

theorem unitOf?_eq_some_iff {file : ParsedFile} {unit : OutputUnit} :
    unitOf? settings time files file = some unit ↔ file.declarations ≠ [] ∧
      ofFile settings (Index.build (Layout.of settings) files) time file = unit := by
  unfold unitOf?
  rw [ne_eq, ← List.isEmpty_iff]
  split
  case isTrue nothing => simp [nothing]
  case isFalse something => simp [something]

theorem mem_assemble (multiple : settings.singleFile = false) (unit : OutputUnit) :
    unit ∈ assemble settings time files ↔ ∃ file ∈ files, file.declarations ≠ [] ∧
      ofFile settings (Index.build (Layout.of settings) files) time file = unit := by
  rw [assemble_eq_filterMap time files multiple, List.mem_filterMap]
  simp only [unitOf?_eq_some_iff]

theorem exists_source_of_mem_assemble (multiple : settings.singleFile = false) {unit : OutputUnit}
    (isUnit : unit ∈ assemble settings time files) :
    ∃ source, unit.path = (Layout.of settings).unitPath source := by
  obtain ⟨file, _, _, rfl⟩ := (mem_assemble multiple unit).mp isUnit
  exact ⟨file.relativePath, rfl⟩

theorem ofFile_mem_assemble (multiple : settings.singleFile = false) {file : ParsedFile}
    (isFile : file ∈ files) (declaring : file.declarations ≠ []) :
    ofFile settings (Index.build (Layout.of settings) files) time file ∈
      assemble settings time files :=
  (mem_assemble multiple _).mpr ⟨file, isFile, declaring, rfl⟩

end OutputUnit

/-! ### The time of a run -/

theorem Timestamp.not_mem_padded {c : Char} (noDigit : c.isDigit = false) (width value : Nat) :
    c ∉ padded width value := by
  have zero : c ≠ '0' := by
    rintro rfl
    cases noDigit
  intro member
  rcases List.mem_append.mp member with filler | digit
  · exact zero (List.eq_of_mem_replicate filler)
  · rw [Nat.toList_repr] at digit
    rw [Nat.isDigit_of_mem_toDigits (by decide) (by decide) digit] at noDigit
    cases noDigit

/-- The written form of a point in time stands on one line. -/
theorem Timestamp.newline_not_mem_render (time : Timestamp) : '\n' ∉ time.render := by
  have number := Timestamp.not_mem_padded (c := '\n') rfl
  unfold render renderYear
  dsimp only
  split_ifs <;> simp [number]

/-- The header is written from the time in one line, and from what is the same at any time. -/
theorem fileHeader_eq (time : Timestamp) :
    fileHeader time = "/**\n * Auto-generated by cs2ts".toList ++ "\n * Generated at: ".toList ++
      time.render ++ '\n' :: " * Do not edit this file manually\n */".toList := by
  have opening : "/**\n * Auto-generated by cs2ts\n * Generated at: ".toList =
      "/**\n * Auto-generated by cs2ts".toList ++ "\n * Generated at: ".toList := by
    decide
  have closing : "\n * Do not edit this file manually\n */".toList =
      '\n' :: " * Do not edit this file manually\n */".toList := by
    decide
  unfold fileHeader
  rw [opening, closing]

namespace OutputUnit

/-- A file with the header of a run put in front. -/
def underHeader (time : Timestamp) (body : OutputUnit) : OutputUnit :=
  ⟨body.path, fileHeader time ++ body.contents⟩

theorem layOut_eq (header : List Char) (imports : List Import) (declarations : List (List Char)) :
    layOut header imports declarations = header ++ layOut [] imports declarations := by
  unfold layOut
  simp only [List.append_assoc, List.nil_append]

/-- Only the headers of generated files tell the time of the run. -/
theorem exists_bodies (settings : Settings) (files : List ParsedFile) :
    ∃ bodies : List OutputUnit, ∀ time,
      assemble settings time files = bodies.map (underHeader time) := by
  let declaring := files.filter fun file => !file.declarations.isEmpty
  by_cases nothing : declaring.isEmpty = true
  · exact ⟨[], fun time => if_pos nothing⟩
  by_cases multiple : settings.singleFile = true
  · refine ⟨[⟨(Layout.of settings).singleFilePath, layOut [] []
      ((singleFileDeclarations settings files).map
        (Declaration.render settings.memberNaming))⟩], fun time => ?_⟩
    unfold assemble
    dsimp only
    rw [if_neg nothing, if_pos multiple, single, layOut_eq]
    rfl
  · let index := Index.build (Layout.of settings) files
    refine ⟨declaring.map fun file => ⟨(Layout.of settings).unitPath file.relativePath,
      layOut [] (importsOf (Layout.of settings) index file)
        (file.declarations.map (Declaration.render settings.memberNaming))⟩, fun time => ?_⟩
    unfold assemble
    dsimp only
    rw [if_neg nothing, if_neg multiple, List.map_map]
    refine List.map_congr_left fun file _ => ?_
    rw [ofFile, layOut_eq]
    rfl

theorem length_assemble (settings : Settings) (time later : Timestamp) (files : List ParsedFile) :
    (assemble settings later files).length = (assemble settings time files).length := by
  obtain ⟨bodies, inFiles⟩ := exists_bodies settings files
  rw [inFiles, inFiles, List.length_map, List.length_map]

end OutputUnit

/-! ### A small run

Two sources, one of which refers to the other, for the instances of what is proved of all runs. -/

namespace OutputUnit

/-- A source file that refers to a class which another one declares. -/
def orderSource : ParsedFile :=
  ⟨⟨"Order.cs".toList⟩, ⟨"Order.cs".toList⟩, [⟨"Order".toList,
    .object ⟨[⟨"Buyer".toList, .reference "User".toList [], false, false⟩], none, [], []⟩⟩]⟩

/-- The source file with that class, at any path. -/
def userSource (path : FilePath) : ParsedFile :=
  ⟨path, path, [⟨"User".toList, .object ⟨[], none, [], []⟩⟩]⟩

/-- Settings in which only the output directory is set. -/
def intoOut : Settings := .forOutput ⟨"out".toList⟩

end OutputUnit

/-! ### Runs without a collision -/

namespace Collision

theorem pairwise_of_findAfter {layout : Layout} {owners : List (FilePath × FilePath)}
    {files : List ParsedFile} (distinct : findAfter layout owners files = none) :
    files.Pairwise (fun earlier later =>
        (layout.unitPath earlier.relativePath).components ≠
          (layout.unitPath later.relativePath).components) ∧
      ∀ owner ∈ owners, ∀ file ∈ files,
        owner.1.components ≠ (layout.unitPath file.relativePath).components := by
  induction files generalizing owners with
  | nil => exact ⟨.nil, nofun⟩
  | cons file rest inductionHypothesis =>
    rw [findAfter] at distinct
    split at distinct
    · cases distinct
    · next free =>
      obtain ⟨others, fromOwners⟩ := inductionHypothesis distinct
      obtain ⟨fromEarlier, fromFile⟩ := List.forall_mem_append.mp fromOwners
      refine ⟨List.pairwise_cons.mpr ⟨?_, others⟩, ?_⟩
      · intro later member
        exact fromFile _ (List.mem_singleton_self _) later member
      · intro owner isOwner
        refine List.forall_mem_cons.mpr ⟨?_, fromEarlier owner isOwner⟩
        intro same
        exact List.find?_eq_none.mp free owner isOwner (FilePath.same_iff.mpr same)

/-- Source files that are turned into the same file are the same. -/
theorem eq_of_components_eq {settings : Settings} {files : List ParsedFile}
    (multiple : settings.singleFile = false) (distinct : find? settings files = none)
    {first second : ParsedFile} (isFirst : first ∈ files) (isSecond : second ∈ files)
    (same : ((Layout.of settings).unitPath first.relativePath).components =
      ((Layout.of settings).unitPath second.relativePath).components) : first = second := by
  rw [find?, multiple, if_neg Bool.false_ne_true] at distinct
  let pathOf (file : ParsedFile) : List FilePath.Component :=
    ((Layout.of settings).unitPath file.relativePath).components
  have apart : files.Pairwise fun earlier later => pathOf earlier ≠ pathOf later :=
    (pairwise_of_findAfter distinct).1
  have told : ∀ ⦃first⦄, first ∈ files → ∀ ⦃second⦄, second ∈ files →
      pathOf first = pathOf second → first = second :=
    List.Pairwise.forall_of_forall_of_flip (fun _ _ _ => rfl)
      (apart.imp fun different same => absurd same different)
      (apart.imp fun different same => absurd (Eq.symm same) different)
  exact told isFirst isSecond same

end Collision

end SharpTypes

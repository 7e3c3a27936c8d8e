/-
Which imports a generated file has. A file imports exactly the names that its classes refer to, at
any depth, and that neither the file, nor the parameters of the referring class, nor the table of
primitives account for, as far as the index has them elsewhere. Each name stands once, under the
specifier of the file that holds it, and both levels of the list increase.
-/

import Mathlib.Tactic.Common
import SharpTypes.Proofs.Output.Assembly
import SharpTypes.Proofs.Output.ImportList

namespace SharpTypes

/-! ### References -/

namespace TargetType

/-- Somewhere in the type, the keys of records aside, stands a reference to the name. -/
inductive Mentions (name : List Char) : TargetType → Prop where
  | here (arguments : List Resolved) : Mentions name (.reference name arguments)
  | argument (other : List Char) {arguments : List Resolved} {argument : Resolved}
      (isArgument : argument ∈ arguments) (mentions : Mentions name argument.type) :
      Mentions name (.reference other arguments)
  | value (key : MapKey) {value : Resolved} (mentions : Mentions name value.type) :
      Mentions name (.record key value)

theorem referencesOf_eq (type : Resolved) : referencesOf type = type.type.references := by
  rw [referencesOf]

theorem mem_referencesOfAll {name : List Char} {arguments : List Resolved} :
    name ∈ referencesOfAll arguments ↔ ∃ argument ∈ arguments, name ∈ argument.type.references := by
  induction arguments with
  | nil => simp [referencesOfAll]
  | cons first rest inductionHypothesis =>
    rw [referencesOfAll, List.mem_append, inductionHypothesis, List.exists_mem_cons_iff,
      referencesOf_eq]

mutual

theorem mentions_of_mem_references {name : List Char} :
    (type : TargetType) → name ∈ type.references → Mentions name type
  | .primitive _, member => nomatch member
  | .reference other arguments, member => by
    rcases List.mem_cons.mp member with rfl | inArguments
    · exact .here arguments
    · obtain ⟨argument, isArgument, mentions⟩ := exists_mentions_of_mem arguments inArguments
      exact .argument other isArgument mentions
  | .record key ⟨type, _⟩, member => .value key (mentions_of_mem_references type member)

theorem exists_mentions_of_mem {name : List Char} :
    (arguments : List Resolved) → name ∈ referencesOfAll arguments →
      ∃ argument ∈ arguments, Mentions name argument.type
  | [], member => nomatch member
  | ⟨type, isArray⟩ :: rest, member => by
    rcases List.mem_append.mp member with inFirst | inRest
    · exact ⟨⟨type, isArray⟩, List.mem_cons_self, mentions_of_mem_references type inFirst⟩
    · obtain ⟨argument, isArgument, mentions⟩ := exists_mentions_of_mem rest inRest
      exact ⟨argument, List.mem_cons_of_mem _ isArgument, mentions⟩

end

theorem mem_references_iff {name : List Char} {type : TargetType} :
    name ∈ type.references ↔ Mentions name type := by
  refine ⟨mentions_of_mem_references type, fun mentions => ?_⟩
  induction mentions with
  | here arguments => exact List.mem_cons_self
  | argument other isArgument _ inductionHypothesis =>
    exact List.mem_cons_of_mem _ (mem_referencesOfAll.mpr ⟨_, isArgument, inductionHypothesis⟩)
  | value key _ inductionHypothesis => rwa [references, referencesOf_eq]

end TargetType

/-- The class refers to the name: in its base type, in an argument of that, or in a property. -/
def ClassShape.RefersTo (shape : ClassShape) (name : List Char) : Prop :=
  (∃ text ∈ shape.baseTexts, (Source.resolve text).type.Mentions name) ∨
    ∃ member ∈ shape.members, member.type.Mentions name

theorem ClassShape.mem_references {shape : ClassShape} {name : List Char} :
    name ∈ shape.references ↔ shape.RefersTo name := by
  simp only [references, List.mem_append, List.mem_flatMap, TargetType.mem_references_iff, RefersTo]

/-- The classes of the file need the name from outside: a class that does not have it as a type
parameter refers to it, and it is neither declared in the file nor built in. -/
structure ParsedFile.Needs (file : ParsedFile) (name : List Char) : Prop where
  referred : ∃ shape, (∃ declaration ∈ file.declarations, declaration.body = .object shape) ∧
    shape.RefersTo name ∧ name ∉ shape.parameters
  undeclared : ∀ declaration ∈ file.declarations, declaration.name ≠ name
  notBuiltIn : Primitive.ofName? name = none

theorem ParsedFile.mem_classes {file : ParsedFile} {shape : ClassShape} :
    shape ∈ file.classes ↔ ∃ declaration ∈ file.declarations, declaration.body = .object shape := by
  simp only [classes, List.mem_filterMap]
  refine exists_congr fun declaration => and_congr_right fun _ => ?_
  cases declaration.body <;> simp

theorem ParsedFile.declares_eq_false {file : ParsedFile} {name : List Char} :
    file.declares name = false ↔ ∀ declaration ∈ file.declarations, declaration.name ≠ name := by
  simp [declares]

theorem ParsedFile.mem_outsideReferences {file : ParsedFile} {name : List Char} :
    name ∈ file.classes.flatMap file.outsideReferences ↔ file.Needs name := by
  have inShape (shape : ClassShape) : name ∈ file.outsideReferences shape ↔
      shape.RefersTo name ∧ (file.declares name = false ∧ name ∉ shape.parameters) ∧
        Primitive.ofName? name = none := by
    simp [outsideReferences, ClassShape.mem_references, List.mem_filter]
  rw [List.mem_flatMap]
  constructor
  · rintro ⟨shape, isClass, member⟩
    obtain ⟨refers, ⟨undeclared, noParameter⟩, notBuiltIn⟩ := (inShape shape).mp member
    exact ⟨⟨shape, mem_classes.mp isClass, refers, noParameter⟩, declares_eq_false.mp undeclared,
      notBuiltIn⟩
  · rintro ⟨⟨shape, isClass, refers, noParameter⟩, undeclared, notBuiltIn⟩
    exact ⟨shape, mem_classes.mpr isClass, (inShape shape).mpr
      ⟨refers, ⟨declares_eq_false.mpr undeclared, noParameter⟩, notBuiltIn⟩⟩

/-! ### The imports of a file -/

/-- The imports list a name under a specifier exactly if the source needs the name, the index has it
in another file than the one at the path, and the specifier leads from there to that file. Every
name is listed once, no import is empty, and specifiers and names increase. -/
structure Import.AreExact (index : Index) (file : ParsedFile) (path : FilePath)
    (imports : List Import) : Prop where
  listed : ∀ specifier name, Import.Lists imports specifier name ↔ file.Needs name ∧
    ∃ target, index.get? name = some target ∧ target.components ≠ path.components ∧
      specifier = ModuleSpecifier.between path target
  once : (imports.flatMap Import.names).Nodup
  specifiers : imports.Pairwise fun earlier later => earlier.specifier < later.specifier
  filled : ∀ statement ∈ imports, statement.names ≠ []
  names : ∀ statement ∈ imports, statement.names.Pairwise (· < ·)

namespace OutputUnit

theorem areExact_importsOf (layout : Layout) (index : Index) (file : ParsedFile) :
    Import.AreExact index file (layout.unitPath file.relativePath)
      (importsOf layout index file) := by
  have ordered := Import.ordered_collect index (layout.unitPath file.relativePath)
    (file.classes.flatMap file.outsideReferences)
  refine ⟨fun specifier name => ?_, Import.nodup_names_collect _ _ _, ordered.specifiers,
    fun statement isImport => (ordered.names statement isImport).1,
    fun statement isImport => (ordered.names statement isImport).2⟩
  rw [importsOf, Import.lists_collect, ParsedFile.mem_outsideReferences]
  refine and_congr_right fun _ => exists_congr fun target => ?_
  rw [Index.outside?_eq_some, and_assoc, ← Bool.not_eq_true, FilePath.same_iff]

/-- In a run with a file for every source, the generated file of a source with declarations holds
the header, a line for every import, and the declarations. The imports are exactly those that the
source needs; where it needs none, there is no block of imports. -/
theorem imports_exact (settings : Settings) (time : Timestamp) (files : List ParsedFile)
    (file : ParsedFile) (multiple : settings.singleFile = false) (isFile : file ∈ files)
    (declaring : file.declarations ≠ []) :
    ∃ unit ∈ assemble settings time files, ∃ imports : List Import,
      unit.path = (Layout.of settings).unitPath file.relativePath ∧
      unit.contents = fileHeader time ++ "\n\n".toList ++
        (if imports = [] then []
          else ['\n'].intercalate (imports.map fun statement =>
              "import type \x7b ".toList ++ ", ".toList.intercalate statement.names ++
                " \x7d from '".toList ++ statement.specifier ++ "';".toList) ++
            "\n\n".toList) ++
        "\n\n".toList.intercalate
          (file.declarations.map (Declaration.render settings.memberNaming)) ++ ['\n'] ∧
      Import.AreExact (Index.build (Layout.of settings) files) file unit.path imports := by
  refine ⟨_, ofFile_mem_assemble multiple isFile declaring, importsOf (Layout.of settings)
    (Index.build (Layout.of settings) files) file, rfl, ?_, areExact_importsOf _ _ _⟩
  simp only [← List.isEmpty_iff]
  rfl

/-- A source whose one class refers to three classes of two other files, to one of them twice. -/
def basketSource : ParsedFile :=
  ⟨⟨"Basket.cs".toList⟩, ⟨"Basket.cs".toList⟩, [⟨"Basket".toList,
    .object ⟨[⟨"Buyer".toList, .reference "User".toList [], false, false⟩,
      ⟨"Lines".toList, .record .string ⟨.reference "Item".toList [], true⟩, false, false⟩,
      ⟨"Best".toList, .reference "Item".toList [], false, false⟩,
      ⟨"Total".toList, .reference "Price".toList [], false, true⟩], none, [], []⟩⟩]⟩

/-- A source that declares two of these classes. -/
def itemSource : ParsedFile :=
  ⟨⟨"Models/Item.cs".toList⟩, ⟨"Models/Item.cs".toList⟩,
    [⟨"Price".toList, .object ⟨[], none, [], []⟩⟩, ⟨"Item".toList, .object ⟨[], none, [], []⟩⟩]⟩

/-- The file of the first of three sources imports what it takes from the others, with the names of
one file in one import. -/
theorem imports_exact_for_basket :
    let files := [basketSource, userSource ⟨"User.cs".toList⟩, itemSource]
    let text := fileHeader ⟨0, 0⟩ ++ "\n\n".toList ++
      "import type \x7b Item, Price \x7d from './models/item';\n".toList ++
      "import type \x7b User \x7d from './user';\n\n".toList ++
      "export interface Basket \x7b\n".toList ++
      "  buyer: User;\n  lines: Record<string, Item[]>;\n".toList ++
      "  best: Item;\n  total: Price | null;\n\x7d\n".toList
    ∃ unit ∈ assemble intoOut ⟨0, 0⟩ files, ∃ imports : List Import, unit.contents = text ∧
      Import.AreExact (Index.build (Layout.of intoOut) files) basketSource unit.path imports ∧
      Import.Lists imports "./models/item".toList "Item".toList := by
  intro files text
  obtain ⟨unit, isUnit, imports, path, _, exactly⟩ :=
    imports_exact intoOut ⟨0, 0⟩ files basketSource rfl List.mem_cons_self (by decide)
  have written : ∀ other ∈ assemble intoOut ⟨0, 0⟩ files,
      other.path = (Layout.of intoOut).unitPath basketSource.relativePath →
        other.contents = text := by
    decide +kernel
  have needed : basketSource.Needs "Item".toList := by
    refine ⟨⟨_, ⟨_, List.mem_cons_self, rfl⟩, .inr ⟨⟨"Best".toList, .reference "Item".toList [],
      false, false⟩, by decide, .here []⟩, by decide⟩, by decide, by decide⟩
  refine ⟨unit, isUnit, imports, written unit isUnit path, exactly,
    (exactly.listed _ _).mpr ⟨needed, ⟨"out/models/item.ts".toList⟩, by decide, ?_, ?_⟩⟩
  · rw [path]
    decide
  · rw [path]
    decide

end OutputUnit

end SharpTypes

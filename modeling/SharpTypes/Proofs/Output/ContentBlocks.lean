/-
The blocks of generated files. If nothing that the declarations are written from goes over a line
end, a generated file is told apart at its blank lines: it has its header, one block of imports if
it imports anything, and a block for each declaration, in order. A module specifier goes over a line
end only if it leads from a file whose name is itself a path from the root down into the output
directory, and it has a blank line only if the path of that directory has one.
-/

import Mathlib.Tactic.Common
import SharpTypes.Proofs.Declaration.Line
import SharpTypes.Proofs.Output.Relocation
import SharpTypes.Proofs.Output.SingleFile
import SharpTypes.Proofs.Text.Standing

namespace SharpTypes

open Text FilePath

/-! ### Line ends in paths -/

namespace FilePath

theorem isInfix_ofParts {cut : Parts} {piece : List Char} (isPiece : piece ∈ cut.pieces) :
    piece <:+: (ofParts cut).text := by
  have inside : piece <:+: Text.join ['/'] cut.pieces := isInfix_join_of_mem ['/'] isPiece
  obtain ⟨anchor, pieces⟩ := cut
  cases anchor with
  | root => exact inside.trans (List.suffix_cons _ _).isInfix
  | current =>
    cases pieces with
    | nil => cases isPiece
    | cons first rest => exact inside.trans (List.suffix_append ['.', '/'] _).isInfix
  | free => exact inside

/-- A name among the components of a path is a part of its text. -/
theorem isInfix_of_mem_components {path : FilePath} {name : List Char}
    (member : .name name ∈ path.components) : name <:+: path.text := by
  have inside : name <:+: (ofParts path.parts).text :=
    isInfix_ofParts (mem_pieces_of_mem_components member)
  rwa [ofParts_parts] at inside

theorem noBlankLine_child {base : FilePath} {name : List Char} (apart : NoBlankLine base.text)
    (single : '\n' ∉ name) : NoBlankLine (base.child name).text := by
  unfold child FilePath.join
  split
  · split
    · exact apart.append_of_not_mem single
    · exact apart.append_of_not_mem (List.not_mem_cons_of_ne_of_not_mem (by decide) single)
  · exact noBlankLine_of_not_mem single

end FilePath

namespace Layout

variable {layout : Layout} {source : FilePath}

theorem newline_not_mem_fileName (layout : Layout) (source : FilePath) :
    '\n' ∉ layout.fileName source :=
  List.not_mem_append (NamingConvention.newline_not_mem_apply _ _) (by decide)

/-- The path of a generated file has no blank line but from the output directory. -/
theorem noBlankLine_unitPath
    (apart : (layout.fileName source).head? = some '/' ∨ NoBlankLine layout.root.text) :
    NoBlankLine (layout.unitPath source).text := by
  have single := newline_not_mem_fileName layout source
  rcases apart with atRoot | apart
  · have alone : layout.unitPath source = ⟨layout.fileName source⟩ := by
      obtain ⟨rest, same⟩ := List.head?_eq_some_iff.mp atRoot
      rw [unitPath, same]
      rfl
    rw [alone]
    exact noBlankLine_of_not_mem single
  · refine noBlankLine_child ?_ single
    generalize directoryNames source = names
    generalize layout.root = base at apart ⊢
    induction names generalizing base with
    | nil => exact apart
    | cons first rest inductionHypothesis =>
      exact inductionHypothesis _
        (noBlankLine_child apart (NamingConvention.newline_not_mem_apply _ _))

end Layout

namespace ModuleSpecifier

theorem noBlankLine_of_segment? {component : Component} {segment : List Char}
    (apart : ∀ name, component = .name name → NoBlankLine name)
    (written : segment? component = some segment) : NoBlankLine segment := by
  cases component with
  | root =>
    obtain rfl := Option.some.inj written
    decide
  | current => cases written
  | parent =>
    obtain rfl := Option.some.inj written
    decide
  | name name =>
    obtain rfl := Option.some.inj written
    exact apart name rfl

/-- The specifier of a generated file has no blank line but from the path of that file. -/
theorem noBlankLine_between {source target : FilePath} {start : List Component}
    {directories : List (List Char)} {stem : List Char}
    (imported : target.Generated start directories stem) (apart : NoBlankLine target.text) :
    NoBlankLine (between source target) := by
  have inComponents {name : List Char} (member : .name name ∈ target.components) :
      NoBlankLine name :=
    apart.of_infix (isInfix_of_mem_components member)
  have inSegments : ∀ segment ∈ segments target.withoutExtension, NoBlankLine segment := by
    intro segment isSegment
    obtain ⟨component, isComponent, written⟩ := List.mem_filterMap.mp isSegment
    refine noBlankLine_of_segment? ?_ written
    rintro name rfl
    rw [imported.components_withoutExtension] at isComponent
    rcases List.mem_append.mp isComponent with early | last
    · refine inComponents ?_
      rw [imported.components]
      exact List.mem_append_left _ early
    · have isLast : name = if stem = [] then ".ts".toList else stem := by simpa using last
      rw [isLast]
      split
      · decide
      · refine NoBlankLine.of_infix (inComponents ?_) (List.prefix_append stem ".ts".toList).isInfix
        rw [imported.components]
        exact List.mem_concat_self
  have inWay : ∀ segment ∈ way source target, NoBlankLine segment := by
    obtain ⟨common, _, sameBelow⟩ := exists_common_of_apart ((source.parent?.map segments).getD [])
      (segments target.withoutExtension)
    intro segment isSegment
    rcases List.mem_append.mp isSegment with up | down
    · obtain ⟨_, _, rfl⟩ := List.mem_map.mp up
      decide
    · refine inSegments segment ?_
      rw [sameBelow]
      exact List.mem_append_right common down
  have joined : NoBlankLine (Text.join ['/'] (way source target)) :=
    noBlankLine_join (by decide) inWay
  rw [between_eq]
  split
  · exact joined
  · exact joined.prepend_of_not_mem (by decide)

end ModuleSpecifier

/-! ### Imports -/

/-- An import has no empty line, though its specifier may go over line ends. -/
theorem Import.isParagraph_render {statement : Import}
    (names : ∀ name ∈ statement.names, '\n' ∉ name)
    (apart : NoBlankLine statement.specifier) : IsParagraph statement.render := by
  have inFront : '\n' ∉ "import type \x7b ".toList ++ Text.join ", ".toList statement.names ++
      " \x7d from '".toList :=
    List.not_mem_append
      (List.not_mem_append (by decide) (newline_not_mem_join (by decide) names)) (by decide)
  exact apart.isParagraph_between inFront (by decide)
    (List.append_ne_nil_of_right_ne_nil _ (by decide)) (by decide)

namespace OutputUnit

variable {settings : Settings} {files : List ParsedFile} {file : ParsedFile} {statement : Import}

/-- Only a file whose name is itself a path from the root may import by a specifier with a blank
line, and only if the path of the output directory has one. -/
theorem noBlankLine_specifier
    (apart : ((Layout.of settings).fileName file.relativePath).head? = some '/' →
      NoBlankLine settings.outputPath.text)
    (isImport : statement ∈
      importsOf (Layout.of settings) (Index.build (Layout.of settings) files) file) :
    NoBlankLine statement.specifier := by
  have filled := ((Import.ordered_collect _ _ _).names statement isImport).1
  obtain ⟨name, isName⟩ := List.exists_mem_of_ne_nil _ filled
  obtain ⟨target, held, made⟩ := exists_target_of_mem_importsOf isImport isName
  obtain ⟨other, _, _, rfl⟩ := Index.exists_file_of_get? held
  rw [made]
  by_cases fromRoot : ((Layout.of settings).fileName file.relativePath).head? = some '/'
  · obtain ⟨_, _, imported⟩ := (Layout.of settings).exists_generated_unitPath other.relativePath
    exact ModuleSpecifier.noBlankLine_between imported
      (Layout.noBlankLine_unitPath (.inr (apart fromRoot)))
  by_cases toRoot : ((Layout.of settings).fileName other.relativePath).head? = some '/'
  · obtain ⟨_, _, imported⟩ := (Layout.of settings).exists_generated_unitPath other.relativePath
    exact ModuleSpecifier.noBlankLine_between imported (Layout.noBlankLine_unitPath (.inl toRoot))
  · -- Below the output directory, the specifier is the one for any other output directory.
    have importing := Layout.lieAlike_unitPath fromRoot settings.outputPath ⟨"out".toList⟩
    have imported := Layout.lieAlike_unitPath toRoot settings.outputPath ⟨"out".toList⟩
    have moved := importing.between_eq imported
    obtain ⟨_, _, generated⟩ :=
      (Layout.of (settings.into ⟨"out".toList⟩)).exists_generated_unitPath other.relativePath
    have kept : NoBlankLine (ModuleSpecifier.between
        ((Layout.of (settings.into ⟨"out".toList⟩)).unitPath file.relativePath)
        ((Layout.of (settings.into ⟨"out".toList⟩)).unitPath other.relativePath)) :=
      ModuleSpecifier.noBlankLine_between generated
        (Layout.noBlankLine_unitPath (.inr (show NoBlankLine "out".toList by decide)))
    rw [← moved] at kept
    exact kept

/-- What is imported has a name that some file declares. -/
theorem newline_not_mem_names
    (unbroken : ∀ file ∈ files, ∀ declaration ∈ file.declarations, declaration.IsUnbroken)
    (isImport : statement ∈
      importsOf (Layout.of settings) (Index.build (Layout.of settings) files) file) :
    ∀ name ∈ statement.names, '\n' ∉ name := by
  intro name isName
  obtain ⟨_, held, _⟩ := exists_target_of_mem_importsOf isImport isName
  obtain ⟨other, isOther, declares, _⟩ := Index.exists_file_of_get? held
  obtain ⟨declaration, isDeclaration, same⟩ := List.any_eq_true.mp declares
  obtain rfl : declaration.name = name := by simpa using same
  exact unbroken other isOther declaration isDeclaration _ List.mem_cons_self

/-! ### Blocks -/

theorem isParagraph_fileHeader (time : Timestamp) : IsParagraph (fileHeader time) := by
  have lines : fileHeader time = "/**\n * Auto-generated by cs2ts".toList ++
      '\n' :: ((" * Generated at: ".toList ++ time.render) ++
        '\n' :: " * Do not edit this file manually\n */".toList) := by
    rw [fileHeader_eq]
    simp only [List.append_assoc]
    rfl
  have dated : IsParagraph (" * Generated at: ".toList ++ time.render) :=
    isParagraph_of_not_mem (List.not_mem_append (by decide) time.newline_not_mem_render)
      (List.append_ne_nil_of_left_ne_nil (by decide) _)
  have opening : IsParagraph "/**\n * Auto-generated by cs2ts".toList := by
    unfold IsParagraph
    decide
  have closing : IsParagraph " * Do not edit this file manually\n */".toList := by
    unfold IsParagraph
    decide
  rw [lines]
  exact opening.append_newline (dated.append_newline closing)

/-- The blocks of imports: one, or none if there are no imports. -/
def importBlocks (imports : List Import) : List (List Char) :=
  if imports.isEmpty then [] else [Text.join ['\n'] (imports.map Import.render)]

/-- The blocks of a file: the header, the imports if there are any, and the declarations. -/
def blocks (settings : Settings) (time : Timestamp) (imports : List Import)
    (declarations : List Declaration) : List (List Char) :=
  fileHeader time ::
    (importBlocks imports ++ declarations.map (Declaration.render settings.memberNaming))

/-- A file is its blocks with blank lines between neighbours, and a line end. -/
theorem textOf_importBlock (settings : Settings) (time : Timestamp) (imports : List Import)
    {declarations : List Declaration} (notEmpty : declarations ≠ []) :
    textOf settings time (importBlock imports) declarations =
      Text.join "\n\n".toList (blocks settings time imports declarations) ++ ['\n'] := by
  have written : declarations.map (Declaration.render settings.memberNaming) ≠ [] := by
    simpa using notEmpty
  have below (first : List Char) {rest : List (List Char)} (more : rest ≠ []) :
      Text.join "\n\n".toList (first :: rest) =
        first ++ "\n\n".toList ++ Text.join "\n\n".toList rest := by
    rw [← List.singleton_append, join_append _ (List.cons_ne_nil _ _) more, join_singleton]
  unfold textOf importBlock blocks importBlocks
  split
  · rw [List.nil_append, below _ written, List.append_nil]
  · rw [List.singleton_append, below _ (List.cons_ne_nil _ _), below _ written]
    simp only [List.append_assoc]

/-- A text that is told apart at its blank lines, but for a last line end: it has the blocks of a
file with these imports and declarations, and each declaration has its lines. -/
structure FallsInto (settings : Settings) (time : Timestamp) (imports : List Import)
    (declarations : List Declaration) (contents : List Char) : Prop where
  ended : contents.getLast? = some '\n'
  blocks : paragraphs contents.dropLast = blocks settings time imports declarations
  lines : ∀ declaration ∈ declarations, linesOf (declaration.render settings.memberNaming) =
    declaration.lines settings.memberNaming

/-- Where no declaration goes over a line end by itself and no import has a blank line, a file is
told apart. -/
theorem fallsInto_textOf {time : Timestamp} {imports : List Import}
    {declarations : List Declaration} (notEmpty : declarations ≠ [])
    (unbroken : ∀ declaration ∈ declarations, declaration.IsUnbroken)
    (whole : ∀ statement ∈ imports, IsParagraph statement.render) :
    FallsInto settings time imports declarations
      (textOf settings time (importBlock imports) declarations) := by
  have each : ∀ block ∈ blocks settings time imports declarations, IsParagraph block := by
    refine List.forall_mem_cons.mpr ⟨isParagraph_fileHeader time, ?_⟩
    refine List.forall_mem_append.mpr ⟨?_, ?_⟩
    · unfold importBlocks
      split
      · exact nofun
      · next filled =>
        refine List.forall_mem_singleton.mpr (isParagraph_join (by simpa using filled) ?_)
        intro line isLine
        obtain ⟨statement, isImport, rfl⟩ := List.mem_map.mp isLine
        exact whole statement isImport
    · intro block isBlock
      obtain ⟨declaration, isDeclaration, rfl⟩ := List.mem_map.mp isBlock
      exact Declaration.isParagraph_render _ (unbroken declaration isDeclaration)
  rw [textOf_importBlock settings time imports notEmpty]
  refine ⟨List.getLast?_concat, ?_, fun declaration isDeclaration =>
    Declaration.linesOf_render _ (unbroken declaration isDeclaration)⟩
  rw [List.dropLast_concat]
  exact paragraphs_join (List.cons_ne_nil _ _) each

/-! ### Whole runs -/

/-- If no declaration of a batch is written from a text that goes over a line end, the generated
files are told apart at their blank lines: the one file into all declarations, and the file of a
source file into its imports and its declarations. Excepted is a file whose name is itself a path
from the root, if the path of the output directory has a blank line; settings without a problem make
no such file. -/
theorem contents_fall_into_blocks (settings : Settings) (time : Timestamp) (files : List ParsedFile)
    (unbroken : ∀ file ∈ files, ∀ declaration ∈ file.declarations, declaration.IsUnbroken) :
    (settings.singleFile = true → ∀ unit ∈ assemble settings time files,
      FallsInto settings time [] (singleFileDeclarations settings files) unit.contents) ∧
    (settings.singleFile = false → ∀ unit ∈ assemble settings time files, ∃ file ∈ files,
      unit = ofFile settings (Index.build (Layout.of settings) files) time file ∧
      ((((Layout.of settings).fileName file.relativePath).head? = some '/' →
          NoBlankLine settings.outputPath.text) →
        FallsInto settings time
          (importsOf (Layout.of settings) (Index.build (Layout.of settings) files) file)
          file.declarations unit.contents)) ∧
    (settings.problem? = none → StaysBelow settings files) := by
  refine ⟨fun together unit isUnit => ?_, fun apart unit isUnit => ?_,
    fun accepted => staysBelow_of_accepted accepted files⟩
  · by_cases declaring : ∃ file ∈ files, file.declarations ≠ []
    · rw [assemble_together time together declaring, List.mem_singleton] at isUnit
      have permutation := singleFileDeclarations_perm settings files
      have notEmpty : singleFileDeclarations settings files ≠ [] := by
        obtain ⟨file, isFile, filled⟩ := declaring
        obtain ⟨declaration, isDeclaration⟩ := List.exists_mem_of_ne_nil _ filled
        exact List.ne_nil_of_mem (permutation.mem_iff.mpr
          (List.mem_flatMap.mpr ⟨file, isFile, isDeclaration⟩))
      rw [isUnit, contents_single]
      refine fallsInto_textOf notEmpty (fun declaration isDeclaration => ?_) nofun
      obtain ⟨file, isFile, declares⟩ :=
        List.mem_flatMap.mp (permutation.mem_iff.mp isDeclaration)
      exact unbroken file isFile declaration declares
    · have noFiles : (files.filter fun file => !file.declarations.isEmpty).isEmpty = true := by
        simpa using declaring
      rw [assemble, noFiles] at isUnit
      cases isUnit
  · obtain ⟨file, isFile, declaring, rfl⟩ := (mem_assemble apart unit).mp isUnit
    refine ⟨file, isFile, rfl, fun outside => ?_⟩
    rw [contents_ofFile]
    refine fallsInto_textOf declaring (unbroken file isFile) fun statement isImport => ?_
    exact Import.isParagraph_render (newline_not_mem_names unbroken isImport)
      (noBlankLine_specifier outside isImport)

/-- The small run into a directory whose path has a blank line. The file of the order has three
blocks. -/
theorem contents_fall_into_blocks_for_order :
    let settings := intoOut.into ⟨"x\n\ny".toList⟩
    let files := [orderSource, userSource ⟨"User.cs".toList⟩]
    (∀ file ∈ files, ∀ declaration ∈ file.declarations, declaration.IsUnbroken) ∧
      ∃ unit ∈ assemble settings ⟨0, 0⟩ files, FallsInto settings ⟨0, 0⟩
        [⟨"./user".toList, ["User".toList]⟩] orderSource.declarations unit.contents := by
  intro settings files
  have unbroken : ∀ file ∈ files, ∀ declaration ∈ file.declarations, declaration.IsUnbroken := by
    decide
  have isUnit : ofFile settings (Index.build (Layout.of settings) files) ⟨0, 0⟩ orderSource ∈
      assemble settings ⟨0, 0⟩ files :=
    ofFile_mem_assemble rfl List.mem_cons_self (by decide)
  have imports : importsOf (Layout.of settings) (Index.build (Layout.of settings) files)
      orderSource = [⟨"./user".toList, ["User".toList]⟩] := by
    decide
  refine ⟨unbroken, _, isUnit, ?_⟩
  obtain ⟨file, isFile, same, falls⟩ :=
    (contents_fall_into_blocks settings ⟨0, 0⟩ files unbroken).2.1 rfl _ isUnit
  rcases List.mem_pair.mp isFile with rfl | rfl
  · rw [← imports]
    exact falls (by decide)
  · exact absurd (congrArg OutputUnit.path same) (by decide)

/-- With a slash in the suffix, a source without a name gets a file at the root. If the path of the
output directory has a blank line, so has the import of a file in there, and it is two blocks. -/
theorem import_from_root_falls_apart :
    let settings := { intoOut.into ⟨"x\n\ny".toList⟩ with fileSuffix := some "/a".toList }
    let file : ParsedFile :=
      ⟨⟨"_.cs".toList⟩, ⟨"_.cs".toList⟩, [⟨"User".toList, .object
        ⟨[⟨"Last".toList, .reference "Order".toList [], false, false⟩], none, [], []⟩⟩]⟩
    let files := [file, ⟨⟨"Order.cs".toList⟩, ⟨"Order.cs".toList⟩,
      [⟨"Order".toList, .object ⟨[], none, [], []⟩⟩]⟩]
    let index := Index.build (Layout.of settings) files
    (∀ file ∈ files, ∀ declaration ∈ file.declarations, declaration.IsUnbroken) ∧
      ofFile settings index ⟨0, 0⟩ file ∈ assemble settings ⟨0, 0⟩ files ∧
      paragraphs (ofFile settings index ⟨0, 0⟩ file).contents.dropLast ≠
        blocks settings ⟨0, 0⟩ (importsOf (Layout.of settings) index file) file.declarations := by
  intro settings file files index
  refine ⟨by decide, ofFile_mem_assemble rfl List.mem_cons_self (by decide), fun same => ?_⟩
  have four : (paragraphs (ofFile settings index ⟨0, 0⟩ file).contents.dropLast).length = 4 := by
    decide +kernel
  rw [same] at four
  revert four
  decide +kernel

end OutputUnit

end SharpTypes

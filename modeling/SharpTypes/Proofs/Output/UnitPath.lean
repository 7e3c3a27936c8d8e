/-
The components of output paths. A generated file lies below the output directory, in directories
whose names are plain, and its own name ends in `.ts` and holds no other dot. Only a suffix with a
slash in it can lead elsewhere, and settings with such a suffix are refused.
-/

import Mathlib.Data.List.Basic
import Mathlib.Tactic.Common
import SharpTypes.Output.Layout
import SharpTypes.Proofs.FilePath
import SharpTypes.Proofs.Naming
import SharpTypes.Proofs.Text.Blank

namespace SharpTypes

open Text

namespace FilePath

/-- A path that goes from a start through directories to a file whose name ends in `.ts` and holds
no other dot. -/
structure Generated (path : FilePath) (start : List Component) (directories : List (List Char))
    (stem : List Char) : Prop where
  segments : ∀ name ∈ directories, IsSegment name
  slashFree : '/' ∉ stem
  dotFree : '.' ∉ stem
  components : path.components =
    start ++ directories.map Component.name ++ [.name (stem ++ ".ts".toList)]

theorem componentOf?_of_dotFree {piece : List Char} (notEmpty : piece ≠ [])
    (dotFree : '.' ∉ piece) :
    componentOf? piece = Option.some (.name piece) := by
  have notIdle : isIdle piece = false := by
    rw [isIdle, Bool.or_eq_false_iff, beq_eq_false_iff_ne, beq_eq_false_iff_ne]
    refine ⟨notEmpty, ?_⟩
    rintro rfl
    exact dotFree List.mem_cons_self
  refine componentOf?_eq_name_iff.mpr ⟨notIdle, ?_, rfl⟩
  rintro rfl
  exact dotFree List.mem_cons_self

/-- An ordinary name: there is something of it, and it holds no slash and no dot. -/
structure IsPlain (name : List Char) : Prop where
  filled : name ≠ []
  slashFree : '/' ∉ name
  dotFree : '.' ∉ name

theorem IsPlain.named {name : List Char} (plain : IsPlain name) :
    componentOf? name = some (.name name) :=
  componentOf?_of_dotFree plain.filled plain.dotFree

theorem IsPlain.isSegment {name : List Char} (plain : IsPlain name) : IsSegment name :=
  ⟨plain.slashFree, plain.named⟩

/-- Pieces without dots are plain names, but for the empty ones, which mean nothing. -/
theorem exists_plain {pieces : List (List Char)}
    (plain : ∀ piece ∈ pieces, '/' ∉ piece ∧ '.' ∉ piece) :
    ∃ names : List (List Char), (∀ name ∈ names, IsPlain name) ∧
      pieces.filterMap componentOf? = names.map Component.name := by
  refine ⟨pieces.filter fun piece => !piece.isEmpty, ?_, ?_⟩
  · intro name member
    obtain ⟨isPiece, notEmpty⟩ := List.mem_filter.mp member
    exact ⟨by simpa using notEmpty, (plain name isPiece).1, (plain name isPiece).2⟩
  · induction pieces with
    | nil => rfl
    | cons first rest inductionHypothesis =>
      obtain ⟨plainFirst, plainRest⟩ := List.forall_mem_cons.mp plain
      by_cases empty : first = []
      · rw [empty, List.filterMap_cons_none rfl, List.filter_cons_of_neg (by simp)]
        exact inductionHypothesis plainRest
      · rw [List.filterMap_cons_some (componentOf?_of_dotFree empty plainFirst.2),
          List.filter_cons_of_pos (by simpa using empty), List.map_cons,
          inductionHypothesis plainRest]

/-- A name among the components of a path is one of its pieces. -/
theorem mem_pieces_of_mem_components {path : FilePath} {name : List Char}
    (member : .name name ∈ path.components) : name ∈ path.parts.pieces := by
  rw [components, List.mem_append] at member
  rcases member with anchor | named
  · cases given : path.parts.anchor <;> rw [given] at anchor <;> simp [Anchor.components] at anchor
  · obtain ⟨piece, isPiece, isName⟩ := List.mem_filterMap.mp named
    obtain ⟨_, _, rfl⟩ := componentOf?_eq_name_iff.mp isName
    exact isPiece

/-- The names among the components of a path hold no slash. -/
theorem slashFree_of_mem_components {path : FilePath} {name : List Char}
    (member : .name name ∈ path.components) : '/' ∉ name :=
  (wellFormed_parts path).slashFree name (mem_pieces_of_mem_components member)

/-- A name whose only dot is that of `.ts` is a component of its own. -/
theorem componentOf?_append_extension (stem : List Char) :
    componentOf? (stem ++ ".ts".toList) = some (.name (stem ++ ".ts".toList)) := by
  have notIdle : isIdle (stem ++ ".ts".toList) = false := by
    rw [isIdle, Bool.or_eq_false_iff, beq_eq_false_iff_ne, beq_eq_false_iff_ne]
    constructor <;> intro same <;> simpa using congrArg List.length same
  refine componentOf?_eq_name_iff.mpr ⟨notIdle, fun same => ?_, rfl⟩
  simpa using congrArg List.length same

end FilePath

open FilePath

namespace Layout

/-! ### Directories -/

theorem slashFree_of_mem_directoryNames {source : FilePath} {name : List Char}
    (member : name ∈ directoryNames source) : '/' ∉ name := by
  obtain ⟨component, isComponent, isName⟩ := List.mem_filterMap.mp member
  cases component with
  | name other =>
    obtain rfl : other = name := Option.some.inj isName
    cases parent : source.parent? with
    | none =>
      rw [parent] at isComponent
      cases isComponent
    | some above =>
      rw [parent] at isComponent
      exact slashFree_of_mem_components isComponent
  | _ => cases isName

/-- Converted directories add plain names to a path, the same to every path. -/
theorem exists_components_foldl_child (convention : NamingConvention)
    {names : List (List Char)} (slashFree : ∀ name ∈ names, '/' ∉ name) :
    ∃ directories : List (List Char), (∀ name ∈ directories, IsPlain name) ∧
      ∀ base : FilePath,
        (names.foldl (fun path name => path.child (convention.apply name)) base).components =
          base.components ++ directories.map Component.name := by
  induction names with
  | nil => exact ⟨[], nofun, fun base => by simp⟩
  | cons first rest inductionHypothesis =>
    obtain ⟨firstFree, restFree⟩ := List.forall_mem_cons.mp slashFree
    have converted := convention.not_slash_mem_apply firstFree
    have dotFree := convention.not_dot_mem_apply first
    have pieces := splitOn_of_not_mem converted
    have plain : ∀ piece ∈ [convention.apply first], '/' ∉ piece ∧ '.' ∉ piece := by
      intro piece member
      rw [List.mem_singleton.mp member]
      exact ⟨converted, dotFree⟩
    obtain ⟨one, onePlain, oneSame⟩ := exists_plain plain
    obtain ⟨others, othersPlain, othersSame⟩ := inductionHypothesis restFree
    refine ⟨one ++ others, ?_, fun base => ?_⟩
    · intro name member
      exact (List.mem_append.mp member).elim (onePlain name) (othersPlain name)
    · have relative : (convention.apply first).head? ≠ some '/' :=
        fun atRoot => converted (List.mem_of_mem_head? atRoot)
      have notCurrent : (splitOn '/' (convention.apply first)).head? ≠ some ['.'] := by
        rw [pieces]
        intro current
        exact dotFree (Option.some.inj current ▸ List.mem_cons_self)
      rw [List.foldl_cons, othersSame, components_child base relative notCurrent, pieces, oneSame,
        List.map_append, List.append_assoc]

/-! ### The file name -/

/-- The name of a file before its extension. -/
def baseName (layout : Layout) (source : FilePath) : List Char :=
  layout.naming.file.apply
    (match layout.suffix with
      | some suffix => source.fileStem?.getD [] ++ '-' :: suffix
      | none => source.fileStem?.getD [])

theorem fileName_eq (layout : Layout) (source : FilePath) :
    layout.fileName source = layout.baseName source ++ ".ts".toList := rfl

/-- The last piece of the file name ends in `.ts`, and there is no other dot. -/
theorem exists_splitOn_fileName (layout : Layout) (source : FilePath) :
    ∃ fronts stem, splitOn '/' (layout.fileName source) = fronts ++ [stem ++ ".ts".toList] ∧
      ∀ piece ∈ stem :: fronts, '/' ∉ piece ∧ '.' ∉ piece := by
  obtain ⟨fronts, stem, pieces⟩ :=
    (List.eq_nil_or_concat (splitOn '/' (layout.baseName source))).resolve_left
      (splitOn_ne_nil '/' _)
  rw [List.concat_eq_append] at pieces
  have plain : ∀ piece ∈ fronts ++ [stem], '/' ∉ piece ∧ '.' ∉ piece := by
    intro piece member
    rw [← pieces] at member
    exact ⟨not_mem_of_mem_splitOn member,
      fun dot => NamingConvention.not_dot_mem_apply _ _ (mem_of_mem_splitOn member dot)⟩
  refine ⟨fronts, stem, ?_, ?_⟩
  · have whole := join_splitOn '/' (layout.baseName source)
    rw [pieces] at whole
    rw [fileName_eq, ← whole, join_concat_append, splitOn_join _ (by simp)]
    intro piece member
    rcases List.mem_append.mp member with inFronts | last
    · exact (plain piece (List.mem_append_left _ inFronts)).1
    · rw [List.mem_singleton.mp last, List.mem_append]
      exact fun inside => inside.elim (plain stem (by simp)).1 (by decide)
  · intro piece member
    refine plain piece ?_
    rcases List.mem_cons.mp member with rfl | inFronts
    · simp
    · exact List.mem_append_left _ inFronts

/-- A file name does not start at the current directory. -/
theorem head?_splitOn_fileName (layout : Layout) (source : FilePath) :
    (splitOn '/' (layout.fileName source)).head? ≠ some ['.'] := by
  obtain ⟨fronts, stem, pieces, plain⟩ := exists_splitOn_fileName layout source
  rw [pieces]
  intro current
  cases fronts with
  | nil => simpa using congrArg List.length (Option.some.inj current)
  | cons first rest =>
    obtain rfl : first = ['.'] := Option.some.inj current
    exact (plain ['.'] (by simp)).2 List.mem_cons_self

/-! ### The whole path -/

/-- Where the path of a generated file starts: at the output directory, unless the file name is
itself a path that starts at the root. -/
def start (layout : Layout) (source : FilePath) : List Component :=
  if (layout.fileName source).head? = some '/' then [.root] else layout.root.components

/-- The path of a generated file goes from its start through plain directories to where its file
name leads; no directories come before a file name that starts at the root. -/
theorem exists_components_unitPath (layout : Layout) (source : FilePath) :
    ∃ directories : List (List Char), (∀ name ∈ directories, IsPlain name) ∧
      ((layout.fileName source).head? = some '/' → directories = []) ∧
      (layout.unitPath source).components = layout.start source ++
        directories.map Component.name ++
          (splitOn '/' (layout.fileName source)).filterMap componentOf? := by
  by_cases atRoot : (layout.fileName source).head? = some '/'
  · obtain ⟨rest, fileName⟩ := List.head?_eq_some_iff.mp atRoot
    refine ⟨[], nofun, fun _ => rfl, ?_⟩
    rw [start, if_pos atRoot, unitPath, fileName, components_child_of_slash, splitOn, if_pos rfl,
      List.filterMap_cons_none rfl]
    rfl
  · have slashFree : ∀ name ∈ directoryNames source, '/' ∉ name :=
      fun name member => slashFree_of_mem_directoryNames member
    obtain ⟨directories, plain, same⟩ :=
      exists_components_foldl_child layout.naming.directory slashFree
    refine ⟨directories, plain, fun root => absurd root atRoot, ?_⟩
    rw [start, if_neg atRoot, unitPath,
      components_child _ atRoot (head?_splitOn_fileName layout source), same]

/-- The path of a generated file goes from its start through plain directories to a name that ends
in `.ts` and holds no other dot. -/
theorem exists_plain_unitPath (layout : Layout) (source : FilePath) :
    ∃ directories stem, (∀ name ∈ directories, IsPlain name) ∧
      Generated (layout.unitPath source) (layout.start source) directories stem := by
  obtain ⟨directories, plain, _, same⟩ := exists_components_unitPath layout source
  obtain ⟨fronts, stem, pieces, plainPieces⟩ := exists_splitOn_fileName layout source
  obtain ⟨plainStem, plainFronts⟩ := List.forall_mem_cons.mp plainPieces
  obtain ⟨between, plainBetween, betweenSame⟩ := exists_plain plainFronts
  have allPlain : ∀ name ∈ directories ++ between, IsPlain name := by
    intro name member
    exact (List.mem_append.mp member).elim (plain name) (plainBetween name)
  refine ⟨directories ++ between, stem, allPlain, ?_, plainStem.1, plainStem.2, ?_⟩
  · exact fun name member => (allPlain name member).isSegment
  · rw [same, pieces, List.filterMap_append, betweenSame,
      List.filterMap_cons_some (componentOf?_append_extension stem), List.map_append]
    simp only [List.filterMap_nil, List.append_assoc]

theorem exists_generated_unitPath (layout : Layout) (source : FilePath) :
    ∃ directories stem,
      Generated (layout.unitPath source) (layout.start source) directories stem := by
  obtain ⟨directories, stem, _, generated⟩ := exists_plain_unitPath layout source
  exact ⟨directories, stem, generated⟩

theorem slashFree_fileStem? {source : FilePath} {stem : List Char}
    (given : source.fileStem? = some stem) : '/' ∉ stem := by
  obtain ⟨name, named, rfl⟩ := Option.map_eq_some_iff.mp given
  have slashFree : '/' ∉ name := by
    unfold fileName? at named
    split at named
    · next other last =>
      obtain rfl : other = name := Option.some.inj named
      exact slashFree_of_mem_components (List.mem_of_getLast? last)
    · cases named
  unfold splitExtension
  split
  · next dot before dropped =>
    split
    · exact slashFree
    · intro inside
      have inName : '/' ∈ name.reverse.dropWhile (fun c => decide (c ≠ '.')) := by
        rw [dropped]
        exact List.mem_cons_of_mem dot (List.mem_reverse.mp inside)
      exact slashFree (List.mem_reverse.mp ((List.dropWhile_sublist _).subset inName))
  · exact slashFree

/-- Settings without a problem make file names without slashes. -/
theorem slashFree_fileName {settings : Settings} (accepted : settings.problem? = none)
    (source : FilePath) : '/' ∉ (of settings).fileName source := by
  have stemFree : '/' ∉ source.fileStem?.getD [] := by
    cases given : source.fileStem? with
    | none => simp
    | some stem => exact slashFree_fileStem? given
  have suffixFree {suffix : List Char} (given : (of settings).suffix = some suffix) :
      '/' ∉ suffix := by
    obtain ⟨trimmed, _⟩ := Option.filter_eq_some_iff.mp given
    obtain ⟨whole, written, rfl⟩ := Option.map_eq_some_iff.mp trimmed
    intro inside
    have separated : whole.any Settings.isPathSeparator = true :=
      List.any_eq_true.mpr ⟨'/', mem_of_mem_trim inside, rfl⟩
    unfold Settings.problem? at accepted
    rw [written] at accepted
    simp only [separated, if_true] at accepted
    split at accepted
    · cases accepted
    · split at accepted <;> cases accepted
  rw [fileName_eq, List.mem_append]
  rintro (inBase | inExtension)
  · refine NamingConvention.not_slash_mem_apply _ ?_ inBase
    split
    · next suffix given =>
      rw [List.mem_append, List.mem_cons]
      rintro (inStem | dash | inSuffix)
      · exact stemFree inStem
      · cases dash
      · exact suffixFree given inSuffix
    · exact stemFree
  · revert inExtension
    decide

/-- Settings without a problem put every file below the output directory. -/
theorem start_of_accepted {settings : Settings} (accepted : settings.problem? = none)
    (source : FilePath) : (of settings).start source = settings.outputPath.components := by
  rw [start, if_neg]
  · rfl
  · exact fun atRoot => slashFree_fileName accepted source (List.mem_of_mem_head? atRoot)

end Layout

end SharpTypes

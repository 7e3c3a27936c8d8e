/-
Where module specifiers lead. A specifier is read from the directory of the importing file, segment
by segment: `.` stays, `..` goes up, and a name goes down. The file it means has the extension
`.ts` behind what the specifier says. The specifier made for two paths that agree in everything but
names leads from the first to the second, unless the second has no name before its extension: then
there is nothing to leave out, and the specifier keeps the extension as if it were a name.

There are two ways to put the extension back, onto the place that the specifier leads to or onto the
text of the specifier, and they differ where the specifier ends in `.` or `..`. It does if the
imported file is named like a directory that holds the importing one.
-/

import Mathlib.Data.List.Basic
import Mathlib.Tactic.Common
import SharpTypes.Output.ModuleSpecifier
import SharpTypes.Proofs.Output.UnitPath

namespace SharpTypes

open Text FilePath

namespace FilePath

/-- The components of the directory that holds a file. -/
def directory (path : FilePath) : List Component :=
  (path.parent?.map components).getD []

/-- Whether a component is a name. -/
def Component.isName : Component → Bool
  | .name _ => true
  | _ => false

/-- The components that are no names: where a path starts, and its steps up. -/
def bearings (components : List Component) : List Component :=
  components.filter fun component => !component.isName

@[simp] theorem bearings_append (left right : List Component) :
    bearings (left ++ right) = bearings left ++ bearings right :=
  List.filter_append left right

@[simp] theorem bearings_map_name (names : List (List Char)) :
    bearings (names.map Component.name) = [] := by
  rw [bearings, List.filter_eq_nil_iff]
  intro component member
  obtain ⟨name, _, rfl⟩ := List.mem_map.mp member
  simp [Component.isName]

@[simp] theorem bearings_name (name : List Char) : bearings [.name name] = [] := rfl

end FilePath

namespace ModuleSpecifier

/-! ### Reading a specifier -/

/-- The directory above another one. The root has nothing above it; what does not end in a name has
a step up as its only name. -/
def above (directory : List Component) : List Component :=
  match directory.getLast? with
  | some (.name _) => directory.dropLast
  | some .root => directory
  | _ => directory ++ [.parent]

/-- Where a segment leads. -/
def step (directory : List Component) (segment : List Char) : List Component :=
  if segment = ['.', '.'] then above directory
  else if isIdle segment then directory
  else directory ++ [.name segment]

/-- Where a text leads, segment by segment. -/
def follow (directory : List Component) (text : List Char) : List Component :=
  (splitOn '/' text).foldl step directory

/-- The file at a place, whose last name gets the extension of generated files. -/
def fileAt (place : List Component) : List Component :=
  match place.getLast? with
  | some (.name name) => place.dropLast ++ [.name (name ++ ".ts".toList)]
  | _ => place

/-- The file that a specifier means: the extension goes onto the place that it leads to. -/
def destination (directory : List Component) (specifier : List Char) : List Component :=
  fileAt (follow directory specifier)

/-- The file that a specifier means if the extension goes onto its text. -/
def destinationOfText (directory : List Component) (specifier : List Char) : List Component :=
  follow directory (specifier ++ ".ts".toList)

/-! ### Steps -/

theorem above_concat_name (directory : List Component) (name : List Char) :
    above (directory ++ [.name name]) = directory := by
  rw [above, List.getLast?_concat]
  exact List.dropLast_concat

theorem step_up (directory : List Component) : step directory ['.', '.'] = above directory :=
  if_pos rfl

theorem step_of_isIdle {segment : List Char} (idle : isIdle segment = true)
    (directory : List Component) : step directory segment = directory := by
  rw [step, if_neg, if_pos idle]
  rintro rfl
  cases idle

theorem step_of_componentOf? {segment : List Char}
    (named : componentOf? segment = some (.name segment)) (directory : List Component) :
    step directory segment = directory ++ [.name segment] := by
  have notIdle := isIdle_of_componentOf? named
  rw [step, if_neg, if_neg (by simp [notIdle])]
  rintro rfl
  cases named

theorem foldl_step_segments {segments : List (List Char)}
    (named : ∀ segment ∈ segments, componentOf? segment = some (.name segment))
    (directory : List Component) :
    segments.foldl step directory = directory ++ segments.map Component.name := by
  induction segments generalizing directory with
  | nil => simp
  | cons first rest inductionHypothesis =>
    obtain ⟨namedFirst, namedRest⟩ := List.forall_mem_cons.mp named
    rw [List.foldl_cons, step_of_componentOf? namedFirst, inductionHypothesis namedRest,
      List.map_cons, List.append_assoc, List.singleton_append]

/-- As many steps up as there are names lead back to where the names started. -/
theorem foldl_step_up (directory : List Component) (names : List (List Char)) :
    (names.map fun _ => "..".toList).foldl step (directory ++ names.map Component.name) =
      directory := by
  rw [List.map_const']
  induction names using List.reverseRecOn with
  | nil => simp
  | append_singleton names last inductionHypothesis =>
    rw [List.length_append, List.length_singleton, List.replicate_succ, List.foldl_cons,
      List.map_append, ← List.append_assoc]
    show (List.replicate names.length "..".toList).foldl step
      (step (directory ++ names.map Component.name ++ [.name last]) ['.', '.']) = directory
    rw [step_up, above_concat_name, inductionHypothesis]

theorem follow_join {pieces : List (List Char)} (slashFree : ∀ piece ∈ pieces, '/' ∉ piece)
    (directory : List Component) :
    follow directory (join ['/'] pieces) = pieces.foldl step directory := by
  cases pieces with
  | nil =>
    have stays : step directory [] = directory := step_of_isIdle rfl directory
    exact stays
  | cons first rest => rw [follow, splitOn_join slashFree (by simp)]

theorem follow_current (directory : List Component) (text : List Char) :
    follow directory ("./".toList ++ text) = follow directory text := by
  have split : splitOn '/' ("./".toList ++ text) = [['.']] ++ splitOn '/' text := by
    rw [show "./".toList ++ text = ['.'] ++ '/' :: text from rfl, splitOn_append_separator]
    rfl
  have stays : step directory ['.'] = directory := step_of_isIdle rfl directory
  rw [follow, split, List.foldl_append, List.foldl_cons, List.foldl_nil, stays, follow]

/-! ### What no step changes -/

/-- On the way, steps up may be added to the bearings, and nothing else happens to them. -/
theorem exists_bearings_follow (directory : List Component) (text : List Char) :
    ∃ steps, bearings (follow directory text) =
      bearings directory ++ List.replicate steps .parent := by
  rw [follow]
  generalize splitOn '/' text = segments
  induction segments generalizing directory with
  | nil => exact ⟨0, by simp⟩
  | cons first rest inductionHypothesis =>
    obtain ⟨more, onward⟩ := inductionHypothesis (step directory first)
    have here : ∃ steps, bearings (step directory first) =
        bearings directory ++ List.replicate steps .parent := by
      unfold step above
      split
      · split
        · next name last =>
          obtain ⟨before, rfl⟩ := List.getLast?_eq_some_iff.mp last
          exact ⟨0, by simp⟩
        · exact ⟨0, by simp⟩
        · exact ⟨1, by rw [bearings_append]; rfl⟩
      · split
        · exact ⟨0, by simp⟩
        · exact ⟨0, by simp⟩
    obtain ⟨steps, same⟩ := here
    refine ⟨steps + more, ?_⟩
    rw [List.foldl_cons, onward, same, List.append_assoc, List.replicate_append_replicate]

/-- From a directory that is the root or below it by names alone, every step leads to another one.
-/
theorem bearings_follow_of_root {directory : List Component}
    (atRoot : bearings directory = [.root]) (text : List Char) :
    bearings (follow directory text) = [.root] := by
  rw [follow]
  generalize splitOn '/' text = segments
  induction segments generalizing directory with
  | nil => exact atRoot
  | cons first rest inductionHypothesis =>
    refine inductionHypothesis ?_
    unfold step above
    split
    · split
      · next name last =>
        obtain ⟨before, rfl⟩ := List.getLast?_eq_some_iff.mp last
        simpa using atRoot
      · exact atRoot
      · next notName notRoot =>
        rcases List.eq_nil_or_concat directory with rfl | ⟨before, last, rfl⟩
        · cases atRoot
        · rw [List.concat_eq_append, List.getLast?_concat] at notName notRoot
          rw [List.concat_eq_append, bearings_append] at atRoot
          cases last with
          | name name => exact absurd rfl (notName name)
          | root => exact absurd rfl notRoot
          | current => simp [bearings, Component.isName, List.append_eq_singleton_iff] at atRoot
          | parent => simp [bearings, Component.isName, List.append_eq_singleton_iff] at atRoot
    · split
      · exact atRoot
      · simpa using atRoot

theorem bearings_fileAt (place : List Component) : bearings (fileAt place) = bearings place := by
  unfold fileAt
  split
  · next name last =>
    obtain ⟨before, rfl⟩ := List.getLast?_eq_some_iff.mp last
    simp
  · rfl

/-! ### Common starts -/

theorem apart_append (common left right : List (List Char)) :
    apart (common ++ left) (common ++ right) = apart left right := by
  induction common with
  | nil => rfl
  | cons first rest inductionHypothesis =>
    rw [List.cons_append, List.cons_append, apart, if_pos rfl, inductionHypothesis]

/-- What is left of two lists stands behind what they have in common. -/
theorem exists_common_of_apart (left right : List (List Char)) :
    ∃ common, left = common ++ (apart left right).1 ∧ right = common ++ (apart left right).2 := by
  fun_induction apart left right with
  | case1 lefts second rights inductionHypothesis =>
    obtain ⟨common, leftSame, rightSame⟩ := inductionHypothesis
    exact ⟨second :: common, congrArg (second :: ·) leftSame, congrArg (second :: ·) rightSame⟩
  | case2 left lefts right rights different => exact ⟨[], rfl, rfl⟩
  | case3 lefts rights notBoth => exact ⟨[], rfl, rfl⟩

/-- Of a list that the other one starts with, nothing is left. -/
theorem apart_of_prefix {left right : List (List Char)} (isPrefix : right <+: left) :
    (apart left right).2 = [] := by
  obtain ⟨behind, rfl⟩ := isPrefix
  have cut := apart_append right behind []
  rw [List.append_nil] at cut
  rw [cut]
  cases behind <;> rfl

theorem segments_of_components {path : FilePath} {start : List Component}
    {names : List (List Char)} (given : path.components = start ++ names.map Component.name) :
    segments path = start.filterMap segment? ++ names := by
  rw [segments, given, List.filterMap_append, List.filterMap_map]
  congr 1
  exact List.filterMap_some

/-- The segments of the specifier between two files, before `./` is put in front of it. -/
def way (source target : FilePath) : List (List Char) :=
  let (up, down) :=
    apart ((source.parent?.map segments).getD []) (segments target.withoutExtension)
  up.map (fun _ => "..".toList) ++ down

theorem between_eq (source target : FilePath) :
    between source target =
      if "../".toList.isPrefixOf (join ['/'] (way source target))
      then join ['/'] (way source target)
      else "./".toList ++ join ['/'] (way source target) := rfl

/-- The `./` in front of a specifier changes nothing about where it leads. -/
theorem follow_between (source target : FilePath) (directory : List Component)
    (behind : List Char) :
    follow directory (between source target ++ behind) =
      follow directory (join ['/'] (way source target) ++ behind) := by
  rw [between_eq]
  split
  · rfl
  · rw [List.append_assoc, follow_current]

end ModuleSpecifier

/-! ### Generated files -/

namespace FilePath.Generated

variable {path : FilePath} {start : List Component} {directories : List (List Char)}
  {stem : List Char}

theorem directory_eq (generated : path.Generated start directories stem) :
    path.directory = start ++ directories.map Component.name := by
  rw [directory, components_parent? generated.components]
  rfl

theorem fileName? (generated : path.Generated start directories stem) :
    path.fileName? = some (stem ++ ".ts".toList) :=
  fileName?_of_components generated.components

/-- A file with nothing before its extension keeps it: its name is taken to have none. -/
theorem components_withoutExtension (generated : path.Generated start directories stem) :
    path.withoutExtension.components = start ++ directories.map Component.name ++
      [.name (if stem = [] then ".ts".toList else stem)] := by
  by_cases hidden : stem = []
  · have kept : splitExtension (stem ++ ".ts".toList) = (".ts".toList, none) := by
      rw [hidden]
      exact splitExtension_dot (by decide)
    rw [if_pos hidden]
    refine FilePath.components_withoutExtension generated.components ?_ rfl (by decide)
    rw [kept]
  · have cut : splitExtension (stem ++ ".ts".toList) = (stem, some ['t', 's']) :=
      splitExtension_append hidden (by decide)
    rw [if_neg hidden]
    refine FilePath.components_withoutExtension generated.components ?_
      (componentOf?_of_dotFree hidden generated.dotFree) generated.slashFree
    rw [cut]

theorem bearings_eq (generated : path.Generated start directories stem) :
    bearings path.components = bearings start := by
  rw [generated.components]
  simp

end FilePath.Generated

namespace ModuleSpecifier

variable {source target : FilePath} {start : List Component}
  {above below : List (List Char)} {first stem : List Char}

theorem isSegment_kept (imported : target.Generated start below stem) :
    IsSegment (if stem = [] then ".ts".toList else stem) := by
  split
  · exact ⟨by decide, rfl⟩
  · next visible =>
    exact ⟨imported.slashFree, componentOf?_of_dotFree visible imported.dotFree⟩

theorem segments_parent? (importing : source.Generated start above first) :
    (source.parent?.map segments).getD [] = start.filterMap segment? ++ above := by
  have directory := importing.directory_eq
  cases parent : source.parent? with
  | none =>
    have known := components_parent? importing.components
    rw [parent] at known
    cases known
  | some holder =>
    rw [FilePath.directory, parent] at directory
    exact segments_of_components directory

theorem components_kept (imported : target.Generated start below stem) :
    target.withoutExtension.components = start ++
      (below ++ [if stem = [] then ".ts".toList else stem]).map Component.name := by
  rw [imported.components_withoutExtension, List.map_append, List.append_assoc]
  rfl

/-- The way between two files with the same start depends on what follows the start alone. -/
theorem way_eq (importing : source.Generated start above first)
    (imported : target.Generated start below stem) :
    way source target =
      (apart above (below ++ [if stem = [] then ".ts".toList else stem])).1.map
          (fun _ => "..".toList) ++
        (apart above (below ++ [if stem = [] then ".ts".toList else stem])).2 := by
  rw [way, segments_parent? importing, segments_of_components (components_kept imported),
    apart_append]

/-- Where two files have the same start, the way from one to the other is up to the last directory
that holds both and down from there. Nothing is left to go down if the imported file, without its
extension, is named like a directory on the way to the importing one. -/
theorem exists_way (importing : source.Generated start above first)
    (imported : target.Generated start below stem) :
    ∃ common up down, above = common ++ up ∧
      below ++ [if stem = [] then ".ts".toList else stem] = common ++ down ∧
      way source target = up.map (fun _ => "..".toList) ++ down ∧
      (down = [] ↔ target.withoutExtension.components <+: source.directory) := by
  obtain ⟨common, aboveSame, belowSame⟩ :=
    exists_common_of_apart above (below ++ [if stem = [] then ".ts".toList else stem])
  refine ⟨common, _, _, aboveSame, belowSame, way_eq importing imported, ?_⟩
  rw [components_kept imported, importing.directory_eq, List.prefix_append_right_inj]
  constructor
  · intro nothing
    rw [nothing, List.append_nil] at belowSame
    rw [belowSame]
    conv_rhs => rw [aboveSame, List.map_append]
    exact List.prefix_append _ _
  · intro isPrefix
    refine apart_of_prefix ?_
    rwa [List.prefix_map_iff_of_injective fun _ _ same => Component.name.inj same] at isPrefix

theorem slashFree_of_mem_way {up down : List (List Char)}
    (segments : ∀ segment ∈ down, IsSegment segment) :
    ∀ piece ∈ up.map (fun _ => "..".toList) ++ down, '/' ∉ piece := by
  intro piece member
  rcases List.mem_append.mp member with inUp | inDown
  · obtain ⟨_, _, rfl⟩ := List.mem_map.mp inUp
    decide
  · exact (segments piece inDown).slashFree

theorem foldl_step_way (start : List Component) (common up : List (List Char))
    {down : List (List Char)} (segments : ∀ segment ∈ down, IsSegment segment) :
    (up.map (fun _ => "..".toList) ++ down).foldl step
        (start ++ (common ++ up).map Component.name) =
      start ++ (common ++ down).map Component.name := by
  rw [List.foldl_append, List.map_append, ← List.append_assoc, foldl_step_up,
    foldl_step_segments fun segment member => (segments segment member).named, List.map_append,
    List.append_assoc]

theorem isSegment_of_mem_down (imported : target.Generated start below stem)
    {common down : List (List Char)}
    (same : below ++ [if stem = [] then ".ts".toList else stem] = common ++ down) :
    ∀ segment ∈ down, IsSegment segment := by
  intro segment member
  have inWhole := List.mem_append_right common member
  rw [← same, List.mem_append] at inWhole
  rcases inWhole with inBelow | last
  · exact imported.segments segment inBelow
  · rw [List.mem_singleton.mp last]
    exact isSegment_kept imported

/-- A specifier between files with the same start leads to the imported file. If nothing stands
before the extension of that, the extension is there twice. -/
theorem destination_between_kept (importing : source.Generated start above first)
    (imported : target.Generated start below stem) :
    destination source.directory (between source target) = start ++ below.map Component.name ++
      [.name ((if stem = [] then ".ts".toList else stem) ++ ".ts".toList)] := by
  obtain ⟨common, up, down, rfl, belowSame, wayIs, _⟩ := exists_way importing imported
  have segments := isSegment_of_mem_down imported belowSame
  have arrives : follow source.directory (between source target) =
      start ++ below.map Component.name ++ [.name (if stem = [] then ".ts".toList else stem)] := by
    have read := follow_between source target source.directory []
    rw [List.append_nil, List.append_nil] at read
    rw [read, wayIs, follow_join (slashFree_of_mem_way segments), importing.directory_eq,
      foldl_step_way start common up segments, ← belowSame, List.map_append, List.append_assoc]
    rfl
  rw [destination, arrives, fileAt, List.getLast?_concat]
  simp only [List.dropLast_concat]

theorem destination_between (importing : source.Generated start above first)
    (imported : target.Generated start below stem) (visible : stem ≠ []) :
    destination source.directory (between source target) = target.components := by
  rw [destination_between_kept importing imported, if_neg visible, imported.components]

/-- The name with the extension there twice is that of no generated file. -/
theorem destination_between_ne (importing : source.Generated start above first)
    (imported : target.Generated start below stem) (hidden : stem = []) {other : FilePath}
    {beside : List Component} {directories : List (List Char)} {last : List Char}
    (generated : other.Generated beside directories last) :
    destination source.directory (between source target) ≠ other.components := by
  intro reached
  rw [destination_between_kept importing imported, if_pos hidden, generated.components] at reached
  have names := (List.append_inj' reached rfl).2
  rw [List.cons.injEq, Component.name.injEq, List.append_cancel_right_eq] at names
  exact generated.dotFree (names.1 ▸ by decide)

/-- So does its text with the extension behind it, if the last segment is a name. -/
theorem destinationOfText_between (importing : source.Generated start above first)
    (imported : target.Generated start below stem) (visible : stem ≠ [])
    (down : ¬ target.withoutExtension.components <+: source.directory) :
    destinationOfText source.directory (between source target) = target.components := by
  obtain ⟨common, up, down, rfl, belowSame, wayIs, nothing⟩ := exists_way importing imported
  have segments := isSegment_of_mem_down imported belowSame
  obtain ⟨onward, last, rfl⟩ :=
    (List.eq_nil_or_concat down).resolve_left fun empty => absurd (nothing.mp empty) ‹_›
  rw [List.concat_eq_append] at belowSame wayIs segments
  rw [if_neg visible, ← List.append_assoc] at belowSame
  obtain ⟨rfl, lastSame⟩ := List.append_inj' belowSame rfl
  obtain rfl : stem = last := by simpa using lastSame
  have withExtension : ∀ segment ∈ onward ++ [stem ++ ".ts".toList], IsSegment segment := by
    intro segment member
    rcases List.mem_append.mp member with inOnward | isLast
    · exact segments segment (List.mem_append_left _ inOnward)
    · rw [List.mem_singleton.mp isLast]
      refine ⟨?_, componentOf?_append_extension stem⟩
      rw [List.mem_append]
      exact fun inside => inside.elim imported.slashFree (by decide)
  rw [destinationOfText, follow_between, wayIs, ← List.append_assoc, join_concat_append,
    List.append_assoc, follow_join (slashFree_of_mem_way withExtension), importing.directory_eq,
    foldl_step_way start common up withExtension, imported.components, List.map_append,
    List.map_append, List.map_append]
  simp only [List.append_assoc]
  rfl

/-! ### What cannot be reached -/

/-- A text with the extension behind it leads to its last segment with the extension. -/
theorem follow_append_extension {fronts : List (List Char)} {last text : List Char}
    (pieces : splitOn '/' text = fronts ++ [last]) (directory : List Component) :
    follow directory (text ++ ".ts".toList) =
      fronts.foldl step directory ++ [.name (last ++ ".ts".toList)] := by
  have whole := join_splitOn '/' text
  rw [pieces] at whole
  rw [← whole, join_concat_append, follow_join, List.foldl_append, List.foldl_cons, List.foldl_nil,
    step_of_componentOf? (componentOf?_append_extension last)]
  intro piece member
  have slashFree : ∀ piece ∈ fronts ++ [last], '/' ∉ piece :=
    fun piece member => not_mem_of_mem_splitOn (pieces ▸ member)
  rcases List.mem_append.mp member with inFronts | isLast
  · exact slashFree piece (List.mem_append_left _ inFronts)
  · rw [List.mem_singleton.mp isLast, List.mem_append]
    exact fun inside => inside.elim (slashFree last (by simp)) (by decide)

/-- The text of a specifier, with the extension behind it, leads to the imported file only if that
has a name before its extension and the last segment is this name. -/
theorem visible_of_destinationOfText (importing : source.Generated start above first)
    (imported : target.Generated start below stem)
    (reached : destinationOfText source.directory (between source target) = target.components) :
    stem ≠ [] ∧ ¬ target.withoutExtension.components <+: source.directory := by
  obtain ⟨common, up, down, aboveSame, belowSame, wayIs, nothing⟩ := exists_way importing imported
  have slashFree : ∀ piece ∈ up.map (fun _ => "..".toList) ++ down, '/' ∉ piece :=
    slashFree_of_mem_way (isSegment_of_mem_down imported belowSame)
  rw [← nothing]
  rw [destinationOfText, follow_between, wayIs, imported.components] at reached
  have lastIs (fronts : List (List Char)) (last : List Char)
      (pieces : splitOn '/' (join ['/'] (up.map (fun _ => "..".toList) ++ down)) =
        fronts ++ [last]) :
      fronts.foldl step source.directory = start ++ below.map Component.name ∧ last = stem := by
    rw [follow_append_extension pieces] at reached
    obtain ⟨placeSame, lastSame⟩ := List.append_inj' reached rfl
    exact ⟨placeSame, by simpa using lastSame⟩
  rcases List.eq_nil_or_concat down with rfl | ⟨onward, last, rfl⟩
  · rcases List.eq_nil_or_concat up with rfl | ⟨ups, top, rfl⟩
    · -- An empty text leads nowhere, and the importing file lies one directory deeper.
      obtain ⟨placeSame, rfl⟩ := lastIs [] [] rfl
      rw [List.foldl_nil, importing.directory_eq, List.append_cancel_left_eq] at placeSame
      have lengths := congrArg List.length placeSame
      have belowLengths := congrArg List.length belowSame
      rw [aboveSame] at lengths
      simp at lengths belowLengths
      omega
    · -- A text that only leads up ends in dots, and the stem holds none.
      rw [List.concat_eq_append] at lastIs slashFree
      have pieces := splitOn_join slashFree (by simp)
      rw [List.append_nil, List.map_append, List.map_singleton] at pieces
      have dots := (lastIs _ _ (by rw [List.append_nil, List.map_append]; exact pieces)).2
      exact absurd (dots ▸ imported.dotFree) (by decide)
  · rw [List.concat_eq_append] at lastIs slashFree belowSame ⊢
    have pieces := splitOn_join slashFree (by simp)
    rw [← List.append_assoc] at pieces
    have isStem := (lastIs _ _ (by rw [← List.append_assoc]; exact pieces)).2
    refine ⟨fun hidden => ?_, by simp⟩
    rw [← List.append_assoc, if_pos hidden] at belowSame
    have kept := (List.append_inj' belowSame rfl).2
    rw [isStem, hidden] at kept
    simp at kept

end ModuleSpecifier

end SharpTypes

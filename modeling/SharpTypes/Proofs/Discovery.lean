/-
The search for source files. It starts where the directory of the project lies, unless the path of
that directory is empty, and finds the files below with the names of source files, in order and each
of them once. While the tree changes elsewhere it starts at the same path and finds the same files.
-/

import Mathlib.Data.List.Sort
import Mathlib.Tactic.Common
import SharpTypes.Discovery
import SharpTypes.Proofs.FileTree.Lasting
import SharpTypes.Proofs.FileTree.Soundness

namespace SharpTypes.Discovery

open Text FilePath FileTree

variable {place : Workplace} {directory path base next : FilePath} {piece : List Char}

/-! ### Steps -/

/-- A text without slashes leads on from the current directory. -/
theorem placeOf_piece (place : Workplace) (slashFree : '/' ∉ piece) :
    place.placeOf ⟨piece⟩ = (componentOf? piece).toList.foldl Location.toward place.current := by
  have relative : piece.head? ≠ some '/' := fun slash => slashFree (List.mem_of_mem_head? slash)
  rw [Workplace.placeOf_eq, place.origin_of_relative relative,
    ← filterMap_splitOn_of_relative relative, splitOn_of_not_mem slashFree,
    filterMap_componentOf?_cons, List.foldl_append]
  rfl

/-- A step leads on from the place of the path. -/
theorem placeOf_step (place : Workplace) (filled : path.text ≠ []) (slashFree : '/' ∉ piece) :
    place.placeOf (step path piece) =
      (componentOf? piece).toList.foldl Location.toward (place.placeOf path) := by
  unfold step
  split
  case isTrue same =>
    have here : place.placeOf path = place.current := by
      rw [Workplace.placeOf, same_iff.mp same]
      rfl
    rw [placeOf_piece place slashFree, here]
  case isFalse => exact Workplace.placeOf_child place filled slashFree

theorem text_step_ne_nil (path : FilePath) (notEmpty : piece ≠ []) :
    (step path piece).text ≠ [] := by
  unfold step child FilePath.join
  split_ifs <;> simp [notEmpty]

/-- What it takes to go on: the path with one more piece is not empty. -/
theorem advance?_eq_some (advanced : advance? place path piece = some next) :
    next = step path piece ∧ next.text ≠ [] := by
  unfold advance? at advanced
  dsimp only at advanced
  split_ifs at advanced with dots directory there
  · refine ⟨(Option.some.inj advanced).symm, ?_⟩
    rw [← Option.some.inj advanced]
    refine text_step_ne_nil path ?_
    rintro rfl
    revert dots
    decide
  · refine ⟨(Option.some.inj advanced).symm, fun empty => ?_⟩
    obtain ⟨location, located, _⟩ := Workplace.isThere_iff_locate.mp there
    obtain ⟨_, isPath, _⟩ := Settings.eq_of_bind_eq_ok located
    rw [Option.some.inj advanced, Workplace.checkPath, empty] at isPath
    cases isPath

/-- A step leads where its piece leads from there. -/
theorem reaches_step (plain : place.tree.IsPlain) {location arrived : Location}
    (reaches : place.Reaches path location) (filled : path.text ≠ []) (slashFree : '/' ∉ piece)
    (entered : Workplace.enter place.tree location piece = .ok arrived) :
    place.Reaches (step path piece) arrived := by
  unfold step
  split
  case isFalse => exact reaches.child plain filled slashFree entered
  case isTrue same =>
    have here : location = place.current := by
      rw [reaches.eq_placeOf plain, Workplace.placeOf, same_iff.mp same]
      rfl
    subst here
    by_cases current : piece = ['.']
    · have stays := Workplace.toward_of_enter entered
      rw [current] at stays ⊢
      rw [stays]
      exact rfl
    · have origin : place.origin ⟨piece⟩ = place.current := by
        rw [Workplace.origin, Workplace.startFrom, FilePath.isRelative,
          parts_piece slashFree current]
        rfl
      unfold Workplace.Reaches
      rw [origin, parts_piece slashFree current, Workplace.follow_cons entered (plain arrived)]
      rfl

/-! ### Where the search starts -/

theorem head?_ne_of_forall {text : List Char} (notRoot : ∀ rest, text ≠ '/' :: rest) :
    text.head? ≠ some '/' := by
  intro slash
  obtain ⟨rest, rfl⟩ := List.head?_eq_some_iff.mp slash
  exact notRoot rest rfl

/-- A path that does not start at the root leads where all of its pieces lead from the current
directory, a dot in front included. -/
theorem reaches_iff_follow_splitOn (sound : place.IsSound) (plain : place.tree.IsPlain)
    {text : List Char} (relative : text.head? ≠ some '/') {location : Location} :
    place.Reaches ⟨text⟩ location ↔
      Workplace.follow place.tree place.current (splitOn '/' text) = .ok location := by
  unfold Workplace.Reaches
  rw [place.origin_of_relative relative]
  obtain ⟨first, pieces, split⟩ := List.exists_cons_of_ne_nil (splitOn_ne_nil '/' text)
  by_cases current : first = ['.']
  · rw [current] at split
    rw [parts_of_current relative split, split,
      Workplace.follow_cons (Workplace.enter_of_isIdle sound.current rfl) (plain _)]
  · rw [parts_of_free relative (by rw [split]; simpa using current)]

theorem slashFree_splitOn (text : List Char) : ∀ piece ∈ splitOn '/' text, '/' ∉ piece :=
  fun _ member => not_mem_of_mem_splitOn member

theorem placeOf_foldlM_advance? {pieces : List (List Char)} (filled : path.text ≠ [])
    (slashFree : ∀ piece ∈ pieces, '/' ∉ piece)
    (arrived : pieces.foldlM (advance? place) path = some base) :
    place.placeOf base =
      (pieces.filterMap componentOf?).foldl Location.toward (place.placeOf path) := by
  induction pieces generalizing path with
  | nil =>
    obtain rfl := Option.some.inj arrived
    rfl
  | cons piece rest inductionHypothesis =>
    obtain ⟨pieceFree, restFree⟩ := List.forall_mem_cons.mp slashFree
    rw [List.foldlM_cons] at arrived
    obtain ⟨next, advanced, arrived⟩ := Option.bind_eq_some_iff.mp arrived
    obtain ⟨rfl, nextFilled⟩ := advance?_eq_some advanced
    rw [inductionHypothesis nextFilled restFree arrived, placeOf_step place filled pieceFree,
      filterMap_componentOf?_cons, List.foldl_append]

/-- The search starts at the place of the directory. -/
theorem placeOf_base? (filled : directory.text ≠ [])
    (found : base? place directory = some base) :
    place.placeOf base = place.placeOf directory := by
  obtain ⟨text⟩ := directory
  unfold base? at found
  split at found
  case h_1 empty => exact absurd empty filled
  case h_2 rest same =>
    obtain rfl : text = '/' :: rest := same
    rw [placeOf_foldlM_advance? (List.cons_ne_nil _ _) (slashFree_splitOn rest) found,
      Workplace.placeOf_eq place ⟨'/' :: rest⟩]
    rfl
  case h_3 relative =>
    have relative : text.head? ≠ some '/' := head?_ne_of_forall relative
    rw [placeOf_foldlM_advance? (List.cons_ne_nil _ _) (slashFree_splitOn text) found,
      filterMap_splitOn_of_relative relative, Workplace.placeOf_eq place ⟨text⟩,
      place.origin_of_relative relative]
    rfl

/-! ### Where the search starts while the tree changes -/

section

variable {written : Location → Prop} {later : FileTree}

open Workplace

/-- Where the pieces lead on, whether the path may be used tells alone whether the search goes on,
and that does not change. -/
theorem advance?_of_becomes (sound : place.tree.IsSound) (plain : place.tree.IsPlain)
    (becomes : Becomes written place.tree later) {location arrived : Location}
    (reaches : place.Reaches path location) (filled : path.text ≠ []) (slashFree : '/' ∉ piece)
    (entered : enter place.tree location piece = .ok arrived) :
    advance? (place.withTree later) path piece = advance? place path piece := by
  have directory := directory_of_enter entered
  have directoryToo : later.get? location = some .directory :=
    hasDirectory_iff.mp (becomes.hasDirectory (hasDirectory_iff.mpr directory))
  have onward := reaches_step plain reaches filled slashFree entered
  have there := isSome_of_enter sound entered
  have sameDirectory : (place.withTree later).hasDirectory path = place.hasDirectory path := by
    rw [Bool.eq_iff_iff, (reaches.of_becomes becomes).hasDirectory_iff, reaches.hasDirectory_iff,
      directory]
    exact and_congr_right fun _ => iff_of_true directoryToo rfl
  have sameThere : (place.withTree later).isThere (step path piece) =
      place.isThere (step path piece) := by
    rw [Bool.eq_iff_iff, (onward.of_becomes becomes).isThere_iff, onward.isThere_iff]
    exact and_congr_right fun _ => iff_of_true (becomes.isSome_get? there) there
  unfold advance?
  dsimp only
  rw [sameDirectory, sameThere]

theorem foldlM_advance?_of_becomes (sound : place.tree.IsSound) (plain : place.tree.IsPlain)
    (becomes : Becomes written place.tree later) {pieces : List (List Char)}
    {location arrived : Location} (reaches : place.Reaches path location) (filled : path.text ≠ [])
    (slashFree : ∀ piece ∈ pieces, '/' ∉ piece)
    (followed : follow place.tree location pieces = .ok arrived) :
    pieces.foldlM (advance? (place.withTree later)) path = pieces.foldlM (advance? place) path ∧
      ∀ base, pieces.foldlM (advance? place) path = some base →
        base.text ≠ [] ∧ place.Reaches base arrived := by
  induction pieces generalizing path location with
  | nil =>
    obtain rfl : location = arrived := Except.ok.inj followed
    refine ⟨rfl, fun base found => ?_⟩
    obtain rfl : path = base := Option.some.inj found
    exact ⟨filled, reaches⟩
  | cons piece rest inductionHypothesis =>
    obtain ⟨pieceFree, restFree⟩ := List.forall_mem_cons.mp slashFree
    obtain ⟨next, entered, followed⟩ := exists_of_follow_cons plain followed
    rw [List.foldlM_cons, List.foldlM_cons,
      advance?_of_becomes sound plain becomes reaches filled pieceFree entered]
    cases advanced : advance? place path piece with
    | none =>
      refine ⟨rfl, fun base found => ?_⟩
      cases found
    | some onward =>
      obtain ⟨rfl, onwardFilled⟩ := advance?_eq_some advanced
      exact inductionHypothesis (reaches_step plain reaches filled pieceFree entered) onwardFilled
        restFree followed

/-- Where the directory is, the search starts at a path that is not empty and leads somewhere, and
it starts there also after the tree has changed. -/
theorem base?_of_becomes (sound : place.IsSound) (plain : place.tree.IsPlain)
    (becomes : Becomes written place.tree later) {location : Location}
    (reaches : place.Reaches directory location) :
    base? (place.withTree later) directory = base? place directory ∧
      ∀ base, base? place directory = some base →
        base.text ≠ [] ∧ ∃ start, place.Reaches base start := by
  obtain ⟨text⟩ := directory
  unfold base?
  split
  case h_1 =>
    refine ⟨rfl, fun base found => ?_⟩
    obtain rfl : ⟨['/']⟩ = base := Option.some.inj found
    exact ⟨List.cons_ne_nil _ _, [], rfl⟩
  case h_2 rest same =>
    obtain rfl : text = '/' :: rest := same
    have start : place.Reaches ⟨['/']⟩ [] := rfl
    obtain ⟨same, found⟩ := foldlM_advance?_of_becomes sound.tree plain becomes start
      (List.cons_ne_nil _ _) (slashFree_splitOn rest) reaches
    exact ⟨same, fun base isBase => ⟨(found base isBase).1, _, (found base isBase).2⟩⟩
  case h_3 notRoot =>
    have relative : text.head? ≠ some '/' := head?_ne_of_forall notRoot
    have start : place.Reaches ⟨['.']⟩ place.current := rfl
    obtain ⟨same, found⟩ := foldlM_advance?_of_becomes sound.tree plain becomes start
      (List.cons_ne_nil _ _) (slashFree_splitOn text)
      ((reaches_iff_follow_splitOn sound plain relative).mp reaches)
    exact ⟨same, fun base isBase => ⟨(found base isBase).1, _, (found base isBase).2⟩⟩

end

/-! ### Paths below -/

theorem components_step (path : FilePath) {name : List Char} (segment : IsSegment name) :
    (step path name).components =
      (if path.same ⟨['.']⟩ then [] else path.components) ++ [.name name] := by
  unfold step
  split_ifs
  · have free : name ≠ ['.'] := by
      rintro rfl
      cases segment.named
    rw [components, parts_piece segment.slashFree free, List.filterMap_cons_some segment.named]
    rfl
  · exact components_child_segment path segment

theorem not_same_current {before : List Component} {name : List Char}
    (given : path.components = before ++ [.name name]) : path.same ⟨['.']⟩ = false := by
  rw [← Bool.not_eq_true, same_iff, given]
  intro current
  have ending := congrArg List.getLast? current
  rw [List.getLast?_concat] at ending
  cases ending

/-- The current directory is not named in front of what is in it. -/
theorem components_foldl_step (base : FilePath) {names : List (List Char)} (notEmpty : names ≠ [])
    (segments : ∀ name ∈ names, IsSegment name) :
    (names.foldl step base).components =
      (if base.same ⟨['.']⟩ then [] else base.components) ++ names.map .name := by
  induction names using List.reverseRecOn with
  | nil => exact absurd rfl notEmpty
  | append_singleton front last inductionHypothesis =>
    have segment := segments last (by simp)
    have segmentsBefore : ∀ name ∈ front, IsSegment name := fun name member =>
      segments name (List.mem_append_left _ member)
    rw [List.foldl_append, List.foldl_cons, List.foldl_nil, components_step _ segment]
    by_cases isFirst : front = []
    · rw [isFirst]
      rfl
    · have whole := inductionHypothesis isFirst segmentsBefore
      have notCurrent : (front.foldl step base).same ⟨['.']⟩ = false := by
        obtain ⟨others, second, same⟩ := (List.eq_nil_or_concat front).resolve_left isFirst
        rw [List.concat_eq_append] at same
        conv at whole => rhs; rw [same, List.map_append, ← List.append_assoc]
        exact not_same_current whole
      rw [notCurrent, if_neg Bool.false_ne_true, whole, List.map_append, List.append_assoc]
      rfl

theorem text_foldl_step_ne_nil {names : List (List Char)} (filled : base.text ≠ [])
    (segments : ∀ name ∈ names, IsSegment name) : (names.foldl step base).text ≠ [] := by
  induction names generalizing base with
  | nil => exact filled
  | cons name rest inductionHypothesis =>
    obtain ⟨segment, segmentsBehind⟩ := List.forall_mem_cons.mp segments
    refine inductionHypothesis (text_step_ne_nil base ?_) segmentsBehind
    rintro rfl
    cases segment.named

/-- Names below a location lead there from a path that leads to the location. -/
theorem reaches_foldl_step (sound : place.tree.IsSound) (plain : place.tree.IsPlain)
    {location : Location} {names : List (List Char)} (reaches : place.Reaches base location)
    (filled : base.text ≠ [])
    (there : (place.tree.get? (location ++ names)).isSome = true) :
    place.Reaches (names.foldl step base) (location ++ names) := by
  induction names using List.reverseRecOn with
  | nil => rwa [List.append_nil]
  | append_singleton front last inductionHypothesis =>
    rw [← List.append_assoc] at there ⊢
    have directory := sound.inside _ _ there
    have isName := sound.named _ _ there
    rw [List.foldl_append]
    have before : (place.tree.get? (location ++ front)).isSome = true := by
      rw [directory]
      rfl
    have frontFilled : (front.foldl step base).text ≠ [] :=
      text_foldl_step_ne_nil filled fun name member =>
        (sound.named_of_below before name member).toIsSegment
    exact reaches_step plain (inductionHypothesis before) frontFilled isName.slashFree
      (Workplace.enter_name sound there)

/-! ### Source files -/

theorem namesBelow?_eq_some_iff {start location : Location} {names : List (List Char)} :
    namesBelow? start location = some names ↔ location = start ++ names ∧ names ≠ [] := by
  unfold namesBelow?
  constructor
  · intro given
    split at given
    case isFalse => cases given
    case isTrue within =>
      rw [Bool.and_eq_true, List.isPrefixOf_iff_prefix, decide_eq_true_iff] at within
      obtain ⟨⟨rest, rfl⟩, longer⟩ := within
      obtain rfl := Option.some.inj given
      rw [List.drop_left]
      refine ⟨rfl, ?_⟩
      rintro rfl
      simp at longer
  · rintro ⟨rfl, filled⟩
    have longer : start.length < (start ++ names).length := by
      rw [List.length_append]
      have := List.length_pos_iff.mpr filled
      omega
    rw [if_pos, List.drop_left]
    rw [Bool.and_eq_true, List.isPrefixOf_iff_prefix, decide_eq_true_iff]
    exact ⟨List.prefix_append start names, longer⟩

theorem mem_below_iff {tree : FileTree} {location : Location} :
    path ∈ below tree base location ↔
      ∃ names, names ≠ [] ∧ (tree.get? (location ++ names)).isSome = true ∧
        path = names.foldl step base := by
  unfold below pathBelow?
  simp only [List.mem_filterMap, Option.map_eq_some_iff, namesBelow?_eq_some_iff]
  constructor
  · rintro ⟨entry, isEntry, names, ⟨whole, filled⟩, rfl⟩
    exact ⟨names, filled, (isSome_get?_iff (by simp [filled])).mpr ⟨entry, isEntry, whole⟩, rfl⟩
  · rintro ⟨names, filled, there, rfl⟩
    obtain ⟨entry, isEntry, whole⟩ := (isSome_get?_iff (by simp [filled])).mp there
    exact ⟨entry, isEntry, names, ⟨whole, filled⟩, rfl⟩

/-- Without links all that is found lies below the path itself. -/
theorem belowWithin_of_isPlain (plain : place.tree.IsPlain) (links : Nat) (base : FilePath)
    (location : Location) :
    belowWithin place (links + 1) base location = below place.tree base location := by
  have noLinks : linksBelow place.tree base location = [] := by
    refine List.filterMap_eq_nil_iff.mpr fun entry isEntry => ?_
    obtain ⟨listed, isLink⟩ := List.mem_filter.mp isEntry
    have atRoot : entry.1 = [] := by
      refine ((isPlain_iff _).mp plain entry listed).resolve_right fun noLink => ?_
      rw [noLink] at isLink
      cases isLink
    rw [pathBelow?, atRoot]
    unfold namesBelow?
    simp
  rw [belowWithin, noLinks, List.flatMap_nil, List.append_nil]

theorem isSegment_of_below {tree : FileTree} (sound : tree.IsSound) {location : Location}
    {names : List (List Char)} (there : (tree.get? (location ++ names)).isSome = true) :
    ∀ name ∈ names, IsSegment name :=
  fun name member => (sound.named_of_below there name member).toIsSegment

/-- Whatever is below a path has a path of its own. -/
theorem pairwise_below {tree : FileTree} (sound : tree.IsSound) (base : FilePath)
    (location : Location) :
    (below tree base location).Pairwise fun left right => left.components ≠ right.components := by
  unfold below pathBelow?
  rw [List.pairwise_filterMap]
  refine (List.pairwise_map.mp tree.distinct).imp_of_mem ?_
  intro entry other isEntry isOther apart path isPath otherPath isOtherPath same
  obtain ⟨names, given, rfl⟩ := Option.map_eq_some_iff.mp isPath
  obtain ⟨others, givenToo, rfl⟩ := Option.map_eq_some_iff.mp isOtherPath
  obtain ⟨whole, notEmpty⟩ := namesBelow?_eq_some_iff.mp given
  obtain ⟨wholeToo, someToo⟩ := namesBelow?_eq_some_iff.mp givenToo
  have there : (tree.get? (location ++ names)).isSome = true :=
    (isSome_get?_iff (by simp [notEmpty])).mpr ⟨entry, isEntry, whole⟩
  have thereToo : (tree.get? (location ++ others)).isSome = true :=
    (isSome_get?_iff (by simp [someToo])).mpr ⟨other, isOther, wholeToo⟩
  rw [components_foldl_step base notEmpty (isSegment_of_below sound there),
    components_foldl_step base someToo (isSegment_of_below sound thereToo)] at same
  have sameNames : names = others :=
    List.map_injective_iff.mpr (fun _ _ => Component.name.inj) (List.append_cancel_left same)
  exact apart (by rw [whole, wholeToo, sameNames])

section

variable {start : Location} (sound : place.tree.IsSound) (plain : place.tree.IsPlain)
  (found : base? place directory = some base) (filled : base.text ≠ [])
  (reaches : place.Reaches base start)

include sound plain found filled reaches

/-- The source files of a project are the files below its directory that have the ending of source
files and are not left out, as far as their paths may be used. -/
theorem mem_sources_iff :
    path ∈ sources place directory ↔
      Workplace.checkPath base = .ok () ∧ ∃ names, names ≠ [] ∧ path = names.foldl step base ∧
        Workplace.checkPath path = .ok () ∧ place.tree.HoldsFile (start ++ names) ∧
        isNamedAsSource path = true ∧
        isExcluded ((path.relativeTo? directory).getD path) = false := by
  unfold sources
  rw [found]
  dsimp only
  split
  case h_1 error unlocated =>
    have notPath : Workplace.checkPath base ≠ .ok () := by
      intro isPath
      rw [Workplace.locate_eq_ok_iff.mpr ⟨isPath, reaches⟩] at unlocated
      cases unlocated
    simp [notPath]
  case h_2 location located =>
    obtain ⟨isPath, reachesToo⟩ := Workplace.locate_eq_ok_iff.mp located
    obtain rfl := reachesToo.unique reaches
    rw [List.mem_mergeSort, List.mem_filter, Workplace.linkLimit, belowWithin_of_isPlain plain,
      mem_below_iff, isSource, Bool.and_eq_true, Bool.and_eq_true, Bool.not_eq_true']
    constructor
    · rintro ⟨⟨names, notEmpty, there, rfl⟩, ⟨named, included⟩, file⟩
      have onward := reaches_foldl_step sound plain reaches filled there
      obtain ⟨isPathToo, holds⟩ := onward.hasFile_iff.mp file
      exact ⟨isPath, names, notEmpty, rfl, isPathToo, holds, named, included⟩
    · rintro ⟨_, names, notEmpty, rfl, isPathToo, holds, named, included⟩
      have onward := reaches_foldl_step sound plain reaches filled holds.isSome_get?
      exact ⟨⟨names, notEmpty, holds.isSome_get?, rfl⟩, ⟨named, included⟩,
        onward.hasFile_iff.mpr ⟨isPathToo, holds⟩⟩

end

/-- What is found are files with the names of source files. -/
theorem hasFile_of_mem_sources (isFound : path ∈ sources place directory) :
    place.hasFile path = true ∧ isNamedAsSource path = true := by
  unfold sources at isFound
  split at isFound
  case h_1 => cases isFound
  case h_2 =>
    split at isFound
    case h_1 => cases isFound
    case h_2 =>
      have isSource := (List.mem_filter.mp (List.mem_mergeSort.mp isFound)).2
      rw [Discovery.isSource, Bool.and_eq_true, Bool.and_eq_true] at isSource
      exact ⟨isSource.2, isSource.1.1⟩

/-- The source files come in order, and each of them once. -/
theorem pairwise_sources (sound : place.tree.IsSound) (plain : place.tree.IsPlain)
    (directory : FilePath) :
    (sources place directory).Pairwise fun left right => left.before right = true := by
  unfold sources
  split
  case h_1 => exact .nil
  case h_2 base _ =>
    split
    case h_1 => exact .nil
    case h_2 location _ =>
      dsimp only
      rw [Workplace.linkLimit, belowWithin_of_isPlain plain]
      have apart := (pairwise_below sound base location).filter (isSource place directory)
      generalize (below place.tree base location).filter (isSource place directory) = found
        at apart ⊢
      have inOrder {left right : FilePath} :
          (!right.before left) = true ↔ left.key ≤ right.key := by
        rw [Bool.not_eq_true', ← Bool.not_eq_true, before_iff, not_lt]
      have trans (first second third : FilePath) (before : (!second.before first) = true)
          (after : (!third.before second) = true) : (!third.before first) = true :=
        inOrder.mpr ((inOrder.mp before).trans (inOrder.mp after))
      have total (left right : FilePath) :
          ((!right.before left) || (!left.before right)) = true := by
        rw [Bool.or_eq_true, inOrder, inOrder]
        exact le_total left.key right.key
      have sorted := List.pairwise_mergeSort trans total found
      have apartToo := (List.mergeSort_perm found fun left right => !right.before left).pairwise_iff
        (fun differ => differ.symm) |>.mpr apart
      refine (sorted.and apartToo).imp fun {left right} both => ?_
      obtain ⟨ordered, differ⟩ := both
      exact before_iff.mpr
        (lt_of_le_of_ne (inOrder.mp ordered) fun same => differ (key_eq_iff.mp same))

/-! ### Source files while the tree changes -/

theorem sourceEnding_of_isNamedAsSource {name : List Char} (named : isNamedAsSource path = true)
    (isName : path.fileName? = some name) : sourceEnding <:+ name := by
  rw [isNamedAsSource, isName, Option.any_some] at named
  obtain ⟨stem, cut⟩ := Option.isSome_iff_exists.mp named
  exact ⟨stem, (dropEnd?_eq_some_iff.mp cut).symm⟩

/-- If no text is written under the name of a source file, the source files that are found below a
directory which is there stay the same. -/
theorem sources_of_becomes {written : Location → Prop} {later : FileTree} (sound : place.IsSound)
    (plain : place.tree.IsPlain) (soundLater : later.IsSound)
    (becomes : Becomes written place.tree later)
    (elsewhere : ∀ location name, written (location ++ [name]) → ¬ sourceEnding <:+ name)
    {location : Location} (reaches : place.Reaches directory location) :
    sources (place.withTree later) directory = sources place directory := by
  have plainLater : (place.withTree later).tree.IsPlain := becomes.isPlain plain
  obtain ⟨same, starts⟩ := base?_of_becomes sound plain becomes reaches
  cases found : base? place directory with
  | none =>
    unfold sources
    rw [same, found]
  | some base =>
    obtain ⟨filled, start, reachesStart⟩ := starts base found
    have sameFile {names : List (List Char)} (notEmpty : names ≠ [])
        (segments : ∀ name ∈ names, IsSegment name)
        (named : isNamedAsSource (names.foldl step base) = true) :
        later.HoldsFile (start ++ names) ↔ place.tree.HoldsFile (start ++ names) := by
      have components := components_foldl_step base notEmpty segments
      obtain ⟨front, last, rfl⟩ := (List.eq_nil_or_concat names).resolve_left notEmpty
      rw [List.concat_eq_append] at components named ⊢
      rw [List.map_append, ← List.append_assoc] at components
      have ending := sourceEnding_of_isNamedAsSource named (fileName?_of_components components)
      rw [← List.append_assoc]
      exact becomes.holdsFile_iff fun isWritten => elsewhere _ _ isWritten ending
    have sorted : (sources (place.withTree later) directory).Pairwise fun left right =>
        left.before right = true := pairwise_sources soundLater plainLater directory
    refine sorted.eq_of_mem_iff (pairwise_sources sound.tree plain directory) fun path => ?_
    have foundToo : base? (place.withTree later) directory = some base := same.trans found
    rw [mem_sources_iff soundLater plainLater foundToo filled (reachesStart.of_becomes becomes),
      mem_sources_iff sound.tree plain found filled reachesStart]
    refine and_congr_right fun _ => exists_congr fun names => ?_
    constructor
    · rintro ⟨notEmpty, rfl, isPath, holds, named, included⟩
      have segments := isSegment_of_below soundLater holds.isSome_get?
      exact ⟨notEmpty, rfl, isPath, (sameFile notEmpty segments named).mp holds, named, included⟩
    · rintro ⟨notEmpty, rfl, isPath, holds, named, included⟩
      have segments := isSegment_of_below sound.tree holds.isSome_get?
      exact ⟨notEmpty, rfl, isPath, (sameFile notEmpty segments named).mpr holds, named, included⟩

end SharpTypes.Discovery

/-
How far the search for source files reaches. It finds exactly the source files below the directory
that lie in no directory which is left out, wherever the directory itself lies. Only a dot in front
of its path leads astray. The dot is not repeated in the paths that are found, so they do not start
with the path of the directory, and all their names decide what is left out. And an empty piece
right behind the dot ends the search.
-/

import Mathlib.Tactic.Common
import SharpTypes.Proofs.Discovery

namespace SharpTypes

open Text FilePath FileTree

/-! ### Paths that may be used -/

namespace Workplace

variable {path longer : FilePath}

theorem checkPath_eq_ok_iff :
    checkPath path = .ok () ↔
      '\x00' ∉ path.text ∧ path.text ≠ [] ∧ byteSize path.text < pathLimit := by
  unfold checkPath
  split_ifs <;> simp_all

/-- A path may be used if a longer one may. -/
theorem checkPath_of_longer (filled : path.text ≠ []) (front : path.text <+: longer.text)
    (isPath : checkPath longer = .ok ()) : checkPath path = .ok () := by
  obtain ⟨behind, whole⟩ := front
  obtain ⟨noNul, _, short⟩ := checkPath_eq_ok_iff.mp isPath
  rw [← whole, byteSize_append] at short
  rw [← whole] at noNul
  exact checkPath_eq_ok_iff.mpr
    ⟨fun member => noNul (List.mem_append_left _ member), filled, by omega⟩

end Workplace

namespace Discovery

open Workplace

variable {place : Workplace} {directory path base next : FilePath} {piece : List Char}
  {pieces names : List (List Char)} {location start arrived : Location}

/-! ### Paths that lead away -/

/-- A path that says more than where it starts. Steps go on behind it. -/
structure LeadsAway (path : FilePath) : Prop where
  filled : path.text ≠ []
  notCurrent : path.components ≠ [.current]

namespace LeadsAway

theorem step_eq (away : LeadsAway path) (piece : List Char) :
    step path piece = path.child piece :=
  if_neg (mt same_iff.mp away.notCurrent)

theorem components_step (away : LeadsAway path) (slashFree : '/' ∉ piece) :
    (step path piece).components = path.components ++ (componentOf? piece).toList := by
  rw [away.step_eq, components_child_piece away.filled slashFree]

theorem prefix_step (away : LeadsAway path) (slashFree : '/' ∉ piece) :
    path.text <+: (step path piece).text := by
  have relative : isRelative ⟨piece⟩ = true :=
    isRelative_iff.mpr fun slash => slashFree (List.mem_of_mem_head? slash)
  rw [away.step_eq, child, FilePath.join, if_pos relative]
  split
  · exact List.prefix_append _ _
  · exact List.prefix_append _ _

theorem step (away : LeadsAway path) (slashFree : '/' ∉ piece) : LeadsAway (step path piece) where
  filled empty := away.filled (List.prefix_nil.mp (empty ▸ away.prefix_step slashFree))
  notCurrent := by
    rw [away.components_step slashFree, Ne, List.append_eq_singleton_iff, components_eq_nil_iff]
    rintro (⟨empty, _⟩ | ⟨current, _⟩)
    · exact away.filled empty
    · exact away.notCurrent current

/-- What the steps from such a path keep. -/
theorem foldl_step (away : LeadsAway path) (slashFree : ∀ piece ∈ pieces, '/' ∉ piece) :
    LeadsAway (pieces.foldl Discovery.step path) ∧
      path.text <+: (pieces.foldl Discovery.step path).text ∧
      (pieces.foldl Discovery.step path).components =
        path.components ++ pieces.filterMap componentOf? := by
  induction pieces generalizing path with
  | nil => exact ⟨away, List.prefix_rfl, (List.append_nil _).symm⟩
  | cons piece rest inductionHypothesis =>
    obtain ⟨pieceFree, restFree⟩ := List.forall_mem_cons.mp slashFree
    obtain ⟨awayToo, front, components⟩ := inductionHypothesis (away.step pieceFree) restFree
    refine ⟨awayToo, (away.prefix_step pieceFree).trans front, ?_⟩
    rw [List.foldl_cons, components, away.components_step pieceFree, List.append_assoc,
      filterMap_componentOf?_cons]

theorem reaches_foldl_step (away : LeadsAway path) (plain : place.tree.IsPlain)
    (slashFree : ∀ piece ∈ pieces, '/' ∉ piece)
    (reaches : place.Reaches path location)
    (followed : follow place.tree location pieces = .ok arrived) :
    place.Reaches (pieces.foldl Discovery.step path) arrived := by
  induction pieces generalizing path location with
  | nil =>
    obtain rfl : location = arrived := Except.ok.inj followed
    exact reaches
  | cons piece rest inductionHypothesis =>
    obtain ⟨pieceFree, restFree⟩ := List.forall_mem_cons.mp slashFree
    obtain ⟨next, entered, followed⟩ := exists_of_follow_cons plain followed
    exact inductionHypothesis (away.step pieceFree) restFree
      (reaches_step plain reaches away.filled pieceFree entered) followed

end LeadsAway

/-! ### The way to the directory -/

/-- The search goes on where the piece leads on and the paths may be used. -/
theorem advance?_of_enter (sound : place.tree.IsSound) (plain : place.tree.IsPlain)
    (reaches : place.Reaches path location) (filled : path.text ≠ []) (slashFree : '/' ∉ piece)
    (entered : enter place.tree location piece = .ok arrived)
    (isPath : checkPath path = .ok ()) (isNext : checkPath (step path piece) = .ok ()) :
    advance? place path piece = some (step path piece) := by
  have onward := reaches_step plain reaches filled slashFree entered
  unfold advance?
  dsimp only
  split
  · rw [reaches.hasDirectory_iff.mpr ⟨isPath, directory_of_enter entered⟩]
    rfl
  · rw [onward.isThere_iff.mpr ⟨isNext, isSome_of_enter sound entered⟩]
    rfl

theorem enter_of_reaches_child (plain : place.tree.IsPlain) (reaches : place.Reaches path location)
    (onward : place.Reaches (path.child piece) arrived) (filled : path.text ≠ [])
    (slashFree : '/' ∉ piece) : enter place.tree location piece = .ok arrived := by
  obtain ⟨front, whole, before⟩ := exists_parts_child filled slashFree
  have sameOrigin : place.origin (path.child piece) = place.origin path :=
    place.origin_congr (by rw [whole])
  unfold Reaches at reaches onward
  rw [whole, sameOrigin] at onward
  obtain ⟨reached, followed, last⟩ := exists_of_follow_append plain onward
  obtain ⟨next, entered, arrives⟩ := exists_of_follow_cons plain last
  obtain rfl : next = arrived := Except.ok.inj arrives
  -- An empty piece at the end of the path, whose place the new one takes, led nowhere else.
  have here : location = reached := by
    rcases before with same | same
    · rw [same, followed] at reaches
      exact (Except.ok.inj reaches).symm
    · rw [same, follow_append plain followed] at reaches
      exact toward_of_follow plain reaches
  rw [here, entered]

/-- A step leads only where its piece leads on, unless it is a dot. -/
theorem enter_of_reaches_step (plain : place.tree.IsPlain) (reaches : place.Reaches path location)
    (onward : place.Reaches (step path piece) arrived) (filled : path.text ≠ [])
    (slashFree : '/' ∉ piece) (notDot : piece ≠ ['.']) :
    enter place.tree location piece = .ok arrived := by
  unfold step at onward
  split at onward
  case isFalse => exact enter_of_reaches_child plain reaches onward filled slashFree
  case isTrue same =>
    have here : location = place.current := by
      rw [reaches.eq_placeOf plain, placeOf, same_iff.mp same]
      rfl
    have relative : piece.head? ≠ some '/' := fun slash => slashFree (List.mem_of_mem_head? slash)
    unfold Reaches at onward
    rw [place.origin_of_relative relative, parts_piece slashFree notDot] at onward
    obtain ⟨next, entered, arrives⟩ := exists_of_follow_cons plain onward
    obtain rfl : next = arrived := Except.ok.inj arrives
    rw [here, entered]

/-- The search goes on only where the piece leads on. -/
theorem exists_enter_of_advance? (plain : place.tree.IsPlain)
    (reaches : place.Reaches path location) (filled : path.text ≠ []) (slashFree : '/' ∉ piece)
    (advanced : advance? place path piece = some next) :
    ∃ arrived, enter place.tree location piece = .ok arrived := by
  unfold advance? at advanced
  dsimp only at advanced
  split_ifs at advanced with dots directory there
  · have directory := (reaches.hasDirectory_iff.mp directory).2
    unfold enter
    rw [hasDirectory_iff.mpr directory]
    rcases dots with rfl | rfl
    · exact ⟨_, rfl⟩
    · exact ⟨_, rfl⟩
  · obtain ⟨arrived, located, _⟩ := isThere_iff_locate.mp there
    have onward := (locate_eq_ok_iff.mp located).2
    have notDot : piece ≠ ['.'] := fun dot => dots (.inl dot)
    exact ⟨arrived, enter_of_reaches_step plain reaches onward filled slashFree notDot⟩

theorem exists_follow_of_foldlM_advance? (plain : place.tree.IsPlain)
    (reaches : place.Reaches path location) (filled : path.text ≠ [])
    (slashFree : ∀ piece ∈ pieces, '/' ∉ piece)
    (found : pieces.foldlM (advance? place) path = some base) :
    base = pieces.foldl step path ∧ ∃ arrived, follow place.tree location pieces = .ok arrived := by
  induction pieces generalizing path location with
  | nil => exact ⟨(Option.some.inj found).symm, location, rfl⟩
  | cons piece rest inductionHypothesis =>
    obtain ⟨pieceFree, restFree⟩ := List.forall_mem_cons.mp slashFree
    rw [List.foldlM_cons] at found
    obtain ⟨next, advanced, found⟩ := Option.bind_eq_some_iff.mp found
    obtain ⟨reached, entered⟩ := exists_enter_of_advance? plain reaches filled pieceFree advanced
    obtain ⟨rfl, nextFilled⟩ := advance?_eq_some advanced
    rw [follow_cons entered (plain reached)]
    exact inductionHypothesis (reaches_step plain reaches filled pieceFree entered) nextFilled
      restFree found

/-- From a path that leads away the search goes on to the end if the pieces lead there and the path
at the end may be used. -/
theorem foldlM_advance?_of_follow (sound : place.tree.IsSound) (plain : place.tree.IsPlain)
    (away : LeadsAway path) (reaches : place.Reaches path location)
    (slashFree : ∀ piece ∈ pieces, '/' ∉ piece)
    (followed : follow place.tree location pieces = .ok arrived)
    (isPath : checkPath (pieces.foldl step path) = .ok ()) :
    pieces.foldlM (advance? place) path = some (pieces.foldl step path) := by
  induction pieces generalizing path location with
  | nil => rfl
  | cons piece rest inductionHypothesis =>
    obtain ⟨pieceFree, restFree⟩ := List.forall_mem_cons.mp slashFree
    obtain ⟨reached, entered, followed⟩ := exists_of_follow_cons plain followed
    -- The text grows with every step, so the paths on the way may be used if the last one may.
    have awayToo := away.step pieceFree
    obtain ⟨_, front, _⟩ := awayToo.foldl_step restFree
    have isNext := checkPath_of_longer awayToo.filled front isPath
    have isHere := checkPath_of_longer away.filled (away.prefix_step pieceFree) isNext
    rw [List.foldlM_cons,
      advance?_of_enter sound plain reaches away.filled pieceFree entered isHere isNext]
    exact inductionHypothesis awayToo (reaches_step plain reaches away.filled pieceFree entered)
      restFree followed isPath

/-! ### From the current directory -/

/-- A piece with a meaning leads away from the current directory. -/
theorem leadsAway_piece (slashFree : '/' ∉ piece) (notIdle : isIdle piece = false) :
    LeadsAway ⟨piece⟩ ∧ components ⟨piece⟩ = (componentOf? piece).toList := by
  have notDot : piece ≠ ['.'] := by
    rintro rfl
    cases notIdle
  have whole : components ⟨piece⟩ = (componentOf? piece).toList := by
    rw [components, parts_piece slashFree notDot, filterMap_componentOf?_cons]
    exact List.append_nil _
  refine ⟨⟨?_, ?_⟩, whole⟩
  · rintro rfl
    cases notIdle
  · rw [whole, componentOf?, notIdle]
    split_ifs <;> simp

/-- How pieces lead on from the current directory: dots stay there, and the first piece behind them
has a meaning. -/
inductive FromCurrent : List (List Char) → Prop where
  | nil : FromCurrent []
  | dot {rest : List (List Char)} (onward : FromCurrent rest) : FromCurrent (['.'] :: rest)
  | away {piece : List Char} {rest : List (List Char)} (notIdle : isIdle piece = false) :
      FromCurrent (piece :: rest)

/-- The pieces lead on unless an empty one comes first behind the dots. -/
theorem fromCurrent_iff :
    FromCurrent pieces ↔ (pieces.dropWhile (· == ['.'])).head? ≠ some [] := by
  constructor
  · intro way
    induction way with
    | nil => simp
    | dot _ inductionHypothesis => exact inductionHypothesis
    | away notIdle =>
      rw [isIdle, Bool.or_eq_false_iff, beq_eq_false_iff_ne] at notIdle
      rw [List.dropWhile_cons_of_neg (by simpa using notIdle.2), List.head?_cons]
      exact fun empty => notIdle.1 (Option.some.inj empty)
  · intro goesOn
    induction pieces with
    | nil => exact .nil
    | cons piece rest inductionHypothesis =>
      by_cases dot : piece = ['.']
      · subst dot
        exact .dot (inductionHypothesis goesOn)
      · rw [List.dropWhile_cons_of_neg (by simpa using dot), List.head?_cons] at goesOn
        have notEmpty : piece ≠ [] := fun empty => goesOn (by rw [empty])
        exact .away (by simpa [isIdle, dot] using notEmpty)

theorem advance?_dot (sound : place.IsSound) (plain : place.tree.IsPlain) :
    advance? place ⟨['.']⟩ ['.'] = some ⟨['.']⟩ := by
  have here : place.Reaches ⟨['.']⟩ place.current := rfl
  have stays : enter place.tree place.current ['.'] = .ok place.current :=
    enter_of_isIdle sound.current rfl
  exact advance?_of_enter sound.tree plain here (by decide) (by decide) stays rfl rfl

/-- Where the search goes on to the end, the pieces lead on. -/
theorem fromCurrent_of_foldlM_advance?
    (found : pieces.foldlM (advance? place) ⟨['.']⟩ = some base) : FromCurrent pieces := by
  induction pieces with
  | nil => exact .nil
  | cons piece rest inductionHypothesis =>
    rw [List.foldlM_cons] at found
    obtain ⟨next, advanced, found⟩ := Option.bind_eq_some_iff.mp found
    obtain ⟨rfl, filled⟩ := advance?_eq_some advanced
    by_cases dot : piece = ['.']
    · subst dot
      exact .dot (inductionHypothesis found)
    · have notEmpty : piece ≠ [] := filled
      exact .away (by simpa [isIdle, dot] using notEmpty)

namespace FromCurrent

/-- What the steps from the current directory keep. -/
theorem foldl_step (way : FromCurrent pieces) (slashFree : ∀ piece ∈ pieces, '/' ∉ piece) :
    pieces.foldl step ⟨['.']⟩ = ⟨['.']⟩ ∧ pieces.filterMap componentOf? = [] ∨
      LeadsAway (pieces.foldl step ⟨['.']⟩) ∧
        (pieces.foldl step ⟨['.']⟩).components = pieces.filterMap componentOf? := by
  induction way with
  | nil => exact .inl ⟨rfl, rfl⟩
  | dot _ inductionHypothesis => exact inductionHypothesis (List.forall_mem_cons.mp slashFree).2
  | away notIdle =>
    obtain ⟨pieceFree, restFree⟩ := List.forall_mem_cons.mp slashFree
    obtain ⟨away, components⟩ := leadsAway_piece pieceFree notIdle
    obtain ⟨awayToo, _, further⟩ := away.foldl_step restFree
    refine .inr ⟨awayToo, ?_⟩
    rw [filterMap_componentOf?_cons, ← components]
    exact further

theorem reaches_foldl_step (way : FromCurrent pieces) (slashFree : ∀ piece ∈ pieces, '/' ∉ piece)
    (sound : place.IsSound) (plain : place.tree.IsPlain)
    (followed : follow place.tree place.current pieces = .ok arrived) :
    place.Reaches (pieces.foldl step ⟨['.']⟩) arrived := by
  have here : place.Reaches ⟨['.']⟩ place.current := rfl
  induction way with
  | nil => exact followed
  | dot _ inductionHypothesis =>
    rw [follow_cons (enter_of_isIdle sound.current rfl) (plain _)] at followed
    exact inductionHypothesis (List.forall_mem_cons.mp slashFree).2 followed
  | away notIdle =>
    obtain ⟨pieceFree, restFree⟩ := List.forall_mem_cons.mp slashFree
    obtain ⟨away, _⟩ := leadsAway_piece pieceFree notIdle
    obtain ⟨next, entered, followed⟩ := exists_of_follow_cons plain followed
    have onward := reaches_step plain here (by decide) pieceFree entered
    exact away.reaches_foldl_step plain restFree onward followed

theorem foldlM_advance? (way : FromCurrent pieces) (slashFree : ∀ piece ∈ pieces, '/' ∉ piece)
    (sound : place.IsSound) (plain : place.tree.IsPlain)
    (followed : follow place.tree place.current pieces = .ok arrived)
    (isPath : checkPath (pieces.foldl step ⟨['.']⟩) = .ok ()) :
    pieces.foldlM (advance? place) ⟨['.']⟩ = some (pieces.foldl step ⟨['.']⟩) := by
  have here : place.Reaches ⟨['.']⟩ place.current := rfl
  induction way with
  | nil => rfl
  | dot _ inductionHypothesis =>
    rw [follow_cons (enter_of_isIdle sound.current rfl) (plain _)] at followed
    rw [List.foldlM_cons, advance?_dot sound plain]
    exact inductionHypothesis (List.forall_mem_cons.mp slashFree).2 followed isPath
  | away notIdle =>
    obtain ⟨pieceFree, restFree⟩ := List.forall_mem_cons.mp slashFree
    obtain ⟨away, _⟩ := leadsAway_piece pieceFree notIdle
    obtain ⟨next, entered, followed⟩ := exists_of_follow_cons plain followed
    obtain ⟨_, front, _⟩ := away.foldl_step restFree
    have isFirst := checkPath_of_longer away.filled front isPath
    have onward := reaches_step plain here (by decide) pieceFree entered
    rw [List.foldlM_cons,
      advance?_of_enter sound.tree plain here (by decide) pieceFree entered rfl isFirst]
    exact foldlM_advance?_of_follow sound.tree plain away onward restFree followed isPath

end FromCurrent

/-! ### Where the search starts -/

/-- The path at which the search starts, if it gets there. -/
def startPath (directory : FilePath) : FilePath :=
  match directory.text with
  | '/' :: rest => (splitOn '/' rest).foldl step ⟨['/']⟩
  | text => (splitOn '/' text).foldl step ⟨['.']⟩

/-- The path under which the search finds what the names lead to from the directory. -/
def pathBelow (directory : FilePath) (names : List (List Char)) : FilePath :=
  names.foldl step (startPath directory)

/-- Whether the search ends on the way to the directory: there is an empty piece right behind the
dots in front. -/
def LosesWay (directory : FilePath) : Prop :=
  directory.parts.anchor = .current ∧
    (directory.parts.pieces.dropWhile (· == ['.'])).head? = some []

instance : Decidable (LosesWay directory) :=
  inferInstanceAs (Decidable (_ ∧ _))

theorem startPath_of_relative {text : List Char} (relative : text.head? ≠ some '/') :
    startPath ⟨text⟩ = (splitOn '/' text).foldl step ⟨['.']⟩ := by
  unfold startPath
  split
  case h_1 rest same =>
    obtain rfl : text = '/' :: rest := same
    exact absurd rfl relative
  case h_2 => rfl

theorem base?_of_relative {text : List Char} (filled : text ≠ [])
    (relative : text.head? ≠ some '/') :
    base? place ⟨text⟩ = (splitOn '/' text).foldlM (advance? place) ⟨['.']⟩ := by
  unfold base?
  split
  case h_1 empty => exact absurd empty filled
  case h_2 rest same =>
    obtain rfl : text = '/' :: rest := same
    exact absurd rfl relative
  case h_3 => rfl

theorem not_losesWay_iff {text : List Char} (filled : text ≠ [])
    (relative : text.head? ≠ some '/') :
    ¬ LosesWay ⟨text⟩ ↔ FromCurrent (splitOn '/' text) := by
  rw [fromCurrent_iff, LosesWay]
  obtain ⟨first, pieces, split⟩ := List.exists_cons_of_ne_nil (splitOn_ne_nil '/' text)
  by_cases current : first = ['.']
  · rw [current] at split
    rw [parts_of_current relative split, split]
    simp
  · have free := parts_of_free relative (by rw [split]; simpa using current)
    have headFree := (wellFormed_parts ⟨text⟩).headFree
    rw [free] at headFree ⊢
    have notEmpty : first ≠ [] := by
      intro empty
      have alone : splitOn '/' text = [[]] :=
        (headFree rfl first (Option.mem_def.mpr (by rw [split]; rfl))).2 empty
      have whole := join_splitOn '/' text
      rw [alone] at whole
      exact filled whole.symm
    rw [split, List.dropWhile_cons_of_neg (by simpa using current), List.head?_cons]
    simp [notEmpty]

theorem not_losesWay_of_slash (rest : List Char) : ¬ LosesWay ⟨'/' :: rest⟩ := by
  rintro ⟨current, _⟩
  cases current

theorem leadsAway_root : LeadsAway ⟨['/']⟩ :=
  ⟨by decide, by decide⟩

theorem ne_current_of_mem_filterMap {component : Component}
    (member : component ∈ pieces.filterMap componentOf?) : component ≠ .current := by
  obtain ⟨piece, _, given⟩ := List.mem_filterMap.mp member
  rcases eq_or_eq_of_componentOf? given with rfl | rfl <;> simp

/-- The components of a path that are not a dot in front. -/
def spelledOut (path : FilePath) : List Component :=
  path.components.filter (· ≠ .current)

theorem spelledOut_eq (path : FilePath) :
    spelledOut path = path.parts.anchor.components.filter (· ≠ .current) ++
      path.parts.pieces.filterMap componentOf? := by
  rw [spelledOut, components, List.filter_append]
  congr 1
  rw [List.filter_eq_self]
  exact fun component member => by simpa using ne_current_of_mem_filterMap member

section

variable (filled : directory.text ≠ [])

include filled

/-- The path at which the search starts has the components of the directory, less a dot in front. -/
theorem startPath_cases (goesOn : ¬ LosesWay directory) :
    startPath directory = ⟨['.']⟩ ∧ spelledOut directory = [] ∨
      LeadsAway (startPath directory) ∧
        (startPath directory).components = spelledOut directory := by
  obtain ⟨text⟩ := directory
  rw [spelledOut_eq]
  by_cases atRoot : text.head? = some '/'
  · obtain ⟨rest, rfl⟩ := List.head?_eq_some_iff.mp atRoot
    obtain ⟨away, _, components⟩ := leadsAway_root.foldl_step (slashFree_splitOn rest)
    exact .inr ⟨away, components⟩
  · have way := (not_losesWay_iff filled atRoot).mp goesOn
    have nothing : (parts ⟨text⟩).anchor.components.filter (· ≠ .current) = [] := by
      have notRoot : (parts ⟨text⟩).anchor ≠ .root :=
        decide_eq_true_iff.mp (isRelative_iff.mpr atRoot)
      cases anchor : (parts ⟨text⟩).anchor with
      | root => exact absurd anchor notRoot
      | current => rfl
      | free => rfl
    rw [startPath_of_relative atRoot, nothing, List.nil_append,
      ← filterMap_splitOn_of_relative atRoot]
    exact way.foldl_step (slashFree_splitOn text)

theorem reaches_startPath (sound : place.IsSound) (plain : place.tree.IsPlain)
    (goesOn : ¬ LosesWay directory) (reaches : place.Reaches directory start) :
    place.Reaches (startPath directory) start := by
  obtain ⟨text⟩ := directory
  by_cases atRoot : text.head? = some '/'
  · obtain ⟨rest, rfl⟩ := List.head?_eq_some_iff.mp atRoot
    have here : place.Reaches ⟨['/']⟩ [] := rfl
    exact leadsAway_root.reaches_foldl_step plain (slashFree_splitOn rest) here reaches
  · rw [startPath_of_relative atRoot]
    have way := (not_losesWay_iff filled atRoot).mp goesOn
    have followed := (reaches_iff_follow_splitOn sound plain atRoot).mp reaches
    exact way.reaches_foldl_step (slashFree_splitOn text) sound plain followed

theorem base?_eq_startPath (sound : place.IsSound) (plain : place.tree.IsPlain)
    (goesOn : ¬ LosesWay directory) (reaches : place.Reaches directory start)
    (isPath : checkPath (startPath directory) = .ok ()) :
    base? place directory = some (startPath directory) := by
  obtain ⟨text⟩ := directory
  by_cases atRoot : text.head? = some '/'
  · obtain ⟨rest, rfl⟩ := List.head?_eq_some_iff.mp atRoot
    have here : place.Reaches ⟨['/']⟩ [] := rfl
    exact foldlM_advance?_of_follow sound.tree plain leadsAway_root here (slashFree_splitOn rest)
      reaches isPath
  · rw [startPath_of_relative atRoot] at isPath ⊢
    have way := (not_losesWay_iff filled atRoot).mp goesOn
    have followed := (reaches_iff_follow_splitOn sound plain atRoot).mp reaches
    rw [base?_of_relative filled atRoot]
    exact way.foldlM_advance? (slashFree_splitOn text) sound plain followed isPath

theorem exists_start_of_base? (sound : place.IsSound) (plain : place.tree.IsPlain)
    (found : base? place directory = some base) :
    base = startPath directory ∧ ¬ LosesWay directory ∧
      ∃ start, place.Reaches directory start := by
  obtain ⟨text⟩ := directory
  by_cases atRoot : text.head? = some '/'
  · obtain ⟨rest, rfl⟩ := List.head?_eq_some_iff.mp atRoot
    have here : place.Reaches ⟨['/']⟩ [] := rfl
    obtain ⟨rfl, start, followed⟩ :=
      exists_follow_of_foldlM_advance? plain here leadsAway_root.filled (slashFree_splitOn rest)
        found
    exact ⟨rfl, not_losesWay_of_slash rest, start, followed⟩
  · rw [base?_of_relative filled atRoot] at found
    have here : place.Reaches ⟨['.']⟩ place.current := rfl
    have way := fromCurrent_of_foldlM_advance? found
    obtain ⟨rfl, start, followed⟩ :=
      exists_follow_of_foldlM_advance? plain here (by decide) (slashFree_splitOn text) found
    exact ⟨(startPath_of_relative atRoot).symm, (not_losesWay_iff filled atRoot).mpr way, start,
      (reaches_iff_follow_splitOn sound plain atRoot).mpr followed⟩

end

/-! ### What is found -/

/-- A source file of the project in a directory at a location: the names that lead to it from there,
none of which is left out. -/
structure IsSourceBelow (tree : FileTree) (start : Location) (names : List (List Char)) : Prop where
  file : tree.HoldsFile (start ++ names)
  named : ∃ name ∈ names.getLast?, sourceEnding <:+ name
  included : ∀ name ∈ names, name ∉ excludedNames

namespace IsSourceBelow

variable {tree : FileTree}

theorem names_ne_nil (source : IsSourceBelow tree start names) : names ≠ [] := by
  rintro rfl
  obtain ⟨_, isLast, _⟩ := source.named
  cases isLast

theorem segments (sound : tree.IsSound) (source : IsSourceBelow tree start names) :
    ∀ name ∈ names, IsSegment name :=
  isSegment_of_below sound source.file.isSome_get?

end IsSourceBelow

/-- Whether a dot in front of the path of the directory leads the search astray: it ends on the way,
or the path leads through a directory that is left out. -/
def GoesAstray (directory : FilePath) : Prop :=
  LosesWay directory ∨ directory.parts.anchor = .current ∧ isExcluded directory = true

instance : Decidable (GoesAstray directory) :=
  inferInstanceAs (Decidable (_ ∨ _))

theorem isExcluded_eq_false_iff :
    isExcluded path = false ↔ ∀ name, .name name ∈ path.components → name ∉ excludedNames := by
  unfold isExcluded
  rw [List.any_eq_false]
  constructor
  · intro included name member
    simpa using included _ member
  · rintro included (_ | _ | _ | name) member
    · simp
    · simp
    · simp
    · simpa using included name member

theorem isNamedAsSource_iff {before : List Component} (notEmpty : names ≠ [])
    (whole : path.components = before ++ names.map .name) :
    isNamedAsSource path = true ↔ ∃ name ∈ names.getLast?, sourceEnding <:+ name := by
  obtain ⟨front, last, rfl⟩ := (List.eq_nil_or_concat names).resolve_left notEmpty
  rw [List.concat_eq_append] at whole ⊢
  rw [List.map_append, ← List.append_assoc] at whole
  rw [isNamedAsSource, fileName?_of_components whole, List.getLast?_concat]
  simp only [Option.any_some, Option.isSome_iff_exists, dropEnd?_eq_some_iff, Option.mem_def,
    Option.some.injEq, exists_eq_left']
  exact exists_congr fun stem => eq_comm

/-- What is left out is told by the names below the directory, and also by those of its own path if
that has a dot in front. -/
theorem isExcluded_below_iff (filled : directory.text ≠ [])
    (whole : path.components = spelledOut directory ++ names.map .name) :
    isExcluded ((path.relativeTo? directory).getD path) = false ↔
      ¬ (directory.parts.anchor = .current ∧ isExcluded directory = true) ∧
        ∀ name ∈ names, name ∉ excludedNames := by
  by_cases current : directory.parts.anchor = .current
  · -- Without the dot the path does not start with that of the directory, so all its names count.
    have elsewhere : ¬ directory.components <+: path.components := by
      intro front
      have dot : .current ∈ path.components := front.subset <| by
        rw [components, current]
        exact List.mem_cons_self
      rw [whole] at dot
      simp [spelledOut] at dot
    have same (name : List Char) :
        .name name ∈ spelledOut directory ↔ .name name ∈ directory.components := by
      simp [spelledOut]
    rw [relativeTo?_eq_none elsewhere, Option.getD_none, isExcluded_eq_false_iff, whole,
      not_and, Bool.not_eq_true, isExcluded_eq_false_iff]
    simp [current, same, or_imp, forall_and]
  · have all : spelledOut directory = directory.components := by
      rw [spelledOut_eq, components]
      cases anchor : directory.parts.anchor with
      | root => rfl
      | current => exact absurd anchor current
      | free => rfl
    rw [all] at whole
    obtain ⟨relative, isRelative, components⟩ := relativeTo?_of_components filled whole
    rw [isRelative, Option.getD_some, isExcluded_eq_false_iff, components]
    simp [current]

theorem components_pathBelow (filled : directory.text ≠ []) (goesOn : ¬ LosesWay directory)
    (notEmpty : names ≠ []) (segments : ∀ name ∈ names, IsSegment name) :
    (pathBelow directory names).components = spelledOut directory ++ names.map .name := by
  rw [pathBelow, components_foldl_step _ notEmpty segments]
  rcases startPath_cases filled goesOn with ⟨current, nothing⟩ | ⟨away, components⟩
  · rw [current, nothing]
    rfl
  · rw [if_neg (mt same_iff.mp away.notCurrent), components]

theorem checkPath_startPath (filled : directory.text ≠ []) (goesOn : ¬ LosesWay directory)
    (segments : ∀ name ∈ names, IsSegment name)
    (isPath : checkPath (pathBelow directory names) = .ok ()) :
    checkPath (startPath directory) = .ok () := by
  rcases startPath_cases filled goesOn with ⟨current, _⟩ | ⟨away, _⟩
  · rw [current]
    rfl
  · obtain ⟨_, front, _⟩ := away.foldl_step fun name member => (segments name member).slashFree
    exact checkPath_of_longer away.filled front isPath

theorem text_startPath_ne_nil (filled : directory.text ≠ []) (goesOn : ¬ LosesWay directory) :
    (startPath directory).text ≠ [] := by
  rcases startPath_cases filled goesOn with ⟨current, _⟩ | ⟨away, _⟩
  · rw [current]
    decide
  · exact away.filled

theorem mem_sources_iff_isSourceBelow (sound : place.IsSound) (plain : place.tree.IsPlain)
    (filled : directory.text ≠ []) :
    path ∈ sources place directory ↔
      ¬ GoesAstray directory ∧ ∃ start names, place.Reaches directory start ∧
        IsSourceBelow place.tree start names ∧ path = pathBelow directory names ∧
        checkPath path = .ok () := by
  constructor
  · intro isFound
    cases found : base? place directory with
    | none =>
      rw [sources, found] at isFound
      cases isFound
    | some base =>
      obtain ⟨rfl, goesOn, start, reaches⟩ := exists_start_of_base? filled sound plain found
      obtain ⟨_, names, notEmpty, rfl, isPath, holds, named, included⟩ :=
        (mem_sources_iff sound.tree plain found (text_startPath_ne_nil filled goesOn)
          (reaches_startPath filled sound plain goesOn reaches)).mp isFound
      have whole := components_pathBelow filled goesOn notEmpty
        (isSegment_of_below sound.tree holds.isSome_get?)
      obtain ⟨apart, allIncluded⟩ := (isExcluded_below_iff filled whole).mp included
      exact ⟨not_or.mpr ⟨goesOn, apart⟩, start, names, reaches,
        ⟨holds, (isNamedAsSource_iff notEmpty whole).mp named, allIncluded⟩, rfl, isPath⟩
  · rintro ⟨notAstray, start, names, reaches, source, rfl, isPath⟩
    obtain ⟨goesOn, apart⟩ := not_or.mp notAstray
    have segments := source.segments sound.tree
    have whole := components_pathBelow filled goesOn source.names_ne_nil segments
    have isStart := checkPath_startPath filled goesOn segments isPath
    have found := base?_eq_startPath filled sound plain goesOn reaches isStart
    exact (mem_sources_iff sound.tree plain found (text_startPath_ne_nil filled goesOn)
      (reaches_startPath filled sound plain goesOn reaches)).mpr
        ⟨isStart, names, source.names_ne_nil, rfl, isPath, source.file,
          (isNamedAsSource_iff source.names_ne_nil whole).mpr source.named,
          (isExcluded_below_iff filled whole).mpr ⟨apart, source.included⟩⟩

/-- In every tree without symbolic links the search finds exactly the source files below the
directory, in order and each of them once:
those that lie in no directory which is left out, as far as their paths may be used. They have the
components of the directory, less a dot in front, with the names behind. Only a dot in front leads
the search astray, and then it finds nothing. -/
theorem sources_exact (sound : place.IsSound) (plain : place.tree.IsPlain)
    (filled : directory.text ≠ []) :
    (sources place directory).Pairwise (fun left right => left.before right = true) ∧
      (∀ path, path ∈ sources place directory ↔
        ¬ GoesAstray directory ∧ ∃ start names, place.Reaches directory start ∧
          IsSourceBelow place.tree start names ∧ path = pathBelow directory names ∧
          checkPath path = .ok ()) ∧
      ∀ start names, place.Reaches directory start → IsSourceBelow place.tree start names →
        ¬ GoesAstray directory →
          (pathBelow directory names).components = spelledOut directory ++ names.map .name ∧
            place.Reaches (pathBelow directory names) (start ++ names) := by
  refine ⟨pairwise_sources sound.tree plain directory,
    fun path => mem_sources_iff_isSourceBelow sound plain filled,
    fun start names reaches source notAstray => ?_⟩
  have goesOn := (not_or.mp notAstray).1
  exact ⟨components_pathBelow filled goesOn source.names_ne_nil (source.segments sound.tree),
    reaches_foldl_step sound.tree plain (reaches_startPath filled sound plain goesOn reaches)
      (text_startPath_ne_nil filled goesOn) source.file.isSome_get?⟩

/-- A project in a directory below `bin`, with build output and a directory that is named as source
files are. -/
def projectBelowBin : FileTree where
  entries :=
    [(["bin".toList], .directory),
      (["bin".toList, "Api [v2]".toList], .directory),
      (["bin".toList, "Api [v2]".toList, "User.cs".toList], .text []),
      (["bin".toList, "Api [v2]".toList, "Notes.txt".toList], .text []),
      (["bin".toList, "Api [v2]".toList, "Models.cs".toList], .directory),
      (["bin".toList, "Api [v2]".toList, "Models.cs".toList, "Order.cs".toList], .text []),
      (["bin".toList, "Api [v2]".toList, "obj".toList], .directory),
      (["bin".toList, "Api [v2]".toList, "obj".toList, "Info.cs".toList], .text [])]
  distinct := by decide

/-- Both source files of the project are found, though it lies below `bin`. -/
theorem sources_exact_below_bin :
    let place : Workplace := ⟨projectBelowBin, []⟩
    let directory : FilePath := ⟨"bin/Api [v2]".toList⟩
    place.IsSound ∧ place.tree.IsPlain ∧ directory.text ≠ [] ∧ ¬ GoesAstray directory ∧
      ⟨"bin/Api [v2]/User.cs".toList⟩ ∈ sources place directory ∧
      ⟨"bin/Api [v2]/Models.cs/Order.cs".toList⟩ ∈ sources place directory ∧
      place.Reaches ⟨"bin/Api [v2]/Models.cs/Order.cs".toList⟩
        ["bin".toList, "Api [v2]".toList, "Models.cs".toList, "Order.cs".toList] := by
  intro place directory
  have sound : place.IsSound := by decide
  have plain : place.tree.IsPlain := by decide
  have filled : directory.text ≠ [] := by decide
  have notAstray : ¬ GoesAstray directory := by decide
  have reaches : place.Reaches directory ["bin".toList, "Api [v2]".toList] := rfl
  have user : IsSourceBelow place.tree ["bin".toList, "Api [v2]".toList] ["User.cs".toList] :=
    ⟨⟨.text [], by decide, by decide⟩, ⟨"User.cs".toList, by decide, by decide⟩, by decide⟩
  have order : IsSourceBelow place.tree ["bin".toList, "Api [v2]".toList]
      ["Models.cs".toList, "Order.cs".toList] :=
    ⟨⟨.text [], by decide, by decide⟩, ⟨"Order.cs".toList, by decide, by decide⟩, by decide⟩
  obtain ⟨_, found, below⟩ := sources_exact sound plain filled
  exact ⟨sound, plain, filled, notAstray,
    (found _).mpr ⟨notAstray, _, _, reaches, user, by decide, by decide⟩,
    (found _).mpr ⟨notAstray, _, _, reaches, order, by decide, by decide⟩,
    (below _ _ reaches order notAstray).2⟩

/-- A project in `bin` and another one beside it. -/
def projectsInBinAndApp : FileTree where
  entries :=
    [(["bin".toList], .directory),
      (["bin".toList, "User.cs".toList], .text []),
      (["App".toList], .directory),
      (["App".toList, "Order.cs".toList], .text [])]
  distinct := by decide

/-- Behind a dot the source files in `bin` are left out, and with two slashes behind the dot those
of the other project are not found. Without the dot they are. -/
theorem sources_behind_dot_missed :
    let place : Workplace := ⟨projectsInBinAndApp, []⟩
    place.IsSound ∧ place.tree.IsPlain ∧
      place.Reaches ⟨"./bin".toList⟩ ["bin".toList] ∧
      IsSourceBelow place.tree ["bin".toList] ["User.cs".toList] ∧
      sources place ⟨"./bin".toList⟩ = [] ∧
      sources place ⟨"bin".toList⟩ = [⟨"bin/User.cs".toList⟩] ∧
      place.Reaches ⟨".//App".toList⟩ ["App".toList] ∧
      IsSourceBelow place.tree ["App".toList] ["Order.cs".toList] ∧
      sources place ⟨".//App".toList⟩ = [] ∧
      sources place ⟨"App".toList⟩ = [⟨"App/Order.cs".toList⟩] := by
  intro place
  refine ⟨by decide, by decide, rfl,
    ⟨⟨.text [], by decide, by decide⟩, ⟨"User.cs".toList, by decide, by decide⟩, by decide⟩,
    by decide +kernel, by decide +kernel, rfl,
    ⟨⟨.text [], by decide, by decide⟩, ⟨"Order.cs".toList, by decide, by decide⟩, by decide⟩,
    by decide +kernel, by decide +kernel⟩

end Discovery

end SharpTypes

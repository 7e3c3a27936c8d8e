/-
Where paths lead. A text is written where its path leads from then on, and it is read back there.
In a tree without symbolic links a path that leads anywhere leads where its components lead one
after the other, whatever else is in the tree: a name goes down and two dots go up. Making
directories leaves all of that alone.
-/

import Mathlib.Data.List.DropRight
import Mathlib.Tactic.Common
import SharpTypes.Proofs.FilePath
import SharpTypes.Proofs.FileTree.Change
import SharpTypes.Settings.Reading

namespace SharpTypes

open Text FilePath Settings

/-! ### The place of a path -/

/-- Where a component leads from a location. -/
def Location.toward (location : Location) : Component → Location
  | .root => []
  | .current => location
  | .parent => location.dropLast
  | .name name => location ++ [name]

/-- Where names lead from a location. -/
theorem Location.foldl_toward_names (location : Location) (names : List (List Char)) :
    (names.map Component.name).foldl toward location = location ++ names := by
  induction names generalizing location with
  | nil => exact (List.append_nil location).symm
  | cons name rest inductionHypothesis =>
    rw [List.map_cons, List.foldl_cons, inductionHypothesis, toward, List.append_assoc]
    rfl

namespace Workplace

open FileTree

variable {place : Workplace} {path : FilePath}

/-- The place of a path: where its components lead from the current directory, whatever is there. -/
def placeOf (place : Workplace) (path : FilePath) : Location :=
  path.components.foldl Location.toward place.current

theorem placeOf_eq (place : Workplace) (path : FilePath) :
    place.placeOf path =
      (path.parts.pieces.filterMap componentOf?).foldl Location.toward (place.origin path) := by
  rw [placeOf, components, List.foldl_append]
  congr 1
  unfold origin startFrom isRelative
  cases path.parts.anchor <;> rfl

theorem origin_of_relative (place : Workplace) {text : List Char}
    (relative : text.head? ≠ some '/') : place.origin ⟨text⟩ = place.current := by
  rw [origin, startFrom, if_pos (isRelative_iff.mpr relative)]

theorem origin_congr (place : Workplace) {other : FilePath}
    (same : other.parts.anchor = path.parts.anchor) : place.origin other = place.origin path := by
  unfold origin startFrom isRelative
  rw [same]

/-- One piece further leads on from the place of the path. -/
theorem placeOf_child (place : Workplace) {base : FilePath} {piece : List Char}
    (filled : base.text ≠ []) (slashFree : '/' ∉ piece) :
    place.placeOf (base.child piece) =
      (componentOf? piece).toList.foldl Location.toward (place.placeOf base) := by
  rw [placeOf, components_child_piece filled slashFree, List.foldl_append]
  rfl

theorem toward_of_enter {tree : FileTree} {location next : Location} {piece : List Char}
    (entered : enter tree location piece = .ok next) :
    next = (componentOf? piece).toList.foldl Location.toward location := by
  unfold enter at entered
  unfold componentOf?
  split_ifs at entered with directory idle up long there
  · rw [if_pos idle]
    exact (Except.ok.inj entered).symm
  · rw [if_neg idle, if_pos (by simpa using up)]
    exact (Except.ok.inj entered).symm
  · rw [if_neg idle, if_neg (by simpa using up)]
    exact (Except.ok.inj entered).symm

/-- A piece without a meaning of its own stays in its directory. -/
theorem enter_of_isIdle {tree : FileTree} {location : Location} {piece : List Char}
    (directory : tree.get? location = some .directory) (idle : isIdle piece = true) :
    enter tree location piece = .ok location := by
  unfold enter
  rw [hasDirectory_iff.mpr directory, idle]
  rfl

theorem toward_of_enterNew {tree : FileTree} {location next : Location} {piece : List Char}
    (entered : enterNew tree location piece = .ok next) :
    next = (componentOf? piece).toList.foldl Location.toward location := by
  unfold enterNew at entered
  split_ifs at entered with missing dots long
  rw [not_or] at dots
  have named : componentOf? piece = some (.name piece) :=
    componentOf?_eq_name_iff.mpr ⟨Bool.eq_false_iff.mpr dots.1, dots.2, rfl⟩
  rw [named]
  exact (Except.ok.inj entered).symm

section

variable {tree : FileTree} {start reached arrived : Location} {piece : List Char}
  {front rest : List (List Char)}

/-- A piece that leads to something else than a link is taken by itself. -/
theorem follow_cons (entered : enter tree start piece = .ok reached)
    (noLink : ∀ target, tree.get? reached ≠ some (.link target)) (rest : List (List Char)) :
    follow tree start (piece :: rest) = follow tree reached rest := by
  have step : (if rest.isEmpty then enter tree start piece else enter tree start piece) =
      .ok reached := by rw [ite_self, entered]
  show followUntil tree _ _ start (piece :: rest) = followUntil tree _ _ reached rest
  rw [followUntil, step]
  dsimp only
  split
  case h_1 target isLink => exact absurd isLink (noLink target)
  case h_2 => rfl

variable (plain : tree.IsPlain)

include plain

theorem exists_of_followUntil_cons {last : Location → List Char → Except FileError Location}
    {onward : Location → List (List Char) → Except FileError Location}
    (followed : followUntil tree last onward start (piece :: rest) = .ok arrived) :
    ∃ reached,
      (if rest.isEmpty then last start piece else enter tree start piece) = .ok reached ∧
        followUntil tree last onward reached rest = .ok arrived := by
  obtain ⟨reached, entered, ⟨target, isLink, _⟩ | ⟨_, followed⟩⟩ :=
    followUntil_cons_eq_ok_iff.mp followed
  · exact absurd isLink (plain reached target)
  · exact ⟨reached, entered, followed⟩

theorem exists_of_follow_cons (followed : follow tree start (piece :: rest) = .ok arrived) :
    ∃ reached, enter tree start piece = .ok reached ∧ follow tree reached rest = .ok arrived := by
  obtain ⟨reached, entered, followed⟩ := exists_of_followUntil_cons plain followed
  rw [ite_self] at entered
  exact ⟨reached, entered, followed⟩

theorem follow_append (followed : follow tree start front = .ok reached)
    (rest : List (List Char)) : follow tree start (front ++ rest) = follow tree reached rest := by
  induction front generalizing start with
  | nil =>
    obtain rfl : start = reached := Except.ok.inj followed
    rfl
  | cons piece pieces inductionHypothesis =>
    obtain ⟨next, entered, followed⟩ := exists_of_follow_cons plain followed
    rw [List.cons_append, follow_cons entered (plain next), inductionHypothesis followed]

theorem exists_of_follow_append (followed : follow tree start (front ++ rest) = .ok arrived) :
    ∃ reached, follow tree start front = .ok reached ∧ follow tree reached rest = .ok arrived := by
  induction front generalizing start with
  | nil => exact ⟨start, rfl, followed⟩
  | cons piece pieces inductionHypothesis =>
    obtain ⟨next, entered, followed⟩ := exists_of_follow_cons plain followed
    rw [follow_cons entered (plain next)]
    exact inductionHypothesis followed

/-- Without links a way leads where the components of its pieces lead. -/
theorem toward_of_followWithin {last : Location → List Char → Except FileError Location}
    (lastToward : ∀ location piece next, last location piece = .ok next →
      next = (componentOf? piece).toList.foldl Location.toward location)
    {links : Nat} {pieces : List (List Char)}
    (followed : followWithin tree last links start pieces = .ok arrived) :
    arrived = (pieces.filterMap componentOf?).foldl Location.toward start := by
  cases links with
  | zero => cases followed
  | succ links =>
    rw [followWithin] at followed
    induction pieces generalizing start with
    | nil => exact (Except.ok.inj followed).symm
    | cons piece rest inductionHypothesis =>
      obtain ⟨next, entered, followed⟩ := exists_of_followUntil_cons plain followed
      have toward : next = (componentOf? piece).toList.foldl Location.toward start := by
        split_ifs at entered
        · exact lastToward start piece next entered
        · exact toward_of_enter entered
      rw [inductionHypothesis followed, toward, filterMap_componentOf?_cons, List.foldl_append]

theorem toward_of_follow {pieces : List (List Char)}
    (followed : follow tree start pieces = .ok arrived) :
    arrived = (pieces.filterMap componentOf?).foldl Location.toward start :=
  toward_of_followWithin plain (fun _ _ _ => toward_of_enter) followed

end

/-- The pieces of the path lead to the location, whether or not its text may be used as a path. -/
def Reaches (place : Workplace) (path : FilePath) (location : Location) : Prop :=
  follow place.tree (place.origin path) path.parts.pieces = .ok location

/-- Without links a path that leads anywhere leads to its place. -/
theorem Reaches.eq_placeOf (plain : place.tree.IsPlain) {location : Location}
    (reaches : place.Reaches path location) : location = place.placeOf path := by
  rw [placeOf_eq, toward_of_follow plain reaches]

theorem Reaches.unique {location other : Location} (reaches : place.Reaches path location)
    (reachesToo : place.Reaches path other) : location = other :=
  Except.ok.inj (reaches.symm.trans reachesToo)

theorem locate_eq_ok_iff {location : Location} :
    place.locate path = .ok location ↔ checkPath path = .ok () ∧ place.Reaches path location := by
  constructor
  · intro located
    obtain ⟨⟨⟩, isPath, reaches⟩ := eq_of_bind_eq_ok located
    exact ⟨isPath, reaches⟩
  · rintro ⟨isPath, reaches⟩
    unfold locate
    rw [isPath]
    exact reaches

theorem placeOf_of_locate (plain : place.tree.IsPlain) {location : Location}
    (located : place.locate path = .ok location) : location = place.placeOf path :=
  (locate_eq_ok_iff.mp located).2.eq_placeOf plain

/-! ### Finding -/

theorem find_of_locate {location : Location} {node : FileNode}
    (located : place.locate path = .ok location) (there : place.tree.get? location = some node) :
    place.find path = .ok node := by
  unfold find
  rw [located]
  simp only [bind, Except.bind, there]

theorem find_eq_ok {node : FileNode} (found : place.find path = .ok node) :
    ∃ location, place.locate path = .ok location ∧ place.tree.get? location = some node := by
  obtain ⟨location, located, found⟩ := eq_of_bind_eq_ok found
  cases there : place.tree.get? location with
  | none =>
    rw [there] at found
    cases found
  | some other =>
    rw [there] at found
    exact ⟨location, located, by rw [there, Except.ok.inj found]⟩

theorem hasDirectory_iff_find :
    place.hasDirectory path = true ↔ place.find path = .ok .directory := by
  unfold Workplace.hasDirectory
  cases place.find path with
  | error fault => simp
  | ok node => simp

theorem hasFile_iff_find :
    place.hasFile path = true ↔ ∃ node, place.find path = .ok node ∧ node.isFile = true := by
  unfold hasFile
  cases place.find path with
  | error fault => simp
  | ok node => simp

theorem isThere_iff_locate :
    place.isThere path = true ↔
      ∃ location, place.locate path = .ok location ∧ (place.tree.get? location).isSome = true := by
  unfold isThere
  constructor
  · intro there
    cases found : place.find path with
    | error fault =>
      rw [found] at there
      cases there
    | ok node =>
      obtain ⟨location, located, holds⟩ := find_eq_ok found
      exact ⟨location, located, by rw [holds]; rfl⟩
  · rintro ⟨location, located, there⟩
    obtain ⟨node, holds⟩ := Option.isSome_iff_exists.mp there
    rw [find_of_locate located holds]
    rfl

/-- A text that is read lies where the path leads. -/
theorem read_eq_ok {contents : List Char} (read : place.read path = .ok contents) :
    ∃ location, place.locate path = .ok location ∧
      place.tree.get? location = some (.text contents) := by
  obtain ⟨node, found, isText⟩ := eq_of_bind_eq_ok read
  obtain ⟨location, located, there⟩ := find_eq_ok found
  refine ⟨location, located, ?_⟩
  rw [there]
  cases node with
  | text _ => rw [Except.ok.inj isText]
  | directory => cases isText
  | binary _ => cases isText
  | link _ => cases isText

theorem read_of_locate {location : Location} {contents : List Char}
    (located : place.locate path = .ok location)
    (there : place.tree.get? location = some (.text contents)) :
    place.read path = .ok contents := by
  unfold read
  rw [find_of_locate located there]
  rfl

theorem get?_placeOf_of_read (plain : place.tree.IsPlain) {contents : List Char}
    (read : place.read path = .ok contents) :
    place.tree.get? (place.placeOf path) = some (.text contents) := by
  obtain ⟨location, located, there⟩ := read_eq_ok read
  rwa [placeOf_of_locate plain located] at there

theorem Reaches.find_eq_ok_iff {location : Location} {node : FileNode}
    (reaches : place.Reaches path location) :
    place.find path = .ok node ↔
      checkPath path = .ok () ∧ place.tree.get? location = some node := by
  constructor
  · intro found
    obtain ⟨other, located, there⟩ := find_eq_ok found
    obtain ⟨isPath, reachesToo⟩ := locate_eq_ok_iff.mp located
    obtain rfl := reachesToo.unique reaches
    exact ⟨isPath, there⟩
  · rintro ⟨isPath, there⟩
    exact find_of_locate (locate_eq_ok_iff.mpr ⟨isPath, reaches⟩) there

theorem Reaches.hasFile_iff {location : Location} (reaches : place.Reaches path location) :
    place.hasFile path = true ↔ checkPath path = .ok () ∧ place.tree.HoldsFile location := by
  simp only [hasFile_iff_find, reaches.find_eq_ok_iff, and_assoc, exists_and_left, HoldsFile]

theorem Reaches.hasDirectory_iff {location : Location} (reaches : place.Reaches path location) :
    place.hasDirectory path = true ↔
      checkPath path = .ok () ∧ place.tree.get? location = some .directory := by
  rw [hasDirectory_iff_find, reaches.find_eq_ok_iff]

theorem Reaches.isThere_iff {location : Location} (reaches : place.Reaches path location) :
    place.isThere path = true ↔
      checkPath path = .ok () ∧ (place.tree.get? location).isSome = true := by
  rw [isThere_iff_locate]
  constructor
  · rintro ⟨other, located, there⟩
    obtain ⟨isPath, reachesToo⟩ := locate_eq_ok_iff.mp located
    obtain rfl := reachesToo.unique reaches
    exact ⟨isPath, there⟩
  · rintro ⟨isPath, there⟩
    exact ⟨location, locate_eq_ok_iff.mpr ⟨isPath, reaches⟩, there⟩

/-! ### The last name of a path -/

/-- What it takes to look up the last name of a path: the names before it lead to a directory, and
nothing but slashes follows. -/
structure LastStep (place : Workplace) (path : FilePath) (location : Location)
    (name : List Char) : Prop where
  isPath : checkPath path = .ok ()
  pieces : ∃ before idle, path.parts.pieces = before ++ name :: idle ∧
    (∀ piece ∈ idle, piece = []) ∧ follow place.tree (place.origin path) before = .ok location
  directory : place.tree.hasDirectory location = true
  notIdle : isIdle name = false
  notUp : name ≠ "..".toList
  short : byteSize name ≤ longestName

theorem lastStep_eq_ok {location : Location} {name : List Char}
    (stepped : place.lastStep path = .ok (location, some name)) :
    LastStep place path location name := by
  obtain ⟨⟨⟩, isPath, stepped⟩ := eq_of_bind_eq_ok stepped
  split at stepped
  · cases stepped
  next last before reversed =>
    obtain ⟨arrived, followed, stepped⟩ := eq_of_bind_eq_ok stepped
    split_ifs at stepped with missing dots long
    · cases stepped
    · obtain ⟨rfl, named⟩ := Prod.mk.inj (Except.ok.inj stepped)
      obtain rfl : last = name := Option.some.inj named
      have filled : last ≠ [] := by
        rintro rfl
        have kept := List.head?_dropWhile_not List.isEmpty path.parts.pieces.reverse
        rw [reversed] at kept
        simp at kept
      rw [not_or] at dots
      refine ⟨isPath, ⟨before.reverse, path.parts.pieces.rtakeWhile List.isEmpty, ?_, ?_,
        followed⟩, by simpa using missing, ?_, dots.2, Nat.le_of_not_lt long⟩
      · have whole : path.parts.pieces.rdropWhile List.isEmpty ++
            path.parts.pieces.rtakeWhile List.isEmpty = path.parts.pieces :=
          List.rdropWhile_append_rtakeWhile
        rw [List.rdropWhile, reversed, List.reverse_cons, List.append_assoc] at whole
        exact whole.symm
      · exact fun piece member => List.isEmpty_iff.mp (List.mem_rtakeWhile_imp member)
      · rw [isIdle, Bool.or_eq_false_iff, beq_eq_false_iff_ne, beq_eq_false_iff_ne]
        exact ⟨filled, dots.1⟩

namespace LastStep

variable {location : Location} {name : List Char}

theorem named (step : LastStep place path location name) :
    componentOf? name = some (.name name) :=
  componentOf?_eq_name_iff.mpr ⟨step.notIdle, step.notUp, rfl⟩

/-- A directory at the last name is what the path leads to; slashes behind the name lead nowhere
else. -/
theorem locate_directory (plain : place.tree.IsPlain) {written : Location → Prop} {tree : FileTree}
    (step : LastStep place path location name) (becomes : Becomes written place.tree tree)
    (there : tree.get? (location ++ [name]) = some .directory) :
    (place.withTree tree).locate path = .ok (location ++ [name]) := by
  obtain ⟨before, idle, pieces, allIdle, followed⟩ := step.pieces
  have plainLater := becomes.isPlain plain
  have entered : enter tree location name = .ok (location ++ [name]) := by
    unfold enter
    rw [becomes.hasDirectory step.directory, step.notIdle, if_neg step.notUp,
      if_neg (Nat.not_lt.mpr step.short), there]
    rfl
  have stays : follow tree (location ++ [name]) idle = .ok (location ++ [name]) := by
    clear pieces
    induction idle with
    | nil => rfl
    | cons piece rest inductionHypothesis =>
      obtain ⟨rfl, restIdle⟩ := List.forall_mem_cons.mp allIdle
      rw [follow_cons (enter_of_isIdle there rfl) (plainLater _), inductionHypothesis restIdle]
  refine locate_eq_ok_iff.mpr ⟨step.isPath, ?_⟩
  unfold Reaches
  rw [pieces]
  exact (follow_append plainLater (follow_of_becomes becomes followed) _).trans
    ((follow_cons entered (plainLater _) idle).trans stays)

end LastStep

/-! ### Writing and reading back -/

/-- Without links a path names its place. -/
theorem placeOf_of_slot (plain : place.tree.IsPlain) {location : Location}
    (slotted : place.slot path = .ok location) : location = place.placeOf path := by
  obtain ⟨⟨⟩, _, followed⟩ := eq_of_bind_eq_ok slotted
  rw [placeOf_eq, toward_of_followWithin plain (fun _ _ _ => toward_of_enterNew) followed]

/-- What it takes to write a text: the tree changes where the path leads, and there alone. -/
theorem write_eq_ok {contents : List Char} {tree : FileTree}
    (written : place.write path contents = .ok tree) :
    ∃ location, place.slot path = .ok location ∧
      (∀ node ∈ place.tree.get? location, node.isFile = true) ∧
      tree = place.tree.set location (.text contents) ∧
      tree.get? location = some (.text contents) := by
  obtain ⟨location, slotted, written⟩ := eq_of_bind_eq_ok written
  split_ifs at written with free
  have free : ∀ node ∈ place.tree.get? location, node.isFile = true :=
    (Option.all_eq_true _ _).mp free
  obtain rfl := Except.ok.inj written
  refine ⟨location, slotted, free, rfl, get?_set_same _ _ ?_⟩
  rintro rfl
  exact absurd (free _ rfl) Bool.false_ne_true

/-- Writing changes the tree as it may. -/
theorem becomes_of_write {contents : List Char} {tree : FileTree}
    (written : place.write path contents = .ok tree) :
    Becomes (fun location => place.slot path = .ok location) place.tree tree := by
  obtain ⟨location, slotted, free, rfl, _⟩ := write_eq_ok written
  exact becomes_set_text _ slotted free contents

/-- From then on the path leads where the text was written. -/
theorem locate_of_write {contents : List Char} {tree later : FileTree}
    {others : Location → Prop} (written : place.write path contents = .ok tree)
    (becomes : Becomes others tree later) {location : Location}
    (slotted : place.slot path = .ok location) :
    (place.withTree later).locate path = .ok location := by
  obtain ⟨other, slottedToo, _, _, holds⟩ := write_eq_ok written
  obtain rfl := Except.ok.inj (slotted.symm.trans slottedToo)
  have altogether := (becomes_of_write written).somehow.trans becomes.somehow
  exact locate_of_slot altogether slotted (becomes.isSome_get? (by rw [holds]; rfl))

/-- What was written is read back, as long as nothing else is written in its place. -/
theorem read_of_write (place : Workplace) {contents : List Char} {tree later : FileTree}
    {others : Location → Prop} (written : place.write path contents = .ok tree)
    (becomes : Becomes others tree later)
    (notAgain : ∀ location, (place.withTree later).locate path = .ok location → ¬ others location) :
    (place.withTree later).read path = .ok contents := by
  obtain ⟨location, slotted, _, _, holds⟩ := write_eq_ok written
  have located := locate_of_write written becomes slotted
  exact read_of_locate located
    (becomes.get?_eq_of_not_written (notAgain location located) holds)

/-! ### Making directories -/

variable {written : Location → Prop}

/-- What it takes to make a directory: nothing is there yet, and the tree changes only there. -/
theorem makeDirectory_eq_ok {tree : FileTree} (made : place.makeDirectory path = .ok tree) :
    ∃ location name, LastStep place path location name ∧
      place.lastStep path = .ok (location, some name) ∧
      place.tree.get? (location ++ [name]) = none ∧
      tree = place.tree.set (location ++ [name]) .directory := by
  obtain ⟨⟨location, last⟩, stepped, made⟩ := eq_of_bind_eq_ok made
  cases last with
  | none => cases made
  | some name =>
    dsimp only at made
    split_ifs at made with there
    exact ⟨location, name, lastStep_eq_ok stepped, stepped, by simpa using there,
      (Except.ok.inj made).symm⟩

theorem becomes_of_makeDirectory {tree : FileTree} (made : place.makeDirectory path = .ok tree) :
    Becomes written place.tree tree := by
  obtain ⟨location, name, _, _, empty, rfl⟩ := makeDirectory_eq_ok made
  exact becomes_set_directory empty

section

variable {holds : FileTree → Prop} (place : Workplace)
  (afterMaking : ∀ tree path made, holds tree →
    (place.withTree tree).makeDirectory path = .ok made → holds made)

include afterMaking

theorem invariant_of_makeFirst (missing paths : List FilePath) (start : holds place.tree) :
    holds (place.makeFirst missing paths).1.tree := by
  induction paths generalizing missing with
  | nil => exact start
  | cons path further inductionHypothesis =>
    unfold makeFirst
    split
    case h_1 tree made => exact afterMaking place.tree path tree start made
    case h_2 => exact inductionHypothesis _
    case h_3 => split <;> exact start

theorem invariant_of_makeAll (tree : FileTree) (paths : List FilePath) (start : holds tree) :
    holds ((place.withTree tree).makeAll paths).tree := by
  induction paths generalizing tree with
  | nil => exact start
  | cons path further inductionHypothesis =>
    unfold makeAll
    split
    case h_1 made isMade => exact inductionHypothesis made (afterMaking tree path made start isMade)
    case h_2 =>
      split
      · exact inductionHypothesis tree start
      · exact start

/-- What every single directory that is made leaves true holds after a directory and all that it
lies in were made, also where that fails. -/
theorem invariant_of_makeDirectories (path : FilePath) (start : holds place.tree) :
    holds (place.makeDirectories path).tree := by
  have first := place.invariant_of_makeFirst afterMaking [] (ancestors path) start
  unfold makeDirectories
  dsimp only
  split
  · exact first
  · exact place.invariant_of_makeAll afterMaking _ _ first

end

theorem becomes_of_makeFirst (written : Location → Prop) (place : Workplace)
    (missing paths : List FilePath) :
    Becomes written place.tree (place.makeFirst missing paths).1.tree :=
  place.invariant_of_makeFirst (fun _ _ _ becomes made =>
    becomes.trans (becomes_of_makeDirectory made)) missing paths (.refl written place.tree)

theorem becomes_of_makeAll (written : Location → Prop) (place : Workplace)
    (paths : List FilePath) : Becomes written place.tree (place.makeAll paths).tree :=
  place.invariant_of_makeAll (fun _ _ _ becomes made =>
    becomes.trans (becomes_of_makeDirectory made)) place.tree paths (.refl written place.tree)

theorem becomes_of_makeDirectories (written : Location → Prop) (place : Workplace)
    (path : FilePath) : Becomes written place.tree (place.makeDirectories path).tree :=
  place.invariant_of_makeDirectories (fun _ _ _ becomes made =>
    becomes.trans (becomes_of_makeDirectory made)) path (.refl written place.tree)

end Workplace

end SharpTypes

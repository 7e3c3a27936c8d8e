/-
Trees as they are on a disk: whatever is in them lies in a directory, under a name that a path can
hold. Then directories are reached from each other name by name. Without symbolic links so is
everything else, and only a name leads to a file. Making directories and writing texts keeps a tree
like that.
-/

import Mathlib.Tactic.Common
import SharpTypes.Proofs.FileTree.Following

namespace SharpTypes

open Text FilePath

/-- A name that a file or directory can have. -/
structure FilePath.IsEntryName (name : List Char) : Prop extends IsSegment name where
  short : byteSize name ≤ Workplace.longestName

instance (name : List Char) : Decidable (IsEntryName name) :=
  decidable_of_iff ('/' ∉ name ∧ componentOf? name = some (.name name) ∧
      byteSize name ≤ Workplace.longestName)
    ⟨fun ⟨slashFree, named, short⟩ => ⟨⟨slashFree, named⟩, short⟩,
      fun isName => ⟨isName.slashFree, isName.named, isName.short⟩⟩

namespace FileTree

/-- Whatever is in the tree lies in a directory, under a name that a path can hold. -/
structure IsSound (tree : FileTree) : Prop where
  inside : ∀ location name, (tree.get? (location ++ [name])).isSome = true →
    tree.get? location = some .directory
  named : ∀ location name, (tree.get? (location ++ [name])).isSome = true → IsEntryName name

theorem isSome_lookup_iff {location : Location} {entries : List (Location × FileNode)} :
    (lookup location entries).isSome = true ↔ ∃ entry ∈ entries, entry.1 = location := by
  induction entries with
  | nil => simp [lookup]
  | cons entry rest inductionHypothesis =>
    rw [lookup, List.exists_mem_cons_iff, ← inductionHypothesis]
    split
    case isTrue same => simp [same]
    case isFalse differs => simp [differs]

theorem isSome_get?_iff {tree : FileTree} {location : Location} (below : location ≠ []) :
    (tree.get? location).isSome = true ↔ ∃ entry ∈ tree.entries, entry.1 = location := by
  rw [get?, if_neg below, isSome_lookup_iff]

theorem exists_mem_of_lookup {location : Location} {node : FileNode}
    {entries : List (Location × FileNode)} (found : lookup location entries = some node) :
    (location, node) ∈ entries := by
  induction entries with
  | nil => cases found
  | cons entry rest inductionHypothesis =>
    rw [lookup] at found
    split at found
    case isTrue same =>
      rw [← same, ← Option.some.inj found]
      exact List.mem_cons_self
    case isFalse => exact List.mem_cons_of_mem entry (inductionHypothesis found)

theorem lookup_of_mem {entries : List (Location × FileNode)}
    (distinct : (entries.map Prod.fst).Nodup) {entry : Location × FileNode}
    (isEntry : entry ∈ entries) : lookup entry.1 entries = some entry.2 := by
  induction entries with
  | nil => cases isEntry
  | cons first rest inductionHypothesis =>
    obtain ⟨fresh, distinctRest⟩ := List.nodup_cons.mp distinct
    rw [lookup]
    rcases List.mem_cons.mp isEntry with rfl | inRest
    · exact if_pos rfl
    · rw [if_neg, inductionHypothesis distinctRest inRest]
      exact fun same => fresh (same ▸ List.mem_map_of_mem inRest)

theorem get?_of_mem {tree : FileTree} {entry : Location × FileNode} (isEntry : entry ∈ tree.entries)
    (below : entry.1 ≠ []) : tree.get? entry.1 = some entry.2 := by
  rw [get?, if_neg below, lookup_of_mem tree.distinct isEntry]

/-- A tree has no links if it lists none. -/
theorem isPlain_iff (tree : FileTree) :
    tree.IsPlain ↔ ∀ entry ∈ tree.entries, entry.1 = [] ∨ entry.2.isLink = false := by
  constructor
  · intro plain entry isEntry
    refine or_iff_not_imp_left.mpr fun below => ?_
    have there := get?_of_mem isEntry below
    cases isLink : entry.2 with
    | link target =>
      rw [isLink] at there
      exact absurd there (plain entry.1 target)
    | directory => rfl
    | text => rfl
    | binary => rfl
  · intro listed location target there
    by_cases root : location = []
    · rw [root] at there
      cases there
    · rw [get?, if_neg root] at there
      rcases listed _ (exists_mem_of_lookup there) with atRoot | noLink
      · exact root atRoot
      · cases noLink

instance (tree : FileTree) : Decidable tree.IsPlain :=
  decidable_of_iff _ tree.isPlain_iff.symm

/-- A tree is sound if all that it lists is. -/
theorem isSound_iff (tree : FileTree) :
    tree.IsSound ↔ ∀ entry ∈ tree.entries, tree.get? entry.1.dropLast = some .directory ∧
      ∀ name ∈ entry.1.getLast?, IsEntryName name := by
  constructor
  · rintro ⟨inside, named⟩ entry isEntry
    rcases List.eq_nil_or_concat entry.1 with root | ⟨location, name, whole⟩
    · rw [root]
      exact ⟨rfl, nofun⟩
    · rw [List.concat_eq_append] at whole
      have there : (tree.get? (location ++ [name])).isSome = true :=
        (isSome_get?_iff (by simp)).mpr ⟨entry, isEntry, whole⟩
      rw [whole, List.dropLast_concat, List.getLast?_concat]
      refine ⟨inside location name there, fun other same => ?_⟩
      obtain rfl : name = other := Option.some.inj same
      exact named location name there
  · intro listed
    have entryOf {location : Location} {name : List Char}
        (there : (tree.get? (location ++ [name])).isSome = true) :
        tree.get? location = some .directory ∧ IsEntryName name := by
      obtain ⟨entry, isEntry, whole⟩ := (isSome_get?_iff (by simp)).mp there
      obtain ⟨inside, named⟩ := listed entry isEntry
      rw [whole, List.dropLast_concat] at inside
      exact ⟨inside, named name (by rw [whole, List.getLast?_concat]; rfl)⟩
    exact ⟨fun _ _ there => (entryOf there).1, fun _ _ there => (entryOf there).2⟩

instance (tree : FileTree) : Decidable tree.IsSound :=
  decidable_of_iff _ tree.isSound_iff.symm

namespace IsSound

variable {tree : FileTree} {location : Location}

theorem named_of_below (sound : tree.IsSound) {names : List (List Char)}
    (there : (tree.get? (location ++ names)).isSome = true) :
    ∀ name ∈ names, IsEntryName name := by
  induction names using List.reverseRecOn with
  | nil => exact nofun
  | append_singleton names last inductionHypothesis =>
    rw [← List.append_assoc] at there
    refine List.forall_mem_append.mpr ⟨inductionHypothesis ?_, ?_⟩
    · rw [sound.inside _ _ there]
      rfl
    · intro name member
      rw [List.mem_singleton.mp member]
      exact sound.named _ _ there

theorem directory_of_below (sound : tree.IsSound) {names : List (List Char)} (below : names ≠ [])
    (there : (tree.get? (location ++ names)).isSome = true) :
    tree.get? location = some .directory := by
  induction names using List.reverseRecOn with
  | nil => exact absurd rfl below
  | append_singleton front last inductionHypothesis =>
    rw [← List.append_assoc] at there
    have holder := sound.inside _ _ there
    by_cases alone : front = []
    · rwa [alone, List.append_nil] at holder
    · exact inductionHypothesis alone (by rw [holder]; rfl)

/-- What holds something is a directory, also the root. -/
theorem directory_dropLast (sound : tree.IsSound) (there : (tree.get? location).isSome = true) :
    tree.get? location.dropLast = some .directory := by
  rcases List.eq_nil_or_concat location with rfl | ⟨before, name, rfl⟩
  · rfl
  · rw [List.concat_eq_append] at there ⊢
    rw [List.dropLast_concat]
    exact sound.inside before name there

/-- Something may be put into a directory under a name, where nothing is or a file. -/
theorem set (sound : tree.IsSound) {name : List Char} {node : FileNode}
    (directory : tree.get? location = some .directory) (named : IsEntryName name)
    (free : ∀ node ∈ tree.get? (location ++ [name]), node.isFile = true) :
    (tree.set (location ++ [name]) node).IsSound := by
  have within (other : Location) (last : List Char)
      (there : ((tree.set (location ++ [name]) node).get? (other ++ [last])).isSome = true) :
      (tree.set (location ++ [name]) node).get? other = some .directory ∧ IsEntryName last := by
    by_cases same : location ++ [name] = other ++ [last]
    · obtain ⟨rfl, lastSame⟩ := List.append_inj' same rfl
      obtain rfl : name = last := by simpa using lastSame
      exact ⟨by rwa [get?_set_of_ne tree node (by simp)], named⟩
    · rw [get?_set_of_ne tree node same] at there
      have insideOld := sound.inside other last there
      have differs : location ++ [name] ≠ other := by
        rintro rfl
        exact absurd (free _ insideOld) Bool.false_ne_true
      exact ⟨by rwa [get?_set_of_ne tree node differs], sound.named other last there⟩
  exact ⟨fun other last there => (within other last there).1,
    fun other last there => (within other last there).2⟩

end IsSound

end FileTree

/-! ### Ways through a sound tree -/

namespace Workplace

open FileTree

variable {place : Workplace} {path : FilePath}

/-- The tree is sound, and the current directory is in it. -/
structure IsSound (place : Workplace) : Prop where
  tree : place.tree.IsSound
  current : place.tree.get? place.current = some .directory

instance (place : Workplace) : Decidable place.IsSound :=
  decidable_of_iff (place.tree.IsSound ∧ place.tree.get? place.current = some .directory)
    ⟨fun ⟨tree, current⟩ => ⟨tree, current⟩, fun sound => ⟨sound.tree, sound.current⟩⟩

theorem enter_name {tree : FileTree} {location : Location} {name : List Char}
    (sound : tree.IsSound) (there : (tree.get? (location ++ [name])).isSome = true) :
    enter tree location name = .ok (location ++ [name]) := by
  have isName := sound.named location name there
  have notUp : name ≠ "..".toList := by
    rintro rfl
    cases isName.named
  unfold enter
  rw [hasDirectory_iff.mpr (sound.inside location name there),
    isIdle_of_componentOf? isName.named, if_neg notUp, if_neg (Nat.not_lt.mpr isName.short), there]
  rfl

/-- Names lead from one directory to another one below it, and on from there. -/
theorem followUntil_names {tree : FileTree}
    {last : Location → List Char → Except FileError Location}
    {onward : Location → List (List Char) → Except FileError Location} {location : Location}
    {names rest : List (List Char)} (sound : tree.IsSound)
    (directory : tree.get? (location ++ names) = some .directory) (goesOn : rest ≠ []) :
    followUntil tree last onward location (names ++ rest) =
      followUntil tree last onward (location ++ names) rest := by
  induction names generalizing location with
  | nil => rw [List.append_nil, List.nil_append]
  | cons name names inductionHypothesis =>
    rw [List.append_cons] at directory ⊢
    have next : tree.get? (location ++ [name]) = some .directory := by
      by_cases alone : names = []
      · rwa [alone, List.append_nil] at directory
      · exact sound.directory_of_below alone (by rw [directory]; rfl)
    have entered := enter_name sound (show (tree.get? (location ++ [name])).isSome = true by
      rw [next]; rfl)
    have notLast : (names ++ rest).isEmpty = false := by simp [goesOn]
    rw [← inductionHypothesis directory, List.cons_append, followUntil, notLast,
      if_neg Bool.false_ne_true, entered]
    dsimp only
    rw [next]

/-- Whatever is below a location is reached name by name, unless it is a link. -/
theorem follow_names {tree : FileTree} {location : Location} {names : List (List Char)}
    (sound : tree.IsSound) (there : (tree.get? (location ++ names)).isSome = true)
    (noLink : ∀ target, tree.get? (location ++ names) ≠ some (.link target)) :
    follow tree location names = .ok (location ++ names) := by
  rcases List.eq_nil_or_concat names with rfl | ⟨front, last, rfl⟩
  · rw [List.append_nil]
    rfl
  · rw [List.concat_eq_append, ← List.append_assoc] at there noLink ⊢
    have stepped := follow_cons (enter_name sound there) noLink []
    have inside := sound.inside _ _ there
    exact (followUntil_names sound inside (List.cons_ne_nil last [])).trans stepped

theorem isSome_of_enter {tree : FileTree} {location next : Location} {piece : List Char}
    (sound : tree.IsSound) (entered : enter tree location piece = .ok next) :
    (tree.get? next).isSome = true := by
  unfold enter at entered
  split_ifs at entered with missing idle up long there
  · rw [Bool.not_eq_true', Bool.not_eq_false, hasDirectory_iff] at missing
    rw [← Except.ok.inj entered, missing]
    rfl
  · rw [Bool.not_eq_true', Bool.not_eq_false, hasDirectory_iff] at missing
    rw [← Except.ok.inj entered, sound.directory_dropLast (by rw [missing]; rfl)]
    rfl
  · rw [← Except.ok.inj entered]
    exact there

/-- Only a name leads to what is no directory. -/
theorem named_of_enter {tree : FileTree} {location next : Location} {piece : List Char}
    (sound : tree.IsSound) (entered : enter tree location piece = .ok next)
    (file : tree.get? next ≠ some .directory) : componentOf? piece = some (.name piece) := by
  unfold enter at entered
  split_ifs at entered with missing idle up long there
  · rw [Bool.not_eq_true', Bool.not_eq_false, hasDirectory_iff] at missing
    exact absurd (Except.ok.inj entered ▸ missing) file
  · rw [Bool.not_eq_true', Bool.not_eq_false, hasDirectory_iff] at missing
    have above := sound.directory_dropLast (by rw [missing]; rfl)
    exact absurd (Except.ok.inj entered ▸ above) file
  · exact componentOf?_eq_name_iff.mpr ⟨Bool.eq_false_iff.mpr idle, by simpa using up, rfl⟩

/-- Pieces lead on from directories only. -/
theorem directory_of_enter {tree : FileTree} {location next : Location} {piece : List Char}
    (entered : enter tree location piece = .ok next) : tree.get? location = some .directory := by
  unfold enter at entered
  split_ifs at entered with missing <;>
    exact hasDirectory_iff.mp (by simpa using missing)

theorem enterNew_eq_ok {tree : FileTree} {location next : Location} {piece : List Char}
    (slashFree : '/' ∉ piece) (entered : enterNew tree location piece = .ok next) :
    tree.get? location = some .directory ∧ next = location ++ [piece] ∧ IsEntryName piece := by
  unfold enterNew at entered
  split_ifs at entered with missing dots long
  rw [not_or] at dots
  have named : componentOf? piece = some (.name piece) :=
    componentOf?_eq_name_iff.mpr ⟨Bool.eq_false_iff.mpr dots.1, dots.2, rfl⟩
  exact ⟨hasDirectory_iff.mp (by simpa using missing), (Except.ok.inj entered).symm,
    ⟨⟨slashFree, named⟩, Nat.le_of_not_lt long⟩⟩

/-- A last name leads to its entry in the directory, unless a link stands under it. -/
theorem followUntil_name {tree : FileTree} {onward : Location → List (List Char) →
    Except FileError Location} {directory location : Location} {name : List Char}
    (segment : IsSegment name)
    (noLink : ∀ target, tree.get? (directory ++ [name]) ≠ some (.link target))
    (followed : followUntil tree (enterNew tree) onward directory [name] = .ok location) :
    location = directory ++ [name] := by
  obtain ⟨next, entered, onOrOver⟩ := followUntil_cons_eq_ok_iff.mp followed
  obtain ⟨_, rfl, _⟩ := enterNew_eq_ok segment.slashFree entered
  rcases onOrOver with ⟨target, isLink, _⟩ | ⟨_, arrived⟩
  · exact absurd isLink (noLink target)
  · exact (Except.ok.inj arrived).symm

theorem directory_origin (sound : place.IsSound) (path : FilePath) :
    place.tree.get? (place.origin path) = some .directory := by
  unfold origin startFrom
  split
  · exact sound.current
  · rfl

/-- A path that leads to a file ends in a name, if there are no links. -/
theorem exists_name_of_file (sound : place.IsSound) (plain : place.tree.IsPlain) {node : FileNode}
    (found : place.find path = .ok node) (file : node.isFile = true) :
    ∃ before name, path.components = before ++ [.name name] := by
  obtain ⟨location, located, there⟩ := find_eq_ok found
  have followed := (locate_eq_ok_iff.mp located).2
  unfold Reaches at followed
  have notDirectory : place.tree.get? location ≠ some .directory := by
    rw [there]
    rintro same
    obtain rfl := Option.some.inj same
    cases file
  rcases List.eq_nil_or_concat path.parts.pieces with noPieces | ⟨front, last, whole⟩
  · rw [noPieces] at followed
    exact absurd (Except.ok.inj followed ▸ directory_origin sound path) notDirectory
  · rw [List.concat_eq_append] at whole
    rw [whole] at followed
    obtain ⟨holder, _, followed⟩ := exists_of_follow_append plain followed
    obtain ⟨next, entered, arrived⟩ := exists_of_follow_cons plain followed
    obtain rfl : next = location := Except.ok.inj arrived
    have named := named_of_enter sound.tree entered notDirectory
    refine ⟨path.parts.anchor.components ++ front.filterMap componentOf?, last, ?_⟩
    rw [components, whole, List.filterMap_append, List.filterMap_cons_some named,
      List.append_assoc]
    rfl

/-- The parent of a path that leads to a file leads somewhere too. -/
theorem exists_reaches_parent (sound : place.IsSound) (plain : place.tree.IsPlain)
    {node : FileNode} (found : place.find path = .ok node) (file : node.isFile = true) :
    ∃ parent location, path.parent? = some parent ∧ place.Reaches parent location := by
  obtain ⟨before, name, given⟩ := exists_name_of_file sound plain found file
  obtain ⟨front, behind, whole, wellFormed, isParent, _⟩ := exists_front_of_parent? given
  obtain ⟨location, located, _⟩ := find_eq_ok found
  have reaches := (locate_eq_ok_iff.mp located).2
  unfold Reaches at reaches
  rw [whole] at reaches
  obtain ⟨reached, followed, _⟩ := exists_of_follow_append plain reaches
  refine ⟨_, reached, isParent, ?_⟩
  have origin : place.origin (ofParts ⟨path.parts.anchor, front⟩) = place.origin path :=
    origin_congr place (by rcases parts_ofParts wellFormed with same | ⟨_, same⟩ <;> rw [same])
  unfold Reaches
  rw [origin]
  rcases parts_ofParts wellFormed with same | ⟨noPieces, same⟩
  · rw [same]
    exact followed
  · have noPieces : front = [] := noPieces
    rw [noPieces] at followed
    obtain rfl : place.origin path = reached := Except.ok.inj followed
    rw [same, follow_cons (enter_of_isIdle (directory_origin sound path) rfl) (plain _)]
    rfl

/-! ### One piece further -/

/-- The path of a directory with a piece behind it leads where the piece leads from there. -/
theorem Reaches.child (plain : place.tree.IsPlain) {base : FilePath} {piece : List Char}
    {location next : Location}
    (reaches : place.Reaches base location) (filled : base.text ≠ []) (slashFree : '/' ∉ piece)
    (entered : enter place.tree location piece = .ok next) :
    place.Reaches (base.child piece) next := by
  obtain ⟨front, whole, before⟩ := exists_parts_child filled slashFree
  have origin : place.origin (base.child piece) = place.origin base :=
    origin_congr place (by rw [whole])
  have onward (reached : follow place.tree (place.origin base) front = .ok location) :
      place.Reaches (base.child piece) next := by
    unfold Reaches
    rw [origin, whole, follow_append plain reached, follow_cons entered (plain next)]
    rfl
  unfold Reaches at reaches
  rcases before with same | same
  · exact onward (same ▸ reaches)
  · rw [same] at reaches
    obtain ⟨reached, front, arrived⟩ := exists_of_follow_append plain reaches
    obtain ⟨stayed, idle, arrived⟩ := exists_of_follow_cons plain arrived
    obtain rfl : stayed = location := Except.ok.inj arrived
    have here := toward_of_enter idle
    obtain rfl : stayed = reached := here
    exact onward front

/-! ### The current directory -/

theorem isSome_get?_current (sound : place.IsSound) :
    (place.tree.get? place.current).isSome = true := by
  rw [sound.current]
  rfl

theorem isEntryName_of_mem_current (sound : place.IsSound) {name : List Char}
    (member : name ∈ place.current) : IsEntryName name := by
  have there : (place.tree.get? ([] ++ place.current)).isSome = true := isSome_get?_current sound
  exact sound.tree.named_of_below there name member

theorem reaches_currentPath (sound : place.IsSound) :
    place.Reaches place.currentPath place.current := by
  have wellFormed : Parts.WellFormed ⟨.root, place.current⟩ :=
    ⟨fun name member => (isEntryName_of_mem_current sound member).slashFree, nofun⟩
  have whole : place.currentPath = ofParts ⟨.root, place.current⟩ := rfl
  have origin : place.origin place.currentPath = [] := rfl
  unfold Reaches
  rw [origin, whole]
  rcases parts_ofParts wellFormed with same | ⟨noPieces, same⟩
  · have here : place.tree.get? ([] ++ place.current) = some .directory := sound.current
    rw [same]
    exact follow_names sound.tree (by rw [here]; rfl) fun target => by rw [here]; nofun
  · have noNames : place.current = [] := noPieces
    rw [same, noNames]
    rfl

/-- The path of the current directory with a name behind it leads to that name in there. -/
theorem placeOf_currentPath_child (sound : place.IsSound) (plain : place.tree.IsPlain)
    {name : List Char} (segment : IsSegment name) :
    place.placeOf (place.currentPath.child name) = place.current ++ [name] := by
  have here : place.placeOf place.currentPath = place.current :=
    ((reaches_currentPath sound).eq_placeOf plain).symm
  have filled : place.currentPath.text ≠ [] := List.cons_ne_nil _ _
  rw [placeOf_child place filled segment.slashFree, segment.named, here]
  rfl

/-- The same path names that name in there, unless a link stands under it. -/
theorem slot_currentPath_child (sound : place.IsSound) {name : List Char} (segment : IsSegment name)
    (noLink : ∀ target, place.tree.get? (place.current ++ [name]) ≠ some (.link target))
    {location : Location} (slotted : place.slot (place.currentPath.child name) = .ok location) :
    location = place.current ++ [name] := by
  have wellFormed : Parts.WellFormed ⟨.root, place.current⟩ :=
    ⟨fun name member => (isEntryName_of_mem_current sound member).slashFree, nofun⟩
  have filled : place.currentPath.text ≠ [] := List.cons_ne_nil _ _
  obtain ⟨⟨⟩, _, followed⟩ := Settings.eq_of_bind_eq_ok slotted
  obtain ⟨front, whole, before⟩ := exists_parts_child filled segment.slashFree
  have origin : place.origin (place.currentPath.child name) = [] := by
    rw [origin_congr place (show _ = place.currentPath.parts.anchor by rw [whole])]
    rfl
  have here : place.tree.get? ([] ++ place.current) = some .directory := sound.current
  rw [origin, whole, linkLimit, followWithin] at followed
  have isPath : place.currentPath = ofParts ⟨.root, place.current⟩ := rfl
  rw [isPath] at before
  rcases parts_ofParts wellFormed with same | ⟨atRoot, same⟩
  · rw [same] at before
    rcases before with whole | behind
    · obtain rfl : place.current = front := whole
      -- From the current directory the name is the only piece left.
      rw [followUntil_names sound.tree here (List.cons_ne_nil name [])] at followed
      exact followUntil_name segment noLink followed
    · have behind : place.current = front ++ [[]] := behind
      have idle : IsEntryName [] := isEntryName_of_mem_current sound (by rw [behind]; simp)
      cases idle.named
  · have atRoot : place.current = [] := atRoot
    rw [same] at before
    rw [atRoot] at noLink ⊢
    rcases before with whole | behind
    · obtain rfl : [[]] = front := whole
      exact followUntil_name segment noLink followed
    · obtain rfl : front = [] := by simpa using behind
      exact followUntil_name segment noLink followed

/-- A file of the current directory is found under the path of the directory with its name, as long
as that path may be used. -/
theorem hasFile_currentPath_child_iff (sound : place.IsSound) (plain : place.tree.IsPlain)
    {name : List Char} (segment : IsSegment name) :
    place.hasFile (place.currentPath.child name) = true ↔
      checkPath (place.currentPath.child name) = .ok () ∧
        place.tree.HoldsFile (place.current ++ [name]) := by
  constructor
  · intro file
    obtain ⟨node, found, isFile⟩ := hasFile_iff_find.mp file
    obtain ⟨location, located, there⟩ := find_eq_ok found
    obtain rfl : location = place.current ++ [name] :=
      (placeOf_of_locate plain located).trans (placeOf_currentPath_child sound plain segment)
    exact ⟨(locate_eq_ok_iff.mp located).1, node, there, isFile⟩
  · rintro ⟨isPath, holds⟩
    have filled : place.currentPath.text ≠ [] := List.cons_ne_nil _ _
    have reaches := (reaches_currentPath sound).child plain filled segment.slashFree
      (enter_name sound.tree holds.isSome_get?)
    exact reaches.hasFile_iff.mpr ⟨isPath, holds⟩

/-! ### What keeps a tree sound -/

theorem LastStep.isEntryName {location : Location} {name : List Char}
    (step : LastStep place path location name) : IsEntryName name := by
  obtain ⟨before, idle, pieces, _, _⟩ := step.pieces
  refine ⟨⟨(wellFormed_parts path).slashFree name ?_, step.named⟩, step.short⟩
  rw [pieces]
  exact List.mem_append_right _ List.mem_cons_self

/-- Where a way to a file that may be new ends: at a directory, or under a name in one. -/
theorem followWithin_enterNew_eq_ok {tree : FileTree} {links : Nat} {location arrived : Location}
    {pieces : List (List Char)} (slashFree : ∀ piece ∈ pieces, '/' ∉ piece)
    (start : tree.get? location = some .directory)
    (followed : followWithin tree (enterNew tree) links location pieces = .ok arrived) :
    tree.get? arrived = some .directory ∨
      ∃ holder name, arrived = holder ++ [name] ∧ tree.get? holder = some .directory ∧
        IsEntryName name := by
  induction links generalizing location pieces with
  | zero => cases followed
  | succ links onward =>
    rw [followWithin] at followed
    induction pieces generalizing location with
    | nil => exact .inl (Except.ok.inj followed ▸ start)
    | cons piece rest inductionHypothesis =>
      obtain ⟨pieceFree, restFree⟩ := List.forall_mem_cons.mp slashFree
      obtain ⟨next, entered, onOrOver⟩ := followUntil_cons_eq_ok_iff.mp followed
      rcases onOrOver with ⟨target, _, _, onOver⟩ | ⟨_, followed⟩
      · refine onward ?_ ?_ onOver
        · exact List.forall_mem_append.mpr ⟨(wellFormed_parts target).slashFree, restFree⟩
        · unfold startFrom
          split
          · exact start
          · rfl
      · cases rest with
        | nil =>
          obtain ⟨directory, rfl, isName⟩ := enterNew_eq_ok pieceFree entered
          obtain rfl := Except.ok.inj followed
          exact .inr ⟨location, piece, rfl, directory, isName⟩
        | cons second others =>
          -- The way goes on, so it has come to a directory.
          obtain ⟨_, enteredNext, _⟩ := followUntil_cons_eq_ok_iff.mp followed
          refine inductionHypothesis restFree ?_ followed
          split_ifs at enteredNext
          · exact (enterNew_eq_ok (restFree second List.mem_cons_self) enteredNext).1
          · exact directory_of_enter enteredNext

theorem isSound_of_write {contents : List Char} {tree : FileTree} (sound : place.IsSound)
    (written : place.write path contents = .ok tree) : (place.withTree tree).IsSound := by
  obtain ⟨location, slotted, free, rfl, _⟩ := write_eq_ok written
  obtain ⟨⟨⟩, _, followed⟩ := Settings.eq_of_bind_eq_ok slotted
  have ended := followWithin_enterNew_eq_ok (wellFormed_parts path).slashFree
    (directory_origin sound path) followed
  rcases ended with directory | ⟨holder, name, rfl, directory, isName⟩
  · exact absurd (free _ directory) Bool.false_ne_true
  · have becomes := becomes_of_write written
    exact ⟨sound.tree.set directory isName free, becomes.get?_eq_of_not_file sound.current rfl⟩

theorem isSound_of_makeDirectory {tree : FileTree} (sound : place.IsSound)
    (made : place.makeDirectory path = .ok tree) : (place.withTree tree).IsSound := by
  have becomes : Becomes (fun _ => False) place.tree tree := becomes_of_makeDirectory made
  have current := becomes.get?_eq_of_not_file sound.current rfl
  obtain ⟨location, name, step, _, empty, rfl⟩ := makeDirectory_eq_ok made
  exact ⟨sound.tree.set (hasDirectory_iff.mp step.directory) step.isEntryName
    (by rw [empty]; nofun), current⟩

end Workplace

end SharpTypes

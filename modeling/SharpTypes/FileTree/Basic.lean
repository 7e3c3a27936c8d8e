/-
Trees of files. A file, a directory or a symbolic link lies at a location, the names that lead to it
from the root, and every location is listed at most once. The root itself is always a directory. The
view of a tree is `get?`, and the two laws on `set` say all that it does to this view.

A tree says where things are and what they hold. It has no second name for one file other than a
symbolic link, and nothing in it says who may read or write what.
-/

import SharpTypes.FilePath

namespace SharpTypes

/-- The names that lead from the root to what lies in a tree. -/
abbrev Location := List (List Char)

/-- What lies at a location. -/
inductive FileNode where
  | directory
  /-- A file that holds text. -/
  | text (contents : List Char)
  /-- A file whose bytes are no text. -/
  | binary (bytes : List UInt8)
  /-- A symbolic link, which stands for what its target leads to. -/
  | link (target : FilePath)
  deriving DecidableEq, Repr

/-- Whether it is a file. -/
def FileNode.isFile : FileNode → Bool
  | .text _ => true
  | .binary _ => true
  | .directory => false
  | .link _ => false

/-- Whether it is a symbolic link. -/
def FileNode.isLink : FileNode → Bool
  | .link _ => true
  | _ => false

/-- Files, directories and links by their locations. -/
structure FileTree where
  entries : List (Location × FileNode)
  distinct : (entries.map Prod.fst).Nodup

namespace FileTree

/-- The tree with nothing but the root. -/
def empty : FileTree :=
  ⟨[], List.nodup_nil⟩

/-- What a list has for a location. -/
def lookup (location : Location) : List (Location × FileNode) → Option FileNode
  | [] => none
  | entry :: rest => if entry.1 = location then some entry.2 else lookup location rest

/-- What lies at a location. -/
def get? (tree : FileTree) (location : Location) : Option FileNode :=
  if location = [] then some .directory else lookup location tree.entries

/-- The list with something else at a location, which it keeps its place for if it has one. -/
def replace (location : Location) (node : FileNode) :
    List (Location × FileNode) → List (Location × FileNode)
  | [] => [(location, node)]
  | entry :: rest =>
    if entry.1 = location then (location, node) :: rest else entry :: replace location node rest

theorem lookup_replace (location other : Location) (node : FileNode)
    (entries : List (Location × FileNode)) :
    lookup other (replace location node entries) =
      if location = other then some node else lookup other entries := by
  induction entries with
  | nil => simp [replace, lookup]
  | cons entry rest inductionHypothesis => grind [replace, lookup]

theorem mem_map_fst_replace {location other : Location} {node : FileNode}
    {entries : List (Location × FileNode)} :
    other ∈ (replace location node entries).map Prod.fst ↔
      other = location ∨ other ∈ entries.map Prod.fst := by
  induction entries with
  | nil => simp [replace]
  | cons entry rest inductionHypothesis => grind [replace]

theorem nodup_replace (location : Location) (node : FileNode) {entries : List (Location × FileNode)}
    (distinct : (entries.map Prod.fst).Nodup) :
    ((replace location node entries).map Prod.fst).Nodup := by
  induction entries with
  | nil => simp [replace]
  | cons entry rest inductionHypothesis =>
    obtain ⟨fresh, distinctRest⟩ := List.nodup_cons.1 distinct
    rw [replace]
    split
    · next same => exact List.nodup_cons.2 ⟨same ▸ fresh, distinctRest⟩
    · next differs =>
      refine List.nodup_cons.2 ⟨fun member => ?_, inductionHypothesis distinctRest⟩
      rcases mem_map_fst_replace.1 member with same | member
      · exact differs same
      · exact fresh member

/-- The tree with something else at a location. -/
def set (tree : FileTree) (location : Location) (node : FileNode) : FileTree :=
  ⟨replace location node tree.entries, nodup_replace location node tree.distinct⟩

/-- What was set is there; the root stays a directory. -/
theorem get?_set_same (tree : FileTree) {location : Location} (node : FileNode)
    (below : location ≠ []) : (tree.set location node).get? location = some node := by
  simp [get?, set, below, lookup_replace]

/-- Nothing else changes. -/
theorem get?_set_of_ne (tree : FileTree) {location other : Location} (node : FileNode)
    (differs : location ≠ other) : (tree.set location node).get? other = tree.get? other := by
  simp [get?, set, differs, lookup_replace]

/-- Whether there is a directory at a location. -/
def hasDirectory (tree : FileTree) (location : Location) : Bool :=
  tree.get? location = some .directory

theorem hasDirectory_iff {tree : FileTree} {location : Location} :
    tree.hasDirectory location = true ↔ tree.get? location = some .directory :=
  decide_eq_true_iff

end FileTree

end SharpTypes

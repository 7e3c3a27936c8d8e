/-
TOML tables while a document is read. A table remembers how it came about, because that decides what
may still be added to it: a table that a header names is complete once its section ends, one that
dotted keys made can only grow by dotted keys, and one that was only passed on the way to another
can still get a header of its own. Values, lists of values and tables in braces never change.
-/

import SharpTypes.Json.Basic

namespace SharpTypes.Toml

/-- How a table came about. -/
inductive Origin where
  /-- On the way to a table that a header names. -/
  | passed
  /-- By a header, or as the outermost table. -/
  | header
  /-- By a dotted key. -/
  | dotted
  deriving DecidableEq, Repr

/-- What a name in a table stands for. -/
inductive Node where
  | value (value : Json)
  | table (origin : Origin) (entries : List (List Char × Node))
  /-- Tables that headers in double brackets name, the latest first. -/
  | tables (tables : List (List (List Char × Node)))

/-- The entries of a table, in the order in which their names first came. -/
abbrev Entries := List (List Char × Node)

namespace Entries

/-- What a name stands for. -/
def get? (entries : Entries) (name : List Char) : Option Node :=
  (entries.find? fun entry => entry.1 == name).map Prod.snd

/-- The entries with a name given a new meaning. -/
def set (entries : Entries) (name : List Char) (node : Node) : Entries :=
  if (entries.get? name).isSome then
    entries.map fun entry => if entry.1 == name then (name, node) else entry
  else entries ++ [(name, node)]

end Entries

/-- A change of one table. It is given how the table came about. -/
abbrev Change := Origin → Entries → Option Entries

/-- Changes the table that a row of names leads to. Tables that are missing on the way are made; of
tables in double brackets the last one counts. By a dotted key no table with a header is reached. -/
def changeAt (isDotted : Bool) (change : Change) : List (List Char) → Change
  | [], origin, entries => change origin entries
  | name :: names, _, entries =>
    match entries.get? name with
    | none =>
      let made := if isDotted then Origin.dotted else Origin.passed
      (changeAt isDotted change names made []).map fun inner => entries.set name (.table made inner)
    | some (.value _) => none
    | some (.table origin inner) =>
      if isDotted ∧ origin = .header then none
      else
        (changeAt isDotted change names origin inner).map fun inner =>
          entries.set name (.table origin inner)
    | some (.tables []) => none
    | some (.tables (last :: earlier)) =>
      (changeAt isDotted change names .header last).map fun inner =>
        entries.set name (.tables (inner :: earlier))

/-- Changes the entry of the name that a row of names ends with. -/
def changeEntry (isDotted : Bool) (change : List Char → Change) (names : List (List Char)) :
    Change :=
  match names.reverse with
  | name :: before => changeAt isDotted (change name) before.reverse
  | [] => fun _ _ => none

/-- Gives a name a value. Only a table that dotted keys made may be reached by one. -/
def define (names : List (List Char)) (value : Json) : Change :=
  changeEntry true
    (fun name origin entries =>
      if (entries.get? name).isSome ∨ (2 ≤ names.length ∧ origin ≠ .dotted) then none
      else some (entries.set name (.value value)))
    names

/-- Opens the table that a header names. -/
def openTable (names : List (List Char)) : Change :=
  changeEntry false
    (fun name _ entries =>
      match entries.get? name with
      | none => some (entries.set name (.table .header []))
      | some (.table .passed inner) => some (entries.set name (.table .header inner))
      | some _ => none)
    names

/-- Opens one more of the tables that a header in double brackets names. -/
def openNext (names : List (List Char)) : Change :=
  changeEntry false
    (fun name _ entries =>
      match entries.get? name with
      | none => some (entries.set name (.tables [[]]))
      | some (.tables earlier) => some (entries.set name (.tables ([] :: earlier)))
      | some _ => none)
    names

mutual

/-- What a name stands for, as a value. -/
def Node.toJson : Node → Json
  | .value value => value
  | .table _ entries => .object (entriesToMembers entries)
  | .tables tables => .array (tablesToItems tables).reverse

/-- The members of the object that a table is. -/
def entriesToMembers : List (List Char × Node) → List (List Char × Json)
  | [] => []
  | (name, node) :: rest => (name, node.toJson) :: entriesToMembers rest

/-- The objects that tables are. -/
def tablesToItems : List (List (List Char × Node)) → List Json
  | [] => []
  | entries :: rest => .object (entriesToMembers entries) :: tablesToItems rest

end

end SharpTypes.Toml

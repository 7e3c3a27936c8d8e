/-
What happens along the way and may be worth a note: things in a source text that were not read,
names declared twice, references that lead nowhere, and the outcome. Each kind of event has its
level, its message and its fields.
-/

import SharpTypes.FilePath
import SharpTypes.Source.SourceText

namespace SharpTypes

/-- How much an event matters. -/
inductive Level where
  | debug
  | info
  | warn
  deriving DecidableEq, Repr

/-- Something that happened. -/
inductive Event where
  /-- Something in a source text was not read as it may have been meant. -/
  | complaint (complaint : Source.Complaint)
  /-- A name is declared again, in the file at `current`. -/
  | duplicateName (name : List Char) (previous current source : FilePath)
  /-- There is nothing to write. -/
  | nothingToAssemble
  /-- A type refers to a name that no file declares. -/
  | unknownReference (name : List Char)
  /-- The given number of files was put together. -/
  | assembled (units : Nat)
  deriving DecidableEq, Repr

namespace Event

/-- The event of a malformed type expression. -/
def malformedType (fault : Source.TypeFault) : Event :=
  .complaint (.malformedType fault)

/-- The level of an event. -/
def level : Event → Level
  | .complaint _ => .debug
  | .duplicateName .. => .warn
  | .nothingToAssemble => .debug
  | .unknownReference _ => .debug
  | .assembled _ => .info

/-- What an event says. -/
def message : Event → List Char
  | .complaint (.malformedType fault) =>
    match fault.kind with
    | .dictionaryArity => "dictionary without exactly two type arguments".toList
    | .dictionaryGap => "dictionary with an empty type argument".toList
    | .collectionArity => "collection without exactly one type argument".toList
  | .complaint (.strayMarker _) =>
    "marker is not followed by a parseable enum or class".toList
  | .duplicateName .. => "duplicate declaration name, later declaration wins".toList
  | .nothingToAssemble => "no declarations to assemble".toList
  | .unknownReference _ => "reference not in index, no import".toList
  | .assembled _ => "assembled output".toList

/-- The value of a field. -/
inductive FieldValue where
  | text (value : List Char)
  | count (value : Nat)
  deriving DecidableEq, Repr

/-- The named details of an event. -/
def fields : Event → List (List Char × FieldValue)
  | .complaint (.malformedType fault) => [("ty".toList, .text fault.text)]
  | .complaint (.strayMarker offset) => [("offset".toList, .count offset)]
  | .duplicateName name previous current source =>
    [("name".toList, .text name), ("previous".toList, .text previous.text),
      ("current".toList, .text current.text), ("source".toList, .text source.text)]
  | .nothingToAssemble => []
  | .unknownReference name => [("name".toList, .text name)]
  | .assembled units => [("units".toList, .count units)]

end Event

end SharpTypes

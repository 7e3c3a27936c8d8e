/-
Reading a source text. Comments are removed first; then every marker is looked up and the
declaration right behind it is read. A marker with no readable declaration behind it is passed over,
and can be reported.
-/

import SharpTypes.Source.Comment
import SharpTypes.Source.DeclarationText
import SharpTypes.Source.Marker

namespace SharpTypes.Source

/-- The marked declarations of a source text, in order. -/
def declarations (marker source : List Char) : List Declaration :=
  (Marker.occurrences marker (Comment.strip source)).filterMap fun occurrence =>
    (DeclarationText.of? occurrence.rest).map DeclarationText.declaration

/-- Something in a source text that was not read as it may have been meant. -/
inductive Complaint where
  /-- A type expression with a malformed argument list. -/
  | malformedType (fault : TypeFault)
  /-- A marker without a declaration, by its offset in the text without comments. -/
  | strayMarker (offset : Nat)
  deriving DecidableEq, Repr

/-- The complaints about a source text, in order. -/
def complaints (marker source : List Char) : List Complaint :=
  (Marker.occurrences marker (Comment.strip source)).flatMap fun occurrence =>
    match DeclarationText.of? occurrence.rest with
    | some text => text.faults.map .malformedType
    | none => [.strayMarker occurrence.offset]

end SharpTypes.Source

/-
Reading JSON values from tokens. The containers that are open are kept in a list, the innermost
first, and each token either starts, continues or ends one, so a value is read in one pass over its
tokens. A value that someone wants is read with full care; one that is only to be passed over may
nest to any depth and may hold numbers and strings without a value.
-/

import SharpTypes.Json.Number
import SharpTypes.Json.Token

namespace SharpTypes.Json

/-- How carefully a value is read. -/
inductive Care where
  /-- Numbers and strings have to have a value, and containers may nest to the given depth. -/
  | full (depth : Nat)
  /-- Only the grammar is checked. -/
  | skim
  deriving DecidableEq, Repr

/-- The greatest depth to which containers of a document nest. -/
def documentDepth : Nat := 127

/-- A container of which a part has been read. What it holds is listed with the latest first. -/
inductive Frame where
  | array (items : List Json)
  /-- An object and the name of the member whose value is being read. -/
  | object (members : List (List Char × Json)) (name : List Char)

/-- What may come next. -/
inductive Phase where
  /-- A value. -/
  | value
  /-- A value, or the end of an array without items. -/
  | firstItem
  /-- A name, or the end of an object without members. -/
  | firstName
  /-- The name of a further member. -/
  | name (members : List (List Char × Json))
  /-- The colon after a name. -/
  | colon (members : List (List Char × Json)) (name : List Char)
  /-- A comma or the end of the innermost container, whose next value is done. -/
  | next (done : Json)

namespace Care

/-- Whether one more container may be opened inside the given number of them. -/
def admits : Care → Nat → Bool
  | .full depth, opened => opened < depth
  | .skim, _ => true

/-- The text of a string; in a value that is passed over it does not matter. -/
def text? : Care → Option (List Char) → Option (List Char)
  | .full _, text => text
  | .skim, text => some (text.getD [])

/-- The value that a single token makes. -/
def scalar? (care : Care) : Token → Option Json
  | .null => some .null
  | .boolean value => some (.boolean value)
  | .number value =>
    if care = .skim ∨ value.value?.isSome then some (.number value) else none
  | .string text => (care.text? text).map .string
  | _ => none

end Care

/-! ### One token at a time -/

/-- What a token leads to. -/
inductive Step where
  /-- The token does not fit. -/
  | fault
  /-- The outermost value is complete. -/
  | complete (value : Json)
  /-- There is more to read. -/
  | goOn (frames : List Frame) (phase : Phase)

namespace Step

/-- A value is done, inside the given containers. -/
def finish (done : Json) (frames : List Frame) : Step :=
  if frames.isEmpty then .complete done else .goOn frames (.next done)

/-- A value starts with the token. -/
def start (care : Care) (frames : List Frame) : Token → Step
  | .beginArray =>
    if care.admits frames.length then .goOn (.array [] :: frames) .firstItem else .fault
  | .beginObject => if care.admits frames.length then .goOn frames .firstName else .fault
  | token =>
    match care.scalar? token with
    | some value => finish value frames
    | none => .fault

/-- The name of a member is read. -/
def named (care : Care) (frames : List Frame) (members : List (List Char × Json))
    (text : Option (List Char)) : Step :=
  match care.text? text with
  | some name => .goOn frames (.colon members name)
  | none => .fault

/-- What the next token leads to. -/
def of (care : Care) (frames : List Frame) : Phase → Token → Step
  | .value, token => start care frames token
  | .firstItem, .endArray => finish (.array []) frames.tail
  | .firstItem, token => start care frames token
  | .firstName, .endObject => finish (.object []) frames
  | .firstName, .string text => named care frames [] text
  | .name members, .string text => named care frames members text
  | .colon members name, .colon => .goOn (.object members name :: frames) .value
  | .next done, token =>
    match frames, token with
    | .array items :: outer, .comma => .goOn (.array (done :: items) :: outer) .value
    | .array items :: outer, .endArray => finish (.array (done :: items).reverse) outer
    | .object members name :: outer, .comma => .goOn outer (.name ((name, done) :: members))
    | .object members name :: outer, .endObject =>
      finish (.object ((name, done) :: members).reverse) outer
    | _, _ => .fault
  | _, _ => .fault

end Step

/-- Reads on until the outermost value is complete; also returns the tokens after it. -/
def read (care : Care) (frames : List Frame) (phase : Phase) :
    List Token → Option (Json × List Token)
  | [] => none
  | token :: rest =>
    match Step.of care frames phase token with
    | .fault => none
    | .complete value => some (value, rest)
    | .goOn frames phase => read care frames phase rest

/-- The value that the tokens start with, and the tokens after it. -/
def value? (care : Care) (tokens : List Token) : Option (Json × List Token) :=
  read care [] .value tokens

/-- The value that a text holds, all of it. -/
def parse? (text : List Char) : Option Json :=
  match value? (.full documentDepth) (tokens text) with
  | some (value, []) => some value
  | _ => none

/-- Reading consumes at least one token. -/
theorem length_read_lt {care : Care} {frames : List Frame} {phase : Phase}
    {tokens rest : List Token} {value : Json}
    (found : read care frames phase tokens = some (value, rest)) : rest.length < tokens.length := by
  induction tokens generalizing frames phase with
  | nil => simp [read] at found
  | cons token later inductionHypothesis =>
    rw [read] at found
    split at found
    · simp at found
    · obtain ⟨_, rfl⟩ := Prod.mk.inj (Option.some.inj found)
      simp
    · exact Nat.lt_succ_of_lt (inductionHypothesis found)

theorem length_value?_lt {care : Care} {tokens rest : List Token} {value : Json}
    (found : value? care tokens = some (value, rest)) : rest.length < tokens.length :=
  length_read_lt found

end SharpTypes.Json

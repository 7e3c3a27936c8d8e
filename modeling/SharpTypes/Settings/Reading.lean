/-
Settings from JSON text. The text is read from left to right and the first thing that is wrong
counts: a value of the wrong type is noticed as soon as it starts, and then it does not matter
whether the rest of the text is JSON at all. Members with unknown names are passed over. Project
settings are read as a whole first, but for the project files, which are looked at where they stand.
-/

import SharpTypes.Json.Reader
import SharpTypes.Settings.Decoding

namespace SharpTypes.Settings

open Json (Care Token value?)

/-- Why no settings could be read from a text. -/
inductive ReadFault where
  /-- The text is not JSON, or not in the place where it matters. -/
  | malformed
  /-- The text is JSON as far as it was read, but not of settings. -/
  | data (fault : Fault)

/-- A fault of a value, as one of the text. -/
def ofValue (result : Except Fault α) : Except ReadFault α :=
  result.mapError .data

/-- The greatest depth to which a value inside the outermost container nests. -/
def innerDepth : Nat :=
  Json.documentDepth - 1

/-! ### Values -/

/-- The value that a single token is or starts; a container is taken for an empty one. -/
def glance : List Token → Except ReadFault (Json × List Token)
  | .beginArray :: rest => .ok (.array [], rest)
  | .beginObject :: rest => .ok (.object [], rest)
  | token :: rest =>
    match (Care.full innerDepth).scalar? token with
    | some value => .ok (value, rest)
    | none => .error .malformed
  | [] => .error .malformed

/-- A whole value. -/
def readValue (care : Care) (tokens : List Token) : Except ReadFault (Json × List Token) :=
  match value? care tokens with
  | some found => .ok found
  | none => .error .malformed

/-- One given token. -/
def readToken (wanted : Token) : List Token → Except ReadFault (List Token)
  | token :: rest => if token = wanted then .ok rest else .error .malformed
  | [] => .error .malformed

/-- A naming convention. -/
def readConvention : List Token → Except ReadFault (NamingConvention × List Token)
  | .string (some name) :: rest => do
    return (← ofValue (decodeConventionName name), rest)
  | .beginObject :: .string (some name) :: rest => do
    let convention ← ofValue (decodeConventionName name)
    let (value, rest) ← glance (← readToken .colon rest)
    ofValue (Filler.null.check value)
    return (convention, ← readToken .endObject rest)
  | .beginObject :: rest => do
    let (found, _) ← glance rest
    .error (.data (.wrongType found "variant identifier".toList))
  | _ => .error .malformed

/-- The draft with a field read. -/
def readField (draft : Draft) (field : Field) (tokens : List Token) :
    Except ReadFault (Draft × List Token) := do
  match field with
  | .memberNaming =>
    let (convention, rest) ← readConvention tokens
    return (draft.withMemberNaming convention, rest)
  | .pathNaming =>
    let (value, rest) ← readValue (.full innerDepth) tokens
    return (← ofValue (draft.decode .null value .pathNaming), rest)
  | _ =>
    let (value, rest) ← glance tokens
    return (← ofValue (draft.decode .null value field), rest)

/-! ### What follows is shorter -/

theorem eq_of_bind_eq_ok {result : Except ε α} {further : α → Except ε β} {value : β}
    (found : result.bind further = .ok value) :
    ∃ inner, result = .ok inner ∧ further inner = .ok value := by
  cases result with
  | error fault => simp [Except.bind] at found
  | ok inner => exact ⟨inner, rfl, found⟩

theorem length_glance_lt {tokens rest : List Token} {value : Json}
    (found : glance tokens = .ok (value, rest)) : rest.length < tokens.length := by
  unfold glance at found
  split at found
  · obtain ⟨_, rfl⟩ := Prod.mk.inj (Except.ok.inj found)
    simp
  · obtain ⟨_, rfl⟩ := Prod.mk.inj (Except.ok.inj found)
    simp
  · split at found
    · obtain ⟨_, rfl⟩ := Prod.mk.inj (Except.ok.inj found)
      simp
    · simp at found
  · simp at found

theorem length_readValue_lt {care : Care} {tokens rest : List Token} {value : Json}
    (found : readValue care tokens = .ok (value, rest)) : rest.length < tokens.length := by
  unfold readValue at found
  split at found
  · next given =>
    rw [Except.ok.inj found] at given
    exact Json.length_value?_lt given
  · simp at found

theorem length_readToken_lt {wanted : Token} {tokens rest : List Token}
    (found : readToken wanted tokens = .ok rest) : rest.length < tokens.length := by
  unfold readToken at found
  split at found
  · split at found
    · obtain rfl := Except.ok.inj found
      simp
    · simp at found
  · simp at found

theorem length_readConvention_lt {tokens rest : List Token} {convention : NamingConvention}
    (found : readConvention tokens = .ok (convention, rest)) : rest.length < tokens.length := by
  unfold readConvention at found
  split at found
  · obtain ⟨_, _, same⟩ := eq_of_bind_eq_ok found
    obtain ⟨_, rfl⟩ := Prod.mk.inj (Except.ok.inj same)
    simp
  · obtain ⟨_, _, found⟩ := eq_of_bind_eq_ok found
    obtain ⟨afterColon, colon, found⟩ := eq_of_bind_eq_ok found
    obtain ⟨⟨value, afterValue⟩, glanced, found⟩ := eq_of_bind_eq_ok found
    obtain ⟨_, _, found⟩ := eq_of_bind_eq_ok found
    obtain ⟨afterEnd, closed, same⟩ := eq_of_bind_eq_ok found
    obtain ⟨_, rfl⟩ := Prod.mk.inj (Except.ok.inj same)
    have := length_readToken_lt colon
    have := length_glance_lt glanced
    have := length_readToken_lt closed
    simp only [List.length_cons]
    omega
  · obtain ⟨_, _, same⟩ := eq_of_bind_eq_ok found
    simp at same
  · simp at found

theorem length_readField_lt {draft draft' : Draft} {field : Field} {tokens rest : List Token}
    (found : readField draft field tokens = .ok (draft', rest)) : rest.length < tokens.length := by
  unfold readField at found
  split at found
  · obtain ⟨⟨convention, after⟩, given, same⟩ := eq_of_bind_eq_ok found
    obtain ⟨_, rfl⟩ := Prod.mk.inj (Except.ok.inj same)
    exact length_readConvention_lt given
  · obtain ⟨⟨value, after⟩, given, found⟩ := eq_of_bind_eq_ok found
    obtain ⟨_, _, same⟩ := eq_of_bind_eq_ok found
    obtain ⟨_, rfl⟩ := Prod.mk.inj (Except.ok.inj same)
    exact length_readValue_lt given
  · obtain ⟨⟨value, after⟩, given, found⟩ := eq_of_bind_eq_ok found
    obtain ⟨_, _, same⟩ := eq_of_bind_eq_ok found
    obtain ⟨_, rfl⟩ := Prod.mk.inj (Except.ok.inj same)
    exact length_glance_lt given

/-! ### Settings -/

/-- The draft with the member read whose name has just been read. -/
def readMember (draft : Draft) (name : List Char) (tokens : List Token) :
    Except ReadFault (Draft × List Token) := do
  match Field.ofName? name with
  | some field =>
    ofValue (draft.refuseTwice field)
    readField draft field (← readToken .colon tokens)
  | none =>
    let (_, rest) ← readValue .skim (← readToken .colon tokens)
    return (draft, rest)

theorem length_readMember_lt {draft draft' : Draft} {name : List Char} {tokens rest : List Token}
    (found : readMember draft name tokens = .ok (draft', rest)) : rest.length < tokens.length := by
  unfold readMember at found
  split at found
  · obtain ⟨_, _, found⟩ := eq_of_bind_eq_ok found
    obtain ⟨after, colon, found⟩ := eq_of_bind_eq_ok found
    exact Nat.lt_trans (length_readField_lt found) (length_readToken_lt colon)
  · obtain ⟨after, colon, found⟩ := eq_of_bind_eq_ok found
    obtain ⟨⟨value, behind⟩, skimmed, same⟩ := eq_of_bind_eq_ok found
    obtain ⟨_, rfl⟩ := Prod.mk.inj (Except.ok.inj same)
    exact Nat.lt_trans (length_readValue_lt skimmed) (length_readToken_lt colon)

/-- The draft with all members read up to the end of the object, of which there is at least one. -/
def readMembers (draft : Draft) : List Token → Except ReadFault (Draft × List Token)
  | .string (some name) :: tokens =>
    match _found : readMember draft name tokens with
    | .ok (draft, .comma :: rest) => readMembers draft rest
    | .ok (draft, .endObject :: rest) => .ok (draft, rest)
    | .ok _ => .error .malformed
    | .error fault => .error fault
  | _ => .error .malformed
termination_by tokens => tokens.length
decreasing_by
  have shorter := length_readMember_lt (by assumption)
  simp only [List.length_cons] at *
  omega

/-- The draft with the items of a list read up to its end, for the given fields in turn. -/
def readItems (draft : Draft) (isFirst : Bool) :
    List Field → List Token → Except ReadFault (Draft × List Token)
  | _, .endArray :: rest => .ok (draft, rest)
  | field :: fields, tokens => do
    let tokens ← if isFirst then pure tokens else readToken .comma tokens
    let (draft, rest) ← readField draft field tokens
    readItems draft false fields rest
  | [], _ => .error .malformed

/-- Settings, and the tokens after them. -/
def readSettings : List Token → Except ReadFault (Settings × List Token)
  | .beginObject :: .endObject :: rest => do
    return (← ofValue (Draft.finish {}), rest)
  | .beginObject :: tokens => do
    let (draft, rest) ← readMembers {} tokens
    return (← ofValue draft.finish, rest)
  | .beginArray :: .endArray :: _ => .error (.data (.tooShort 0))
  | .beginArray :: tokens => do
    let (draft, rest) ← readItems {} true Field.all tokens
    return (← ofValue draft.finish, rest)
  | tokens => do
    let (found, _) ← glance tokens
    .error (.data (.wrongType found "struct CodegenConfig".toList))

/-- What was read, if nothing is left. -/
def wholly (reading : Except ReadFault (α × List Token)) : Except ReadFault α := do
  match ← reading with
  | (result, []) => .ok result
  | _ => .error .malformed

/-- The settings that a JSON text holds. -/
def parse (text : List Char) : Except ReadFault Settings :=
  wholly (readSettings (Json.tokens text))

end SharpTypes.Settings

namespace SharpTypes.ProjectSettings

open Settings
open Json (Care Token)

/-- Refuses project files where there have been some. -/
def refuseTwice (projectFiles : Option ProjectFiles) : Except Fault Unit :=
  if projectFiles.isSome then .error (.duplicate projectFilesName) else .ok ()

/-- Adds a member to those read so far, the project files apart, and looks at the project files. -/
def readMember (projectFiles : Option ProjectFiles) (members : List (List Char × Json))
    (name : List Char) (tokens : List Token) :
    Except ReadFault ((Option ProjectFiles × List (List Char × Json)) × List Token) := do
  if name = projectFilesName then
    ofValue (refuseTwice projectFiles)
    let (value, rest) ← readValue (.full innerDepth) (← readToken .colon tokens)
    return ((some (← ofValue (decodeProjectFiles value)), members), rest)
  else
    let (value, rest) ← readValue (.full innerDepth) (← readToken .colon tokens)
    return ((projectFiles, (name, value) :: members), rest)

theorem length_readMember_lt {projectFiles projectFiles' : Option ProjectFiles}
    {members members' : List (List Char × Json)} {name : List Char} {tokens rest : List Token}
    (found : readMember projectFiles members name tokens = .ok ((projectFiles', members'), rest)) :
    rest.length < tokens.length := by
  unfold readMember at found
  split at found
  · obtain ⟨_, _, found⟩ := eq_of_bind_eq_ok found
    obtain ⟨after, colon, found⟩ := eq_of_bind_eq_ok found
    obtain ⟨⟨value, behind⟩, whole, found⟩ := eq_of_bind_eq_ok found
    obtain ⟨_, _, same⟩ := eq_of_bind_eq_ok found
    obtain ⟨_, rfl⟩ := Prod.mk.inj (Except.ok.inj same)
    exact Nat.lt_trans (length_readValue_lt whole) (length_readToken_lt colon)
  · obtain ⟨after, colon, found⟩ := eq_of_bind_eq_ok found
    obtain ⟨⟨value, behind⟩, whole, same⟩ := eq_of_bind_eq_ok found
    obtain ⟨_, rfl⟩ := Prod.mk.inj (Except.ok.inj same)
    exact Nat.lt_trans (length_readValue_lt whole) (length_readToken_lt colon)

/-- The project files and the other members, the latest first, up to the end of the object. -/
def readMembers (projectFiles : Option ProjectFiles) (members : List (List Char × Json)) :
    List Token → Except ReadFault ((Option ProjectFiles × List (List Char × Json)) × List Token)
  | .string (some name) :: tokens =>
    match _found : readMember projectFiles members name tokens with
    | .ok ((projectFiles, members), .comma :: rest) => readMembers projectFiles members rest
    | .ok ((projectFiles, members), .endObject :: rest) => .ok ((projectFiles, members), rest)
    | .ok _ => .error .malformed
    | .error fault => .error fault
  | _ => .error .malformed
termination_by tokens => tokens.length
decreasing_by
  have shorter := length_readMember_lt (by assumption)
  simp only [List.length_cons] at *
  omega

/-- Project settings, and the tokens after them. -/
def readProject : List Token → Except ReadFault (ProjectSettings × List Token)
  | .beginObject :: .endObject :: rest => do
    return (← ofValue (ofParts none []), rest)
  | .beginObject :: tokens => do
    let ((projectFiles, members), rest) ← readMembers none [] tokens
    return (← ofValue (ofParts projectFiles members.reverse), rest)
  | tokens => do
    let (found, _) ← glance tokens
    .error (.data (.wrongType found "struct ProjectConfig".toList))

/-- The project settings that a JSON text holds. -/
def parse (text : List Char) : Except ReadFault ProjectSettings :=
  wholly (readProject (Json.tokens text))

end SharpTypes.ProjectSettings

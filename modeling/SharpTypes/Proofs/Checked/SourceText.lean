/-
Reading a source text by offsets. The search for markers and headers gives the offsets where what
was found ends; from there on, the position goes forward over blanks, over lists in angle brackets
and over the name of a base type, and at each stop the text is sliced. All of these offsets are
good.
-/

import Mathlib.Tactic.Common
import SharpTypes.Proofs.Checked.Comment
import SharpTypes.Proofs.Checked.TypeText
import SharpTypes.Proofs.Source.HeaderReading
import SharpTypes.Proofs.Source.Remainder
import SharpTypes.Source.SourceText

namespace SharpTypes.Checked

open Text Source

variable {text rest : List Char} {position : Nat}

/-! ### Positions -/

/-- Where a match at the start of a text ends, if it leaves the given rest. -/
def matchEnd (text rest : List Char) : Nat :=
  byteSize text - byteSize rest

theorem goesOn_matchEnd (isEnd : rest <:+ text) : GoesOn text (matchEnd text rest) rest :=
  goesOn_of_suffix isEnd

/-- The offset behind the blanks at a position. -/
def skipBlanks (text : List Char) (position : Nat) : Except Fault Nat := do
  let behind ← sliceFrom text position
  subtract (byteSize text) (byteSize (trimStart behind))

theorem exists_skipBlanks (here : GoesOn text position rest) :
    ∃ stop, skipBlanks text position = .ok stop ∧ GoesOn text stop (trimStart rest) := by
  have isEnd : trimStart rest <:+ text := (trimStart_suffix rest).trans here.isSuffix
  refine ⟨_, ?_, goesOn_matchEnd isEnd⟩
  rw [skipBlanks, sliceFrom_eq_ok_iff.mpr here, ok_bind, subtract, if_pos]
  · rfl
  · rw [(goesOn_of_suffix isEnd).byteSize_eq]
    exact Nat.le_add_left _ _

/-- The parts of the list in angle brackets at a position, and the offset behind it. -/
def genericList (text : List Char) (position : Nat) :
    Except Fault (Option (List (List Char) × Nat)) := do
  match ← enclosed .angle text position with
  | none => return none
  | some (interior, stop) =>
    let parts ← split .angle ',' interior
    return some (parts.filter fun part => !part.isEmpty, stop + 1)

theorem genericList_cases (here : GoesOn text position rest) :
    (Header.genericList? rest = none ∧ genericList text position = .ok none) ∨
      ∃ parts behind stop, Header.genericList? rest = some (parts, behind) ∧
        genericList text position = .ok (some (parts, stop)) ∧ GoesOn text stop behind := by
  unfold genericList Header.genericList?
  rcases enclosed_eq (show Bracket.angle.opening.utf8Size = 1 from rfl) here with
    ⟨unmatched, unclosed⟩ | ⟨interior, behind, stop, matched, closed, there⟩
  · rw [unclosed, unmatched, ok_bind]
    exact .inl ⟨rfl, rfl⟩
  · rw [closed, matched, ok_bind]
    dsimp only
    rw [split_eq, ok_bind]
    exact .inr ⟨_, behind, stop + 1, rfl, rfl, there.forward_cons⟩

/-! ### Headers -/

/-- The parameters at a position, and the offset behind them and behind blanks. -/
def parameterList (text : List Char) (position : Nat) :
    Except Fault (List (List Char) × Nat) := do
  match ← genericList text position with
  | some (parts, stop) => return (parts, ← skipBlanks text stop)
  | none => return ([], position)

/-- The base type at a position, if a colon is there, and the offset behind it. -/
def baseType (text : List Char) (position : Nat) :
    Except Fault (Option Header.BaseType × Nat) := do
  let behind ← sliceFrom text position
  if behind.head? = some ':' then
    let position ← skipBlanks text (position + 1)
    let later ← sliceFrom text position
    match Header.qualifiedName? later with
    | none => return (none, position)
    | some (name, after) =>
      let position ← skipBlanks text (position + matchEnd later after)
      match ← genericList text position with
      | some (arguments, stop) => return (some ⟨name, arguments⟩, stop)
      | none => return (some ⟨name, []⟩, position)
  else return (none, position)

/-- Blanks before and behind a parameter list are passed over. -/
theorem exists_parameterList (here : GoesOn text position (trimStart rest)) :
    ∃ stop, parameterList text position = .ok ((Header.genericList (trimStart rest)).1, stop) ∧
      GoesOn text stop (trimStart (Header.genericList (trimStart rest)).2) := by
  unfold parameterList Header.genericList
  rcases genericList_cases here with ⟨noList, absent⟩ | ⟨parts, behind, stop, isList, found, there⟩
  · rw [absent, noList, ok_bind]
    refine ⟨position, rfl, ?_⟩
    show GoesOn text position (trimStart (trimStart rest))
    rwa [trimStart_trimStart]
  · obtain ⟨next, skipped, onward⟩ := exists_skipBlanks there
    rw [found, isList, ok_bind]
    dsimp only
    rw [skipped, ok_bind]
    exact ⟨next, rfl, onward⟩

theorem exists_baseType (here : GoesOn text position rest) :
    ∃ stop, baseType text position = .ok ((Header.baseType rest).1, stop) ∧
      GoesOn text stop (Header.baseType rest).2 := by
  rw [baseType, sliceFrom_eq_ok_iff.mpr here, ok_bind]
  by_cases colon : rest.head? = some ':'
  · obtain ⟨behind, rfl⟩ := List.head?_eq_some_iff.mp colon
    have inside : GoesOn text (position + 1) behind := here.forward_cons
    obtain ⟨start, skipped, there⟩ := exists_skipBlanks inside
    rw [if_pos colon, skipped, ok_bind, sliceFrom_eq_ok_iff.mpr there, ok_bind, Header.baseType]
    cases named : Header.qualifiedName? (trimStart behind) with
    | none => exact ⟨start, rfl, there⟩
    | some found =>
      obtain ⟨name, later⟩ := found
      obtain ⟨stop, skipped, onward⟩ := exists_skipBlanks
        (there.trans (goesOn_matchEnd (Header.suffix_of_qualifiedName? named)))
      dsimp only
      rw [skipped, ok_bind, Header.genericList]
      rcases genericList_cases onward with
        ⟨noList, absent⟩ | ⟨parts, after, next, isList, found, last⟩
      · rw [absent, noList, ok_bind]
        exact ⟨stop, rfl, onward⟩
      · rw [found, isList, ok_bind]
        exact ⟨next, rfl, last⟩
  · rw [if_neg colon, Header.baseType_of_ne colon]
    exact ⟨position, rfl, here⟩

/-! ### Enumeration values -/

/-- What is behind the attribute section that a text starts with, if one is there and closes. -/
def afterSection (text : List Char) : Except Fault (Option (List Char)) :=
  if text.head? = some '[' then
    match offsetOf? ']' text with
    | none => return none
    | some stop => return some (← sliceFrom text (stop + 1))
  else return none

theorem afterSection_eq (entry : List Char) :
    afterSection (trimStart entry) = .ok (Header.afterAttribute? entry) := by
  unfold Header.afterAttribute?
  split
  · next inside opened =>
    rw [opened, afterSection, if_pos List.head?_cons]
    rcases offsetOf?_cases ']' ('[' :: inside) with
      ⟨absent, all⟩ | ⟨stop, behind, found, reached, here⟩
    · have unclosed : inside.dropWhile (· ≠ ']') = [] := all
      rw [absent, unclosed]
      rfl
    · have closed : inside.dropWhile (· ≠ ']') = ']' :: behind := reached
      have onward : GoesOn ('[' :: inside) (stop + 1) behind := here.forward_cons
      rw [found, closed]
      dsimp only
      rw [sliceFrom_eq_ok_iff.mpr onward]
      rfl
  · next notOpened =>
    rw [afterSection, if_neg]
    · rfl
    · intro opens
      obtain ⟨inside, opened⟩ := List.head?_eq_some_iff.mp opens
      exact notOpened inside opened

/-- An entry without the attribute sections and the blanks before it. -/
def stripAttributes (entry : List Char) : Except Fault (List Char) :=
  match _step : afterSection (trimStart entry) with
  | .error fault => .error fault
  | .ok none => .ok (trimStart entry)
  | .ok (some behind) => stripAttributes behind
termination_by entry.length
decreasing_by
  rw [afterSection_eq] at _step
  exact Header.length_afterAttribute?_lt (Except.ok.inj _step)

theorem stripAttributes_eq (entry : List Char) :
    stripAttributes entry = .ok (trimStart (Header.afterAttributes entry)) := by
  fun_induction Header.afterAttributes entry with
  | case1 entry rest found inductionHypothesis =>
    rw [stripAttributes, ← inductionHypothesis]
    split <;> simp_all [afterSection_eq]
  | case2 entry missing =>
    rw [stripAttributes]
    split <;> simp_all [afterSection_eq]

/-- The value that one entry of an enumeration declares. -/
def value (entry : List Char) : Except Fault (Option (List Char)) := do
  let name := trim (beforeFirst '=' (← stripAttributes entry))
  return if isIdentifier name then some name else none

/-- The values that the body of an enumeration declares. -/
def values (body : List Char) : Except Fault (List (List Char)) := do
  let entries ← split .round ',' body
  return (← entries.mapM value).filterMap id

theorem values_eq (body : List Char) : values body = .ok (DeclarationText.values body) := by
  have each : ∀ entry ∈ Bracket.round.split ',' body,
      value entry = .ok (DeclarationText.value? entry) := by
    intro entry _
    rw [value, stripAttributes_eq, ok_bind]
    rfl
  rw [values, split_eq, ok_bind, mapM_eq_ok each, ok_bind, List.filterMap_map]
  rfl

/-! ### Declarations -/

/-- The members that the properties of a class body make. -/
def members (body : List Char) : Except Fault (List Member) :=
  ((Property.properties body).filter fun written => !written.isStatic).mapM fun written =>
    resolveMember written.name written.type

theorem members_eq (body : List Char) : members body = .ok (Property.members body) :=
  mapM_eq_ok fun written _ => resolveMember_eq written.name written.type

/-- The enumeration that the text starts with. -/
def enumeration (text : List Char) : Except Fault (Option Declaration) :=
  match Header.enumeration? text with
  | none => return none
  | some (name, rest) => do
    let behind ← sliceFrom text (matchEnd text rest)
    match ← body .curly behind with
    | none => return none
    | some body => return some ⟨name, .enumeration (← values body)⟩

theorem enumeration_eq (text : List Char) :
    enumeration text =
      .ok ((DeclarationText.enumeration? text).map DeclarationText.declaration) := by
  unfold enumeration DeclarationText.enumeration?
  cases found : Header.enumeration? text with
  | none => rfl
  | some parts =>
    obtain ⟨name, rest⟩ := parts
    have there := goesOn_matchEnd (Header.suffix_of_enumeration? found)
    dsimp only
    rw [sliceFrom_eq_ok_iff.mpr there, ok_bind, body_eq rfl, ok_bind, Option.bind_some]
    cases Bracket.curly.body? rest with
    | none => rfl
    | some body =>
      dsimp only
      rw [values_eq, ok_bind]
      rfl

/-- The class that the text starts with. -/
def object (text : List Char) : Except Fault (Option Declaration) :=
  match Header.object? text with
  | none => return none
  | some (name, rest) => do
    let position ← skipBlanks text (matchEnd text rest)
    let (parameters, position) ← parameterList text position
    let (base, position) ← baseType text position
    let behind ← sliceFrom text position
    match ← body .curly behind with
    | none => return none
    | some body =>
      return some ⟨name, .object {
        members := ← members body
        base := base.map Header.BaseType.name
        parameters := parameters
        baseArguments := (base.map Header.BaseType.arguments).getD [] }⟩

theorem object_eq (text : List Char) :
    object text = .ok ((DeclarationText.object? text).map DeclarationText.declaration) := by
  unfold object DeclarationText.object?
  cases found : Header.object? text with
  | none => rfl
  | some parts =>
    obtain ⟨name, rest⟩ := parts
    obtain ⟨first, skipped, there⟩ :=
      exists_skipBlanks (goesOn_matchEnd (Header.suffix_of_object? found))
    obtain ⟨second, listed, further⟩ := exists_parameterList there
    obtain ⟨third, based, last⟩ := exists_baseType further
    dsimp only
    rw [skipped, ok_bind, listed, ok_bind]
    dsimp only
    rw [based, ok_bind]
    dsimp only
    rw [sliceFrom_eq_ok_iff.mpr last, ok_bind, body_eq rfl, ok_bind, Option.bind_some]
    dsimp only
    cases Bracket.curly.body? _ with
    | none => rfl
    | some body =>
      dsimp only
      rw [members_eq, ok_bind]
      rfl

/-! ### Source texts -/

/-- The declaration behind a marker that leaves the given rest of a text. -/
def declarationBehind (text rest : List Char) : Except Fault (Option Declaration) := do
  let behind ← sliceFrom text (matchEnd text rest)
  match ← enumeration behind with
  | some declaration => return some declaration
  | none => object behind

/-- The marked declarations of a source text, in order. -/
def declarations (marker source : List Char) : Except Fault (List Declaration) := do
  let cleaned ← strip source
  let found ← (Marker.occurrences marker cleaned).mapM fun occurrence =>
    declarationBehind cleaned occurrence.rest
  return found.filterMap id

theorem declarationBehind_eq (isEnd : rest <:+ text) :
    declarationBehind text rest =
      .ok ((DeclarationText.of? rest).map DeclarationText.declaration) := by
  rw [declarationBehind, sliceFrom_eq_ok_iff.mpr (goesOn_matchEnd isEnd), ok_bind, enumeration_eq,
    ok_bind, DeclarationText.of?]
  cases DeclarationText.enumeration? rest with
  | some declaration => rfl
  | none => exact object_eq rest

/-- Every source text is read, to the declarations that are marked in it. -/
theorem declarations_eq (marker source : List Char) :
    declarations marker source = .ok (Source.declarations marker source) := by
  have each : ∀ occurrence ∈ Marker.occurrences marker (Comment.strip source),
      declarationBehind (Comment.strip source) occurrence.rest =
        .ok ((DeclarationText.of? occurrence.rest).map DeclarationText.declaration) :=
    fun occurrence member => declarationBehind_eq (Marker.suffix_of_mem_occurrencesFrom member)
  rw [declarations, strip_eq, ok_bind, mapM_eq_ok each, ok_bind, List.filterMap_map]
  rfl

end SharpTypes.Checked

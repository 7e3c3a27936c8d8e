/-
Resolving type expressions by offsets. The name of a generic application is what stands before the
first angle bracket, and its arguments are cut out between that bracket and the one that closes it;
what is inside is resolved in the same way. No slice goes wrong on any text.
-/

import Mathlib.Tactic.Common
import SharpTypes.Proofs.Checked.Bracket
import SharpTypes.Proofs.Source.TypeMeaning

namespace SharpTypes.Checked

open Text Source

/-! ### One layer -/

/-- The name and the argument list of a generic application. -/
def genericText (text : List Char) : Except Fault (Option GenericText) :=
  match offsetOf? '<' text with
  | none => return none
  | some start => do
    let name ← sliceTo text start
    let found ← enclosed .angle text start
    return some ⟨trim name, found.map Prod.fst⟩

theorem genericText_eq (text : List Char) : genericText text = .ok (GenericText.of? text) := by
  unfold genericText GenericText.of?
  rcases offsetOf?_cases '<' text with ⟨absent, all⟩ | ⟨start, behind, found, reached, here⟩
  · rw [absent, all]
    rfl
  · have cut : beforeFirst '<' text ++ '<' :: behind = text := by
      rw [← reached]
      exact List.takeWhile_append_dropWhile
    have name : sliceTo text start = .ok (beforeFirst '<' text) := by
      rw [← cut] at here
      have named := sliceTo_eq_ok here
      rwa [cut] at named
    rw [found, reached]
    dsimp only
    rw [name, ok_bind]
    rcases enclosed_eq (show Bracket.angle.opening.utf8Size = 1 from rfl) here with
      ⟨unmatched, unclosed⟩ | ⟨interior, after, stop, matched, closed, _⟩
    · rw [unclosed, unmatched, ok_bind]
      rfl
    · rw [closed, matched, ok_bind]
      rfl

/-- The arguments between brackets; none if the brackets do not close. -/
def typeArguments (interior : Option (List Char)) : Except Fault (List (List Char)) :=
  match interior with
  | some text => split .angle ',' text
  | none => return []

theorem typeArguments_eq (interior : Option (List Char)) :
    typeArguments interior = .ok ((interior.map Source.typeArguments).getD []) := by
  cases interior with
  | none => rfl
  | some text => exact split_eq .angle ',' text

/-- The layer of a generic application. -/
def shapeOfGeneric (generic : GenericText) : Except Fault TypeShape :=
  let name := lastSegment generic.name
  if dictionaryNames.contains name then do
    return .dictionary (← typeArguments generic.interior)
  else if collectionNames.contains name then do
    return .collection (← typeArguments generic.interior)
  else if name = "Nullable".toList then
    match generic.interior with
    | some inner => return .nullable inner
    | none => return .generic name []
  else do
    let arguments ← typeArguments generic.interior
    return .generic name (arguments.filter fun argument => !argument.isEmpty)

theorem shapeOfGeneric_eq (generic : GenericText) :
    shapeOfGeneric generic = .ok (TypeShape.ofGeneric generic) := by
  unfold shapeOfGeneric TypeShape.ofGeneric
  dsimp only
  rw [typeArguments_eq]
  split
  · rfl
  · split
    · rfl
    · split
      · cases generic.interior <;> rfl
      · rfl

/-- The outermost layer of a bare type expression. -/
def shape (text : List Char) : Except Fault TypeShape :=
  match dropEnd? "[]".toList text with
  | some element => return .array element
  | none => do
    match ← genericText text with
    | some application => shapeOfGeneric application
    | none => return .plain (lastSegment text)

theorem shape_eq (text : List Char) : shape text = .ok (TypeShape.of text) := by
  unfold shape TypeShape.of
  cases dropEnd? "[]".toList text with
  | some element => rfl
  | none =>
    dsimp only
    rw [genericText_eq, ok_bind]
    cases GenericText.of? text with
    | some application => exact shapeOfGeneric_eq application
    | none => rfl

/-! ### Whole types -/

/-- What a type expression comes to. -/
def resolve (text : List Char) : Except Fault Resolved :=
  match _shape : shape (bareType text) with
  | .error fault => .error fault
  | .ok (.array element) => do return ⟨(← resolve element).type, true⟩
  | .ok (.dictionary [key, value]) =>
    if key.isEmpty || value.isEmpty then return anyRecord
    else do
      let keys := mapKeyOf (← resolve key)
      return (TargetType.record keys (← resolve value)).single
  | .ok (.dictionary _) => return anyRecord
  | .ok (.collection [element]) =>
    if element.isEmpty then return anyArray
    else do return ⟨(← resolve element).type, true⟩
  | .ok (.collection _) => return anyArray
  | .ok (.nullable inner) => resolve inner
  | .ok (.generic name arguments) => do
    let resolved ← arguments.attach.mapM fun ⟨argument, _⟩ => resolve argument
    return (TargetType.reference name resolved).single
  | .ok (.plain name) => return (namedType name).single
termination_by text.length
decreasing_by
  all_goals
    rw [shape_eq] at _shape
    exact TypeShape.length_lt_of_mem_inner (by simp_all [TypeShape.inner])

/-- What a layer comes to, if it is known what the texts inside it come to. -/
def combine (inside : List Char → Except Fault Resolved) : TypeShape → Except Fault Resolved
  | .array element => do return ⟨(← inside element).type, true⟩
  | .dictionary [key, value] =>
    if key.isEmpty || value.isEmpty then return anyRecord
    else do
      let keys := mapKeyOf (← inside key)
      return (TargetType.record keys (← inside value)).single
  | .dictionary _ => return anyRecord
  | .collection [element] =>
    if element.isEmpty then return anyArray
    else do return ⟨(← inside element).type, true⟩
  | .collection _ => return anyArray
  | .nullable inner => inside inner
  | .generic name arguments => do
    return (TargetType.reference name (← arguments.mapM inside)).single
  | .plain name => return (namedType name).single

/-- Where the texts inside a layer are resolved, so is the layer. -/
theorem combine_eq {inside : List Char → Except Fault Resolved} {plain : List Char → Resolved} :
    (layer : TypeShape) → (∀ piece ∈ layer.inner, inside piece = .ok (plain piece)) →
      combine inside layer = .ok (layer.combine plain)
  | .array element, each => by
    rw [combine, each element (List.mem_singleton_self _), ok_bind]
    rfl
  | .dictionary [key, value], each => by
    have isKey : inside key = .ok (plain key) := each key List.mem_cons_self
    have isValue : inside value = .ok (plain value) :=
      each value (List.mem_cons_of_mem _ (List.mem_singleton_self _))
    rw [combine, TypeShape.combine]
    split
    · rfl
    · rw [isKey, ok_bind]
      dsimp only
      rw [isValue, ok_bind]
      rfl
  | .dictionary [], _ => rfl
  | .dictionary [_], _ => rfl
  | .dictionary (_ :: _ :: _ :: _), _ => rfl
  | .collection [element], each => by
    rw [combine, TypeShape.combine]
    split
    · rfl
    · rw [each element (List.mem_singleton_self _), ok_bind]
      rfl
  | .collection [], _ => rfl
  | .collection (_ :: _ :: _), _ => rfl
  | .nullable inner, each => each inner (List.mem_singleton_self _)
  | .generic name arguments, each => by
    have all : arguments.mapM inside = .ok (arguments.map plain) := mapM_eq_ok each
    rw [combine, all, ok_bind]
    rfl
  | .plain _, _ => rfl

theorem resolve_eq_combine (text : List Char) :
    resolve text = shape (bareType text) >>= combine resolve := by
  rw [resolve]
  split
  case h_1 fault wrong =>
    rw [wrong]
    rfl
  all_goals simp_all [combine, ok_bind]

/-- Every type expression is resolved, to what it comes to. -/
theorem resolve_eq (text : List Char) : resolve text = .ok (Source.resolve text) := by
  rw [resolve_eq_combine, shape_eq, ok_bind, Source.resolve_eq]
  exact combine_eq _ fun piece isPiece => resolve_eq piece
termination_by text.length
decreasing_by exact TypeShape.length_lt_of_mem_inner isPiece

/-! ### Members -/

/-- Takes off one nullable mark. -/
def memberType (text : List Char) : Except Fault MemberType :=
  match dropEnd? ['?'] (trim text) with
  | some inner => return ⟨trimEnd inner, true⟩
  | none => do
    match ← genericText (trim text) with
    | some ⟨name, some inner⟩ =>
      if name = "Nullable".toList ∨ name = "System.Nullable".toList then return ⟨trim inner, true⟩
      else return ⟨trim text, false⟩
    | _ => return ⟨trim text, false⟩

theorem memberType_eq (text : List Char) : memberType text = .ok (MemberType.of text) := by
  unfold memberType MemberType.of
  cases dropEnd? ['?'] (trim text) with
  | some inner => rfl
  | none =>
    dsimp only
    rw [genericText_eq, ok_bind]
    rcases GenericText.of? (trim text) with _ | ⟨name, _ | inner⟩
    · rfl
    · rfl
    · dsimp only
      split <;> rfl

/-- A property with a name and a written type. -/
def resolveMember (name type : List Char) : Except Fault Member := do
  let bare ← memberType type
  let resolved ← resolve bare.text
  return ⟨name, resolved.type, resolved.isArray, bare.isNullable⟩

theorem resolveMember_eq (name type : List Char) :
    resolveMember name type = .ok (Source.resolveMember name type) := by
  rw [resolveMember, memberType_eq, ok_bind, resolve_eq, ok_bind]
  rfl

end SharpTypes.Checked

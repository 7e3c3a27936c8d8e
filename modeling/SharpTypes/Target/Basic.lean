/-
The types that generated declarations are written in: a few primitives, references to other
declarations with their arguments, and records that map keys to values. Whether something is an
array is a flag beside its type, so an array of arrays is not told from an array.
-/

namespace SharpTypes

/-- The primitive types. -/
inductive Primitive where
  | string
  | number
  | boolean
  | any
  | blob
  deriving DecidableEq, Repr

/-- What may stand in the key position of a record. -/
inductive MapKey where
  | string
  | number
  deriving DecidableEq, Repr

/-- Something with a mark that says whether an array of it is meant. -/
structure Arrayed (α : Type) where
  type : α
  isArray : Bool
  deriving DecidableEq, Repr

/-- A type without its own array mark; what stands inside it carries marks. -/
inductive TargetType where
  /-- A primitive. -/
  | primitive (kind : Primitive)
  /-- Another declaration, by name, applied to its arguments. -/
  | reference (name : List Char) (arguments : List (Arrayed TargetType))
  /-- A dictionary. -/
  | record (key : MapKey) (value : Arrayed TargetType)
  deriving Repr

/-- What a type expression comes to: a type and its array mark. -/
abbrev Resolved := Arrayed TargetType

/-- The type itself, not an array of it. -/
def TargetType.single (type : TargetType) : Resolved :=
  ⟨type, false⟩

/-- A property of a class, with the type it is given. -/
structure Member where
  name : List Char
  type : TargetType
  isArray : Bool
  isNullable : Bool
  deriving Repr

namespace TargetType

/-! ### Equality -/

mutual

/-- Decides whether two types are the same. -/
def decideEq : (left right : TargetType) → Decidable (left = right)
  | .primitive left, .primitive right =>
    if same : left = right then isTrue (by rw [same]) else isFalse (by simpa using same)
  | .reference left arguments, .reference right others =>
    if same : left = right then
      match decideEqAll arguments others with
      | isTrue equal => isTrue (by rw [same, equal])
      | isFalse different => isFalse (by simp [different])
    else isFalse (by simp [same])
  | .record left value, .record right other =>
    if same : left = right then
      match decideEqArrayed value other with
      | isTrue equal => isTrue (by rw [same, equal])
      | isFalse different => isFalse (by simp [different])
    else isFalse (by simp [same])
  | .primitive _, .reference _ _ => isFalse (by simp)
  | .primitive _, .record _ _ => isFalse (by simp)
  | .reference _ _, .primitive _ => isFalse (by simp)
  | .reference _ _, .record _ _ => isFalse (by simp)
  | .record _ _, .primitive _ => isFalse (by simp)
  | .record _ _, .reference _ _ => isFalse (by simp)

/-- Decides whether two types with their marks are the same. -/
def decideEqArrayed : (left right : Resolved) → Decidable (left = right)
  | ⟨left, mark⟩, ⟨right, other⟩ =>
    match decideEq left right with
    | isTrue equal =>
      if same : mark = other then isTrue (by rw [equal, same]) else isFalse (by simp [same])
    | isFalse different => isFalse (by simp [different])

/-- Decides whether two lists of arguments are the same. -/
def decideEqAll : (left right : List Resolved) → Decidable (left = right)
  | [], [] => isTrue rfl
  | [], _ :: _ => isFalse (by simp)
  | _ :: _, [] => isFalse (by simp)
  | left :: lefts, right :: rights =>
    match decideEqArrayed left right, decideEqAll lefts rights with
    | isTrue equal, isTrue equals => isTrue (by rw [equal, equals])
    | isFalse different, _ => isFalse (by simp [different])
    | _, isFalse different => isFalse (by simp [different])

end

instance : DecidableEq TargetType := decideEq

instance : DecidableEq Member := fun left right =>
  match left, right with
  | ⟨name, type, isArray, isNullable⟩, ⟨name', type', isArray', isNullable'⟩ =>
    if same : name = name' ∧ type = type' ∧ isArray = isArray' ∧ isNullable = isNullable' then
      isTrue (by obtain ⟨rfl, rfl, rfl, rfl⟩ := same; rfl)
    else isFalse (by simpa using same)

/-! ### References -/

mutual

/-- The names of the declarations that a type refers to, in the order they are written. The keys of
records are primitives and refer to nothing. -/
def references : TargetType → List (List Char)
  | .primitive _ => []
  | .reference name arguments => name :: referencesOfAll arguments
  | .record _ value => referencesOf value

/-- The names that a type with its mark refers to. -/
def referencesOf : Resolved → List (List Char)
  | ⟨type, _⟩ => references type

/-- The names that a list of arguments refers to. -/
def referencesOfAll : List Resolved → List (List Char)
  | [] => []
  | argument :: rest => referencesOf argument ++ referencesOfAll rest

end

/-- Whether the type is a primitive. -/
def isPrimitive : TargetType → Bool
  | .primitive _ => true
  | _ => false

end TargetType

end SharpTypes

/-
Properties in the body of a class. A property counts if it is public and both of its accessors are
plain: `public Type Name { get; set; }`, with modifiers before and after `public`. Properties are
found from left to right and do not overlap; nothing is read of what stands between them.

The type is the shortest text after the modifiers that leaves a name and the accessors behind it. A
word after `public` is taken for a modifier where a property remains, and for the type otherwise.
-/

import SharpTypes.Source.Header
import SharpTypes.Source.Resolution

namespace SharpTypes.Source.Property

open Text

/-- The words that modify a property. -/
def modifiers : List (List Char) :=
  ["virtual", "override", "new", "required", "static", "abstract", "sealed", "unsafe", "extern",
    "partial", "readonly"].map String.toList

/-- A property as it is written. -/
structure Written where
  modifiers : List (List Char)
  type : List Char
  name : List Char
  deriving DecidableEq, Repr

/-! ### Name and accessors -/

/-- What follows a fixed text and the blanks after it. -/
def afterToken? (token text : List Char) : Option (List Char) :=
  (dropStart? token text).map trimStart

/-- What follows the accessors `{ get; set; }`. -/
def afterAccessors? (text : List Char) : Option (List Char) :=
  (((afterToken? ['{'] text).bind (afterToken? "get;".toList)).bind
    (afterToken? "set;".toList)).bind (dropStart? ['}'])

/-- The name behind at least one blank and before the accessors, and what follows them. -/
def nameAndAccessors? : List Char → Option (List Char × List Char)
  | [] => none
  | c :: rest =>
    if isBlank c then
      (word? (trimStart rest)).bind fun found =>
        (afterAccessors? (trimStart found.2)).map fun after => (found.1, after)
    else none

/-! ### Type -/

/-- Whether the character may stand in the type of a property. -/
def isTypeCharacter (c : Char) : Bool :=
  isWord c || isBlank c || c == '.' || c == '<' || c == '>' || c == '[' || c == ']' || c == '?' ||
    c == ','

/-- The shortest type with a name and accessors behind it, that name, and what follows. -/
def typeAndName? : List Char → Option (List Char × List Char × List Char)
  | [] => none
  | c :: rest =>
    if isTypeCharacter c then
      match nameAndAccessors? rest with
      | some (name, after) => some ([c], name, after)
      | none => (typeAndName? rest).map fun found => (c :: found.1, found.2)
    else none

/-! ### Modifiers -/

/-- A place where the type may start, with the modifiers before it. -/
structure Start where
  modifiers : List (List Char)
  text : List Char
  deriving DecidableEq, Repr

/-- The modifier that the text starts with, and what follows it. -/
def modifier? (text : List Char) : Option (List Char × List Char) :=
  modifiers.findSome? fun modifier => (dropStart? modifier text).map fun rest => (modifier, rest)

theorem modifiers_ne_nil {modifier : List Char} (member : modifier ∈ modifiers) :
    modifier ≠ [] := by
  revert modifier
  decide

theorem length_modifier?_lt {text modifier rest : List Char}
    (found : modifier? text = some (modifier, rest)) : rest.length < text.length := by
  obtain ⟨candidate, member, holds⟩ := List.exists_of_findSome?_eq_some found
  obtain ⟨later, given, same⟩ := Option.map_eq_some_iff.1 holds
  obtain ⟨rfl, rfl⟩ := Prod.mk.inj same
  have sizes := congrArg List.length (dropStart?_eq_some_iff.1 given)
  have positive := List.length_pos_iff.2 (modifiers_ne_nil member)
  simp only [List.length_append] at sizes
  omega

/-- The places where the type may start in a text that follows a word, the preferred one first: as
many modifiers as there are and all blanks after them, then ever fewer blanks and ever fewer
modifiers. At least one blank separates the type from the word before it. -/
def starts (passed : List (List Char)) (text : List Char) : List Start :=
  let after := trimStart text
  let blanks := text.length - after.length
  if blanks = 0 then []
  else
    (match _found : modifier? after with
      | some (modifier, rest) => starts (passed ++ [modifier]) rest
      | none => []) ++
      (List.range blanks).reverse.map fun fewer => ⟨passed, text.drop (fewer + 1)⟩
termination_by text.length
decreasing_by
  have shorter := length_modifier?_lt (by assumption)
  have trimmed := length_trimStart_le text
  exact Nat.lt_of_lt_of_le shorter trimmed

/-- The modifiers and the keyword `public` that the text starts with, and what follows. -/
def untilPublic? (passed : List (List Char)) (text : List Char) :
    Option (List (List Char) × List Char) :=
  match _found : modifiers.findSome? fun modifier =>
      (afterKeyword? modifier text).map fun rest => (modifier, rest) with
  | some (modifier, rest) => untilPublic? (passed ++ [modifier]) rest
  | none => (dropStart? "public".toList text).map fun rest => (passed, rest)
termination_by text.length
decreasing_by
  obtain ⟨_, _, holds⟩ := List.exists_of_findSome?_eq_some (by assumption)
  obtain ⟨_, given, same⟩ := Option.map_eq_some_iff.1 holds
  obtain ⟨_, rfl⟩ := Prod.mk.inj same
  exact length_afterKeyword?_lt given

/-! ### Properties -/

/-- The property that the text starts with, and what follows it. -/
def property? (text : List Char) : Option (Written × List Char) :=
  (untilPublic? [] text).bind fun (before, rest) =>
    (starts [] rest).findSome? fun start =>
      (typeAndName? start.text).map fun (type, name, after) =>
        (⟨before ++ start.modifiers, type, name⟩, after)

/-! ### What follows is shorter -/

theorem length_afterToken?_le {token text rest : List Char}
    (found : afterToken? token text = some rest) : rest.length ≤ text.length := by
  obtain ⟨later, given, rfl⟩ := Option.map_eq_some_iff.1 found
  have sizes := congrArg List.length (dropStart?_eq_some_iff.1 given)
  have trimmed := length_trimStart_le later
  simp only [List.length_append] at sizes
  omega

theorem length_afterAccessors?_le {text rest : List Char}
    (found : afterAccessors? text = some rest) : rest.length ≤ text.length := by
  obtain ⟨third, found, closed⟩ := Option.bind_eq_some_iff.1 found
  obtain ⟨second, found, settable⟩ := Option.bind_eq_some_iff.1 found
  obtain ⟨first, opened, gettable⟩ := Option.bind_eq_some_iff.1 found
  have sizes := congrArg List.length (dropStart?_eq_some_iff.1 closed)
  have := length_afterToken?_le opened
  have := length_afterToken?_le gettable
  have := length_afterToken?_le settable
  simp only [List.length_append] at sizes
  omega

theorem length_word?_le {text word rest : List Char} (found : word? text = some (word, rest)) :
    rest.length ≤ text.length := by
  unfold word? at found
  split at found
  · simp at found
  · obtain ⟨_, rfl⟩ := Prod.mk.inj (Option.some.inj found)
    exact (List.dropWhile_sublist _).length_le

theorem length_nameAndAccessors?_lt {text name rest : List Char}
    (found : nameAndAccessors? text = some (name, rest)) : rest.length < text.length := by
  cases text with
  | nil => simp [nameAndAccessors?] at found
  | cons c later =>
    rw [nameAndAccessors?] at found
    split at found
    · obtain ⟨⟨word, behind⟩, named, found⟩ := Option.bind_eq_some_iff.1 found
      obtain ⟨after, closed, same⟩ := Option.map_eq_some_iff.1 found
      obtain ⟨_, rfl⟩ := Prod.mk.inj same
      have := length_word?_le named
      have := length_afterAccessors?_le closed
      have := length_trimStart_le later
      have := length_trimStart_le behind
      simp only [List.length_cons] at *
      omega
    · simp at found

theorem length_typeAndName?_lt {text type name rest : List Char}
    (found : typeAndName? text = some (type, name, rest)) : rest.length < text.length := by
  induction text generalizing type with
  | nil => simp [typeAndName?] at found
  | cons c later inductionHypothesis =>
    rw [typeAndName?] at found
    split at found
    · split at found
      · next given =>
        have same := Prod.mk.inj (Prod.mk.inj (Option.some.inj found)).2
        have shorter := length_nameAndAccessors?_lt given
        rw [same.2] at shorter
        exact Nat.lt_succ_of_lt shorter
      · obtain ⟨⟨type', name', rest'⟩, given, same⟩ := Option.map_eq_some_iff.1 found
        obtain ⟨rfl, rfl⟩ := Prod.mk.inj (Prod.mk.inj same).2
        exact Nat.lt_succ_of_lt (inductionHypothesis given)
    · simp at found

theorem length_le_of_mem_starts {passed : List (List Char)} {text : List Char} {start : Start}
    (member : start ∈ starts passed text) : start.text.length ≤ text.length := by
  fun_induction starts passed text with
  | case1 => simp at member
  | case2 passed text after blanks positive inductionHypothesis =>
    rcases List.mem_append.1 member with deeper | here
    · split at deeper
      · next modifier rest found =>
        have trimmed := length_trimStart_le text
        have shorter := length_modifier?_lt found
        have := inductionHypothesis modifier rest found deeper
        omega
      · simp at deeper
    · obtain ⟨fewer, _, rfl⟩ := List.mem_map.1 here
      simp

theorem length_untilPublic?_le {passed before : List (List Char)} {text rest : List Char}
    (found : untilPublic? passed text = some (before, rest)) : rest.length ≤ text.length := by
  fun_induction untilPublic? passed text with
  | case1 passed text modifier later given inductionHypothesis =>
    obtain ⟨_, _, holds⟩ := List.exists_of_findSome?_eq_some given
    obtain ⟨_, shorter, same⟩ := Option.map_eq_some_iff.1 holds
    obtain ⟨_, rfl⟩ := Prod.mk.inj same
    have := length_afterKeyword?_lt shorter
    have := inductionHypothesis found
    omega
  | case2 passed text _ =>
    obtain ⟨later, given, same⟩ := Option.map_eq_some_iff.1 found
    obtain ⟨_, rfl⟩ := Prod.mk.inj same
    have sizes := congrArg List.length (dropStart?_eq_some_iff.1 given)
    simp only [List.length_append] at sizes
    omega

theorem length_property?_lt {text rest : List Char} {written : Written}
    (found : property? text = some (written, rest)) : rest.length < text.length := by
  obtain ⟨⟨before, opened⟩, atPublic, found⟩ := Option.bind_eq_some_iff.1 found
  obtain ⟨start, member, holds⟩ := List.exists_of_findSome?_eq_some found
  obtain ⟨⟨type, name, after⟩, given, same⟩ := Option.map_eq_some_iff.1 holds
  obtain ⟨_, rfl⟩ := Prod.mk.inj same
  have := length_untilPublic?_le atPublic
  have := length_le_of_mem_starts member
  have := length_typeAndName?_lt given
  omega

/-! ### All properties -/

/-- The properties of a text, where `inWord` says whether a word character stands right before it. A
property does not start inside a word. -/
def propertiesFrom (inWord : Bool) (text : List Char) : List Written :=
  match text with
  | [] => []
  | c :: later =>
    match _found : if inWord then none else property? (c :: later) with
    | some (written, rest) => written :: propertiesFrom false rest
    | none => propertiesFrom (isWord c) later
termination_by text.length
decreasing_by
  · split at _found
    · simp at _found
    · exact length_property?_lt _found
  · simp

/-- The public properties with plain accessors in the body of a class, in order. -/
def properties (body : List Char) : List Written :=
  propertiesFrom false body

/-- Whether the property belongs to the type itself and not to its instances. -/
def Written.isStatic (written : Written) : Bool :=
  written.modifiers.contains "static".toList

/-- The members that the properties of a class body make: all but the static ones. -/
def members (body : List Char) : List Member :=
  ((properties body).filter fun written => !written.isStatic).map fun written =>
    resolveMember written.name written.type

end SharpTypes.Source.Property

/-
The grammar of type expressions, and how they are written. A type expression is a qualified name,
an array of another one, or a generic name applied to one or more arguments, and each but a nullable
one can be made nullable. Blanks may stand around every name, dot, angle bracket, comma, `[]` and
`?`. What is written balances its angle brackets, has no comma outside them, and ends as its
outermost layer ends.
-/

import Mathlib.Tactic.Common
import SharpTypes.Proofs.Source.Balance
import SharpTypes.Source.Resolution

namespace SharpTypes.Source

open Text

/-! ### Type expressions -/

/-- Whether a character may stand in a name: it is no blank and has no meaning of its own in type
expressions. -/
def isNameCharacter (c : Char) : Bool :=
  !isBlank c && !(['.', '<', '>', ',', '?', '[', ']'].contains c)

/-- A name without dots. -/
structure TypeName where
  text : List Char
  notEmpty : text ≠ []
  plain : ∀ c ∈ text, isNameCharacter c = true

/-- A name behind any number of namespaces. -/
structure QualifiedName where
  qualifiers : List TypeName
  last : TypeName

mutual

/-- A type expression. What is nullable is not made nullable again. -/
inductive TypeExpression where
  | bare (type : BareTypeExpression)
  | nullable (type : BareTypeExpression)

/-- A type expression without a nullable mark at its end. The wrapper `Nullable` has one argument,
every other generic name any number but none. -/
inductive BareTypeExpression where
  | name (name : QualifiedName)
  | array (element : TypeExpression)
  | wrapper (name : QualifiedName) (isWrapper : name.last.text = "Nullable".toList)
      (argument : TypeExpression)
  | generic (name : QualifiedName) (notWrapper : name.last.text ≠ "Nullable".toList)
      (arguments : TypeArguments)

/-- The arguments of a generic type, at least one. -/
inductive TypeArguments where
  | one (argument : TypeExpression)
  | more (argument : TypeExpression) (rest : TypeArguments)

end

/-! ### Their meaning -/

/-- What a generic name means when it is applied. A dictionary has numbers as keys only if these are
numbers themselves, no arrays of them. Dictionaries and collections with a wrong number of arguments
come to the loosest type of their kind. -/
def applied (name : List Char) (arguments : List Resolved) : Resolved :=
  if dictionaryNames.contains name then
    match arguments with
    | [key, value] =>
      ⟨.record (if key = ⟨.primitive .number, false⟩ then .number else .string) value, false⟩
    | _ => ⟨.record .string ⟨.primitive .any, false⟩, false⟩
  else if collectionNames.contains name then
    match arguments with
    | [element] => ⟨element.type, true⟩
    | _ => ⟨.primitive .any, true⟩
  else ⟨.reference name arguments, false⟩

mutual

/-- What a type expression means. -/
def TypeExpression.meaning : TypeExpression → Resolved
  | .bare type => type.meaning
  | .nullable type => type.meaning

/-- What a type expression without a nullable mark means. -/
def BareTypeExpression.meaning : BareTypeExpression → Resolved
  | .name name =>
    match Primitive.ofName? name.last.text with
    | some primitive => ⟨.primitive primitive, false⟩
    | none => ⟨.reference name.last.text [], false⟩
  | .array element => ⟨element.meaning.type, true⟩
  | .wrapper _ _ argument => argument.meaning
  | .generic name _ arguments => applied name.last.text arguments.meanings

/-- What the arguments of a generic type mean, one by one. -/
def TypeArguments.meanings : TypeArguments → List Resolved
  | .one argument => [argument.meaning]
  | .more argument rest => argument.meaning :: rest.meanings

end

/-! ### Their written forms -/

/-- The text is a way to write the qualified name. -/
inductive QualifiedName.Written : QualifiedName → List Char → Prop where
  | last {last : TypeName} {before after : List Char} (blankBefore : Blank before)
      (blankAfter : Blank after) : Written ⟨[], last⟩ (before ++ last.text ++ after)
  | qualified {qualifier last : TypeName} {qualifiers : List TypeName}
      {before after rest : List Char} (blankBefore : Blank before) (blankAfter : Blank after)
      (written : Written ⟨qualifiers, last⟩ rest) :
      Written ⟨qualifier :: qualifiers, last⟩ (before ++ qualifier.text ++ after ++ '.' :: rest)

mutual

/-- The text is a way to write the type expression. -/
inductive TypeExpression.Written : TypeExpression → List Char → Prop where
  | bare {type : BareTypeExpression} {text : List Char} (written : type.Written text) :
      TypeExpression.Written (.bare type) text
  | nullable {type : BareTypeExpression} {text after : List Char} (written : type.Written text)
      (blankAfter : Blank after) : TypeExpression.Written (.nullable type) (text ++ '?' :: after)

/-- The text is a way to write the type expression without a nullable mark. -/
inductive BareTypeExpression.Written : BareTypeExpression → List Char → Prop where
  | name {name : QualifiedName} {text : List Char} (written : name.Written text) :
      BareTypeExpression.Written (.name name) text
  | array {element : TypeExpression} {text after : List Char} (written : element.Written text)
      (blankAfter : Blank after) :
      BareTypeExpression.Written (.array element) (text ++ '[' :: ']' :: after)
  | wrapper {name : QualifiedName} {isWrapper : name.last.text = "Nullable".toList}
      {argument : TypeExpression} {front inner after : List Char} (writtenName : name.Written front)
      (written : argument.Written inner) (blankAfter : Blank after) :
      BareTypeExpression.Written (.wrapper name isWrapper argument)
        (front ++ '<' :: inner ++ '>' :: after)
  | generic {name : QualifiedName} {notWrapper : name.last.text ≠ "Nullable".toList}
      {arguments : TypeArguments} {texts : List (List Char)} {front after : List Char}
      (writtenName : name.Written front) (written : arguments.Written texts)
      (blankAfter : Blank after) :
      BareTypeExpression.Written (.generic name notWrapper arguments)
        (front ++ '<' :: join [','] texts ++ '>' :: after)

/-- The texts are ways to write the arguments, one by one. -/
inductive TypeArguments.Written : TypeArguments → List (List Char) → Prop where
  | one {argument : TypeExpression} {text : List Char} (written : argument.Written text) :
      TypeArguments.Written (.one argument) [text]
  | more {argument : TypeExpression} {rest : TypeArguments} {text : List Char}
      {texts : List (List Char)} (written : argument.Written text)
      (others : rest.Written texts) : TypeArguments.Written (.more argument rest) (text :: texts)

end

/-- A name with a text that it is written as. -/
structure NameText where
  name : QualifiedName
  text : List Char
  written : name.Written text

/-- A type expression with a text that it is written as. -/
structure TypeText where
  type : TypeExpression
  text : List Char
  written : type.Written text

/-! ### Names -/

theorem TypeName.inked (name : TypeName) : Inked name.text := by
  obtain ⟨c, member⟩ := List.exists_mem_of_ne_nil _ name.notEmpty
  have plain := name.plain c member
  rw [isNameCharacter, Bool.and_eq_true, Bool.not_eq_true'] at plain
  exact ⟨c, member, plain.1⟩

theorem TypeName.not_mem (name : TypeName) {c : Char} (special : isNameCharacter c = false) :
    c ∉ name.text := by
  intro member
  rw [name.plain c member] at special
  cases special

/-- Blanks do not count in a name. -/
theorem TypeName.trim_padded (name : TypeName) {before after : List Char}
    (blankBefore : Blank before) (blankAfter : Blank after) :
    trim (before ++ name.text ++ after) = name.text := by
  rw [trim_append_blank blankAfter, trim_blank_append blankBefore]
  refine trim_of_ends (fun c first => ?_) fun c last => ?_
  · have plain := name.plain c (List.mem_of_mem_head? first)
    rw [isNameCharacter, Bool.and_eq_true, Bool.not_eq_true'] at plain
    exact plain.1
  · have plain := name.plain c (List.mem_of_mem_getLast? last)
    rw [isNameCharacter, Bool.and_eq_true, Bool.not_eq_true'] at plain
    exact plain.1

namespace QualifiedName

/-- A written name holds no character with a meaning of its own but the dot. -/
theorem not_mem_of_written {name : QualifiedName} {text : List Char} (written : name.Written text)
    {c : Char} (isMark : c ∈ ['<', '>', ',', '?', '[', ']']) : c ∉ text := by
  have marks : ∀ mark ∈ ['<', '>', ',', '?', '[', ']'],
      isBlank mark = false ∧ isNameCharacter mark = false ∧ mark ≠ '.' := by
    decide
  obtain ⟨notBlank, special, notDot⟩ := marks c isMark
  induction written with
  | @last last before after blankBefore blankAfter =>
    simp only [List.mem_append, not_or]
    exact ⟨⟨not_mem_of_blank blankBefore notBlank, last.not_mem special⟩,
      not_mem_of_blank blankAfter notBlank⟩
  | @qualified qualifier _ _ before after rest blankBefore blankAfter _ inductionHypothesis =>
    simp only [List.mem_append, List.mem_cons, not_or]
    exact ⟨⟨⟨not_mem_of_blank blankBefore notBlank, qualifier.not_mem special⟩,
      not_mem_of_blank blankAfter notBlank⟩, notDot, inductionHypothesis⟩

theorem inked_of_written {name : QualifiedName} {text : List Char} (written : name.Written text) :
    Inked text := by
  induction written with
  | @last last before after _ _ => exact (last.inked.append_right before).append_left after
  | @qualified _ _ _ _ _ rest _ _ _ inductionHypothesis =>
    exact (Inked.append_right ['.'] inductionHypothesis).append_right _

/-- What stands behind the last dot is the last name. -/
theorem lastSegment_of_written {name : QualifiedName} {text : List Char}
    (written : name.Written text) : lastSegment text = name.last.text := by
  induction written with
  | @last last before after blankBefore blankAfter =>
    have dotFree : '.' ∉ before ++ last.text ++ after := by
      simp only [List.mem_append, not_or]
      exact ⟨⟨not_mem_of_blank blankBefore (by decide), last.not_mem (by decide)⟩,
        not_mem_of_blank blankAfter (by decide)⟩
    rw [lastSegment, afterLast_of_not_mem dotFree, last.trim_padded blankBefore blankAfter]
  | qualified _ _ _ inductionHypothesis =>
    rw [lastSegment, afterLast_append_cons]
    exact inductionHypothesis

/-- Blanks around a name do not count. -/
theorem lastSegment_trim (text : List Char) : lastSegment (trim text) = lastSegment text := by
  have dotFree {blank : List Char} (isBlanks : Blank blank) : '.' ∉ blank :=
    not_mem_of_blank isBlanks (by decide)
  obtain ⟨front, frontBlank, startSame⟩ := exists_blank_append_trimStart text
  obtain ⟨back, backBlank, endSame⟩ := exists_trimEnd_append_blank (trimStart text)
  have atEnd : lastSegment (trimStart text) = lastSegment (trim text) := by
    rw [lastSegment, endSame, afterLast_append_of_not_mem _ (dotFree backBlank),
      trim_append_blank backBlank]
    rfl
  rw [← atEnd, lastSegment, lastSegment]
  conv_rhs => rw [startSame]
  by_cases dotted : '.' ∈ trimStart text
  · obtain ⟨before, behind, split⟩ := List.append_of_mem dotted
    rw [split, ← List.append_assoc, afterLast_append_cons, afterLast_append_cons]
  · rw [afterLast_append_of_not_mem _ dotted, afterLast_of_not_mem (dotFree frontBlank),
      afterLast_of_not_mem dotted, trim_blank_append frontBlank]

end QualifiedName

end SharpTypes.Source

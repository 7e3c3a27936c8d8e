/-
How written types are read back. The written form of a type starts with a word, and what follows the
word tells where the type ends. So the written form determines the type and its array mark, as long
as no declaration that it refers to is called like a built-in type. Among the types of properties,
an array has its mark unless it is a record.
-/

import Mathlib.Tactic.Common
import SharpTypes.Proofs.Declaration.Sentence

namespace SharpTypes

open Text

theorem Primitive.render_injective : Function.Injective Primitive.render := by
  intro left right
  cases left <;> cases right <;> decide

namespace TargetType

/-! ### Names of declarations -/

/-- The words that stand for something built in. -/
def builtInWords : List (List Char) :=
  ["string".toList, "number".toList, "boolean".toList, "any".toList, "Blob".toList,
    "Record".toList]

/-- A word that stands for nothing built in. -/
structure IsOwnName (name : List Char) : Prop where
  isName : IsName name
  notBuiltIn : name ∉ builtInWords

/-- All names that the type refers to are words that stand for nothing built in. -/
def RefersApart (type : TargetType) : Prop :=
  ∀ name, type.Mentions name → IsOwnName name

instance (name : List Char) : Decidable (IsOwnName name) :=
  decidable_of_iff ((name ≠ [] ∧ ∀ c ∈ name, isIdentifierCharacter c = true) ∧
      name ∉ builtInWords)
    ⟨fun ⟨isName, notBuiltIn⟩ => ⟨isName, notBuiltIn⟩,
      fun isOwnName => ⟨isOwnName.isName, isOwnName.notBuiltIn⟩⟩

instance (type : TargetType) : Decidable type.RefersApart :=
  decidable_of_iff (∀ name ∈ type.references, IsOwnName name)
    (forall_congr' fun _ => imp_congr_left mem_references_iff)

theorem RefersApart.refersToNames {type : TargetType} (apart : type.RefersApart) :
    type.RefersToNames :=
  fun name mentions => (apart name mentions).isName

theorem RefersApart.argument {name : List Char} {arguments : List Resolved}
    (apart : (reference name arguments).RefersApart) :
    ∀ argument ∈ arguments, argument.type.RefersApart :=
  fun _ isArgument other mentions => apart other (.argument name isArgument mentions)

theorem RefersApart.value {key : MapKey} {value : Resolved}
    (apart : (record key value).RefersApart) : value.type.RefersApart :=
  fun other mentions => apart other (.value key mentions)

/-! ### The word at the start -/

/-- The word that the written form starts with. -/
def word : TargetType → List Char
  | .primitive kind => kind.render
  | .reference name _ => name
  | .record _ _ => "Record".toList

/-- The written form of arguments with their brackets; nothing if there are none. -/
def renderArguments : List Resolved → List Char
  | [] => []
  | first :: rest => '<' :: (renderArrayed first ++ (renderFurther rest ++ ['>']))

/-- What is written behind the word. -/
def behindWord : TargetType → List Char
  | .primitive _ => []
  | .reference _ arguments => renderArguments arguments
  | .record key value => '<' :: (key.render ++ (", ".toList ++ (renderArrayed value ++ ['>'])))

theorem render_eq_append (type : TargetType) : type.render = type.word ++ type.behindWord := by
  match type with
  | .primitive kind => exact (List.append_nil kind.render).symm
  | .reference name [] => exact (List.append_nil name).symm
  | .reference name (first :: rest) =>
    show name ++ '<' :: renderArrayed first ++ renderFurther rest ++ ['>'] =
      name ++ '<' :: (renderArrayed first ++ (renderFurther rest ++ ['>']))
    simp only [List.append_assoc, List.cons_append]
  | .record key value =>
    have opening : "Record<".toList = "Record".toList ++ ['<'] := by decide
    show "Record<".toList ++ key.render ++ ", ".toList ++ renderArrayed value ++ ['>'] =
      "Record".toList ++ '<' :: (key.render ++ (", ".toList ++ (renderArrayed value ++ ['>'])))
    rw [opening]
    simp only [List.append_assoc, List.cons_append, List.nil_append]

theorem isWordText_word {type : TargetType} (named : type.RefersToNames) :
    IsWordText type.word := by
  cases type with
  | primitive kind => cases kind <;> decide
  | reference name arguments =>
    exact fun c member =>
      isWord_of_isIdentifierCharacter ((named name (.here arguments)).2 c member)
  | record key value => exact (by decide : IsWordText "Record".toList)

/-- What is written behind the word is closed by an angle bracket. -/
theorem behindWord_eq_nil_or (type : TargetType) :
    type.behindWord = [] ∨ ∃ inside, type.behindWord = inside ++ ['>'] := by
  match type with
  | .primitive _ => exact .inl rfl
  | .reference _ [] => exact .inl rfl
  | .reference _ (first :: rest) =>
    refine .inr ⟨'<' :: (renderArrayed first ++ renderFurther rest), ?_⟩
    rw [List.cons_append, List.append_assoc]
    rfl
  | .record key value =>
    refine .inr ⟨'<' :: (key.render ++ (", ".toList ++ renderArrayed value)), ?_⟩
    rw [List.cons_append, List.append_assoc, List.append_assoc]
    rfl

theorem render_primitive_mem_builtInWords (kind : Primitive) : kind.render ∈ builtInWords := by
  cases kind <;> decide

theorem render_primitive_ne_record (kind : Primitive) : kind.render ≠ "Record".toList := by
  cases kind <;> decide

theorem eq_primitive_of_word {type : TargetType} (apart : type.RefersApart) {kind : Primitive}
    (same : type.word = kind.render) : type = .primitive kind := by
  match type with
  | .primitive other => rw [Primitive.render_injective same]
  | .reference name arguments =>
    have builtIn : name ∈ builtInWords := by
      rw [show name = kind.render from same]
      exact render_primitive_mem_builtInWords kind
    exact absurd builtIn (apart name (.here arguments)).notBuiltIn
  | .record _ _ => exact absurd same.symm (render_primitive_ne_record kind)

theorem exists_reference_of_word {type : TargetType} {name : List Char}
    (isOwnName : IsOwnName name) (same : type.word = name) :
    ∃ arguments, type = .reference name arguments := by
  match type with
  | .primitive kind =>
    exact absurd (same ▸ render_primitive_mem_builtInWords kind) isOwnName.notBuiltIn
  | .reference other arguments => exact ⟨arguments, by rw [show other = name from same]⟩
  | .record _ _ =>
    have builtIn : "Record".toList ∈ builtInWords := by decide
    exact absurd (same ▸ builtIn) isOwnName.notBuiltIn

theorem exists_record_of_word {type : TargetType} (apart : type.RefersApart)
    (same : type.word = "Record".toList) : ∃ key value, type = .record key value := by
  match type with
  | .primitive kind => exact absurd same (render_primitive_ne_record kind)
  | .reference name arguments =>
    have builtIn : name ∈ builtInWords := by
      rw [show name = "Record".toList from same]
      decide
    exact absurd builtIn (apart name (.here arguments)).notBuiltIn
  | .record key value => exact ⟨key, value, rfl⟩

/-! ### Where a type ends -/

/-- The text goes on with one of the given marks, or not at all. -/
def GoesOnWith (marks text : List Char) : Prop :=
  ∀ c ∈ text.head?, c ∈ marks

/-- What may follow a type: the mark of an array, or what may follow an argument. -/
abbrev EndsType : List Char → Prop :=
  GoesOnWith ['[', ',', '>']

/-- What may follow an argument: the next one, or the end of the arguments. -/
abbrev EndsArgument : List Char → Prop :=
  GoesOnWith [',', '>']

theorem goesOnWith_cons {marks : List Char} {c : Char} (mark : c ∈ marks) (text : List Char) :
    GoesOnWith marks (c :: text) := by
  intro other first
  obtain rfl : c = other := Option.some.inj first
  exact mark

theorem EndsArgument.endsType {text : List Char} (ends : EndsArgument text) : EndsType text :=
  fun c first => List.mem_cons_of_mem _ (ends c first)

theorem endsArgument_renderFurther (rest : List Resolved) (behind : List Char) :
    EndsArgument (renderFurther rest ++ '>' :: behind) := by
  cases rest with
  | nil => exact goesOnWith_cons (by decide) _
  | cons argument others => exact goesOnWith_cons (c := ',') (by decide) _

variable {left right : TargetType} {behind others : List Char}

theorem stops_behindWord_append (type : TargetType) (ends : EndsType behind) :
    Stops isWord (type.behindWord ++ behind) := by
  have atEnd : Stops isWord behind := by
    have marks : ∀ mark ∈ ['[', ',', '>'], isWord mark = false := by decide
    exact fun c first => marks c (ends c first)
  match type with
  | .primitive _ => exact atEnd
  | .reference _ [] => exact atEnd
  | .reference _ (_ :: _) => exact stops_cons (by decide) _
  | .record _ _ => exact stops_cons (by decide) _

/-- Written forms that are the same up to where they end start with the same word. -/
theorem word_eq_and_behindWord_eq (leftApart : left.RefersApart) (rightApart : right.RefersApart)
    (ends : EndsType behind) (endsToo : EndsType others)
    (same : left.render ++ behind = right.render ++ others) :
    left.word = right.word ∧ left.behindWord ++ behind = right.behindWord ++ others := by
  rw [render_eq_append left, render_eq_append right, List.append_assoc, List.append_assoc] at same
  have words : left.word = right.word :=
    word_eq_of_append_eq (isWordText_word leftApart.refersToNames)
      (isWordText_word rightApart.refersToNames) (stops_behindWord_append left ends)
      (stops_behindWord_append right endsToo) same
  rw [words] at same
  exact ⟨words, List.append_cancel_left same⟩

theorem key_eq_and_eq {key other : MapKey}
    (same : key.render ++ (", ".toList ++ behind) = other.render ++ (", ".toList ++ others)) :
    key = other ∧ behind = others := by
  cases key <;> cases other
  · exact ⟨rfl, List.append_cancel_left (List.append_cancel_left same)⟩
  · exact absurd (List.cons.inj same).1 (by decide)
  · exact absurd (List.cons.inj same).1 (by decide)
  · exact ⟨rfl, List.append_cancel_left (List.append_cancel_left same)⟩

theorem renderArrayed_append (type : TargetType) (isArray : Bool) (behind : List Char) :
    renderArrayed ⟨type, isArray⟩ ++ behind =
      type.render ++ ((if isArray then "[]".toList else []) ++ behind) := by
  cases isArray with
  | false => rfl
  | true => exact List.append_assoc ..

/-- The mark of an array ends its type, as does what follows it. -/
theorem endsType_mark (isArray : Bool) (ends : EndsArgument behind) :
    EndsType ((if isArray then "[]".toList else []) ++ behind) := by
  cases isArray with
  | false => exact EndsArgument.endsType ends
  | true => exact goesOnWith_cons (c := '[') (by decide) _

theorem isArray_eq_and_eq {isArray isArrayToo : Bool} (ends : EndsArgument behind)
    (endsToo : EndsArgument others)
    (same : (if isArray then "[]".toList else []) ++ behind =
      (if isArrayToo then "[]".toList else []) ++ others) :
    isArray = isArrayToo ∧ behind = others := by
  have bracket (text : List Char) : ¬ EndsArgument ("[]".toList ++ text) :=
    fun goesOn => absurd (goesOn '[' rfl) (by decide)
  cases isArray <;> cases isArrayToo
  · exact ⟨rfl, same⟩
  · exact absurd (same ▸ ends) (bracket others)
  · exact absurd (same.symm ▸ endsToo) (bracket behind)
  · exact ⟨rfl, List.append_cancel_left same⟩

theorem renderArguments_cons_append (first : Resolved) (rest : List Resolved)
    (behind : List Char) : renderArguments (first :: rest) ++ behind =
      '<' :: (renderArrayed first ++ (renderFurther rest ++ '>' :: behind)) := by
  show '<' :: (renderArrayed first ++ (renderFurther rest ++ ['>'])) ++ behind = _
  simp only [List.append_assoc, List.cons_append, List.nil_append]

theorem behindWord_record_append (key : MapKey) (value : Resolved) (behind : List Char) :
    (record key value).behindWord ++ behind =
      '<' :: (key.render ++ (", ".toList ++ (renderArrayed value ++ '>' :: behind))) := by
  show '<' :: (key.render ++ (", ".toList ++ (renderArrayed value ++ ['>']))) ++ behind = _
  simp only [List.append_assoc, List.cons_append, List.nil_append]

/-- Where the arguments are written alike, they are so behind commas: there are arguments on both
sides or on none, since no bracket opens where a type has ended. -/
theorem renderFurther_append_eq {left right : List Resolved} (ends : EndsType behind)
    (endsToo : EndsType others)
    (same : renderArguments left ++ behind = renderArguments right ++ others) :
    renderFurther left ++ '>' :: behind = renderFurther right ++ '>' :: others := by
  have bracket (first : Resolved) (rest : List Resolved) (text : List Char) :
      ¬ EndsType (renderArguments (first :: rest) ++ text) :=
    fun opened => absurd (opened '<' rfl) (by decide)
  match left, right with
  | [], [] => exact congrArg ('>' :: ·) same
  | [], first :: rest => exact absurd ((show behind = _ from same) ▸ ends) (bracket first rest _)
  | first :: rest, [] =>
    exact absurd ((show others = _ from same.symm) ▸ endsToo) (bracket first rest _)
  | first :: rest, second :: further =>
    rw [renderArguments_cons_append, renderArguments_cons_append] at same
    rw [renderFurther, renderFurther]
    simp only [List.append_assoc]
    exact congrArg (", ".toList ++ ·) (List.cons.inj same).2

/-! ### Reading back

What follows is kept along: a type ends where the other one does, with the same text behind it. -/

mutual

theorem eq_of_render_append : (left right : TargetType) → left.RefersApart → right.RefersApart →
    ∀ {behind others : List Char}, EndsType behind → EndsType others →
      left.render ++ behind = right.render ++ others → left = right ∧ behind = others
  | .primitive kind, right, leftApart, rightApart, _, _, ends, endsToo, same => by
    obtain ⟨words, rest⟩ := word_eq_and_behindWord_eq leftApart rightApart ends endsToo same
    obtain rfl := eq_primitive_of_word rightApart words.symm
    exact ⟨rfl, rest⟩
  | .reference name arguments, right, leftApart, rightApart, _, _, ends, endsToo, same => by
    obtain ⟨words, rest⟩ := word_eq_and_behindWord_eq leftApart rightApart ends endsToo same
    obtain ⟨listed, rfl⟩ := exists_reference_of_word (leftApart name (.here arguments)) words.symm
    obtain ⟨rfl, ended⟩ := eq_of_renderFurther_append arguments listed leftApart.argument
      rightApart.argument (renderFurther_append_eq ends endsToo rest)
    exact ⟨rfl, ended⟩
  | .record key value, right, leftApart, rightApart, _, _, ends, endsToo, same => by
    obtain ⟨words, rest⟩ := word_eq_and_behindWord_eq leftApart rightApart ends endsToo same
    obtain ⟨other, content, rfl⟩ := exists_record_of_word rightApart words.symm
    rw [behindWord_record_append, behindWord_record_append] at rest
    obtain ⟨rfl, values⟩ := key_eq_and_eq (List.cons.inj rest).2
    obtain ⟨rfl, ended⟩ := eq_of_renderArrayed_append value content leftApart.value
      rightApart.value (endsArgument_renderFurther [] _) (endsArgument_renderFurther [] _) values
    exact ⟨rfl, (List.cons.inj ended).2⟩

theorem eq_of_renderArrayed_append : (left right : Resolved) → left.type.RefersApart →
    right.type.RefersApart → ∀ {behind others : List Char}, EndsArgument behind →
      EndsArgument others → renderArrayed left ++ behind = renderArrayed right ++ others →
        left = right ∧ behind = others
  | ⟨type, isArray⟩, ⟨other, isArrayToo⟩, leftApart, rightApart, _, _, ends, endsToo, same => by
    rw [renderArrayed_append, renderArrayed_append] at same
    obtain ⟨rfl, marked⟩ := eq_of_render_append type other leftApart rightApart
      (endsType_mark isArray ends) (endsType_mark isArrayToo endsToo) same
    obtain ⟨rfl, ended⟩ := isArray_eq_and_eq ends endsToo marked
    exact ⟨rfl, ended⟩

theorem eq_of_renderFurther_append : (left right : List Resolved) →
    (∀ argument ∈ left, argument.type.RefersApart) →
    (∀ argument ∈ right, argument.type.RefersApart) → ∀ {behind others : List Char},
      renderFurther left ++ '>' :: behind = renderFurther right ++ '>' :: others →
        left = right ∧ behind = others
  | [], [], _, _, _, _, same => ⟨rfl, (List.cons.inj same).2⟩
  | [], _ :: _, _, _, _, _, same => absurd (List.cons.inj same).1 (by decide)
  | _ :: _, [], _, _, _, _, same => absurd (List.cons.inj same).1 (by decide)
  | first :: rest, second :: further, leftApart, rightApart, behind, others, same => by
    obtain ⟨firstApart, restApart⟩ := List.forall_mem_cons.mp leftApart
    obtain ⟨secondApart, furtherApart⟩ := List.forall_mem_cons.mp rightApart
    rw [renderFurther, renderFurther] at same
    simp only [List.append_assoc] at same
    obtain ⟨rfl, listed⟩ := eq_of_renderArrayed_append first second firstApart secondApart
      (endsArgument_renderFurther rest behind) (endsArgument_renderFurther further others)
      (List.append_cancel_left same)
    obtain ⟨rfl, ended⟩ := eq_of_renderFurther_append rest further restApart furtherApart listed
    exact ⟨rfl, ended⟩

end

end TargetType

/-! ### Properties -/

/-- A type that refers to names only ends in none of the marks of an array. -/
theorem TargetType.not_suffix_render {type : TargetType} (named : type.RefersToNames) :
    ¬ "[]".toList <:+ type.render := by
  rintro ⟨front, whole⟩
  have last : type.render.getLast? = some ']' := by
    rw [← whole, List.getLast?_append_of_ne_nil _ (by decide)]
    decide
  rw [render_eq_append] at last
  rcases type.behindWord_eq_nil_or with nothingBehind | ⟨inside, closed⟩
  · rw [nothingBehind, List.append_nil] at last
    exact absurd (isWordText_word named ']' (List.mem_of_getLast? last)) (by decide)
  · rw [closed, ← List.append_assoc, List.getLast?_concat] at last
    exact absurd last (by decide)

theorem Member.marksArray_eq {member : Member} (named : member.type.RefersToNames)
    (noRecord : ∀ key value, member.type ≠ .record key value) :
    member.marksArray = member.isArray := by
  have unmarked : ("[]".toList).isSuffixOf member.type.render = false := by
    rw [← Bool.not_eq_true, List.isSuffixOf_iff_suffix]
    exact TargetType.not_suffix_render named
  unfold marksArray
  split
  case h_1 key value isRecord => exact absurd isRecord (noRecord key value)
  case h_2 => rw [unmarked, Bool.not_false, Bool.and_true]

/-- The written form of a type determines it with its array mark, at any depth. And a property is
written with the form of its type and array mark, followed by the alternative if it may be absent;
no mark is dropped but that of a record. -/
theorem rendering_loses_nothing :
    (∀ left right : Resolved, left.type.RefersApart → right.type.RefersApart →
        left.render = right.render → left = right) ∧
      ∀ member : Member, member.type.RefersApart →
        (∀ key value, member.type ≠ .record key value) →
        member.renderType = Arrayed.render ⟨member.type, member.isArray⟩ ++
          if member.isNullable then " | null".toList else [] := by
  refine ⟨fun left right leftApart rightApart same => ?_, fun member apart noRecord => ?_⟩
  · have ended : TargetType.EndsArgument [] := nofun
    have whole : left.render ++ [] = right.render ++ [] := congrArg (· ++ []) same
    exact (TargetType.eq_of_renderArrayed_append left right leftApart rightApart ended ended
      whole).1
  · have written := TargetType.renderArrayed_append member.type member.isArray
      (if member.isNullable then " | null".toList else [])
    rw [Member.renderType, Member.marksArray_eq apart.refersToNames noRecord, List.append_assoc]
    exact written.symm

/-- A page of users, with the mark of an array on the users or on the page. -/
def pageOfUsers (users pages : Bool) : Resolved :=
  ⟨.reference "Page".toList [⟨.reference "User".toList [], users⟩], pages⟩

/-- A page of lists of users is not written like a list of pages, and the list keeps its mark where
it may be absent. -/
theorem rendering_loses_nothing_of_pages :
    (pageOfUsers true false).type.RefersApart ∧ (pageOfUsers false true).type.RefersApart ∧
      (pageOfUsers true false).render ≠ (pageOfUsers false true).render ∧
      Member.renderType ⟨"Users".toList, (pageOfUsers false true).type, true, true⟩ =
        "Page<User>[] | null".toList := by
  have inner : (pageOfUsers true false).type.RefersApart := by decide
  have outer : (pageOfUsers false true).type.RefersApart := by decide
  refine ⟨inner, outer, fun same => ?_, ?_⟩
  · exact absurd (rendering_loses_nothing.1 _ _ inner outer same) (by decide)
  · exact rendering_loses_nothing.2
      ⟨"Users".toList, (pageOfUsers false true).type, true, true⟩ outer nofun

end SharpTypes

/-
Type expressions come to what they mean. However a type expression is written, the reader finds its
outermost layer, cuts it exactly where it was put together, and goes on with the texts inside, so
that what it makes of the whole is the meaning of the expression.
-/

import Mathlib.Tactic.Common
import SharpTypes.Proofs.Source.TypeGrammar

namespace SharpTypes.Source

open Text

/-! ### One layer at a time -/

/-- What a layer comes to, if it is known what the texts inside it come to. -/
def TypeShape.combine (inside : List Char → Resolved) : TypeShape → Resolved
  | .array element => ⟨(inside element).type, true⟩
  | .dictionary [key, value] =>
    if key.isEmpty || value.isEmpty then anyRecord
    else (TargetType.record (mapKeyOf (inside key)) (inside value)).single
  | .dictionary _ => anyRecord
  | .collection [element] =>
    if element.isEmpty then anyArray else ⟨(inside element).type, true⟩
  | .collection _ => anyArray
  | .nullable inner => inside inner
  | .generic name arguments => (TargetType.reference name (arguments.map inside)).single
  | .plain name => (namedType name).single

theorem resolve_eq (text : List Char) :
    resolve text = (TypeShape.of (bareType text)).combine resolve := by
  rw [resolve]
  split
  all_goals simp_all [TypeShape.combine]

/-- Only the bare form of a type expression counts. -/
theorem resolve_congr {left right : List Char} (same : bareType left = bareType right) :
    resolve left = resolve right := by
  rw [resolve_eq left, resolve_eq right, same]

theorem resolve_of_trim_eq {left right : List Char} (same : trim left = trim right) :
    resolve left = resolve right := by
  refine resolve_congr ?_
  rw [bareType, bareType, same]

/-! ### What every written type expression has in common -/

theorem QualifiedName.balanced_of_written {name : QualifiedName} {text : List Char}
    (written : name.Written text) : Bracket.angle.Balanced (· ≠ ',') text := by
  refine Bracket.balanced_of_forall fun c member => ?_
  refine ⟨?_, ?_, ?_⟩ <;> rintro rfl <;>
    exact not_mem_of_written written (by decide) member

mutual

theorem TypeExpression.inked_of_written {text : List Char} :
    (type : TypeExpression) → type.Written text → Inked text
  | .bare type, .bare written => type.inked_of_written written
  | .nullable type, .nullable written _ => (type.inked_of_written written).append_left _

theorem BareTypeExpression.inked_of_written {text : List Char} :
    (type : BareTypeExpression) → type.Written text → Inked text
  | .name _, .name written => QualifiedName.inked_of_written written
  | .array element, .array written _ => (element.inked_of_written written).append_left _
  | .wrapper .., .wrapper writtenName _ _ =>
    ((QualifiedName.inked_of_written writtenName).append_left _).append_left _
  | .generic .., .generic writtenName _ _ =>
    ((QualifiedName.inked_of_written writtenName).append_left _).append_left _

end

/-- Blanks may stand anywhere in a balanced text. -/
theorem balanced_of_blank {text : List Char} (blank : Blank text) :
    Bracket.angle.Balanced (· ≠ ',') text := by
  refine Bracket.balanced_of_forall fun c member => ?_
  refine ⟨?_, ?_, ?_⟩ <;> rintro rfl <;> exact not_mem_of_blank blank (by decide) member

theorem balanced_join {texts : List (List Char)}
    (balanced : ∀ text ∈ texts, Bracket.angle.Balanced (· ≠ ',') text) :
    Bracket.angle.Balanced (fun _ => True) (join [','] texts) :=
  join_of_append .nil .append (.plain trivial (by decide) (by decide) .nil) fun text isText =>
    (balanced text isText).mono fun _ _ => trivial

mutual

/-- A written type expression balances its brackets and has no comma outside them. -/
theorem TypeExpression.balanced_of_written {text : List Char} :
    (type : TypeExpression) → type.Written text → Bracket.angle.Balanced (· ≠ ',') text
  | .bare type, .bare written => type.balanced_of_written written
  | .nullable type, .nullable written blankAfter =>
    (type.balanced_of_written written).append
      (.plain (by decide) (by decide) (by decide) (balanced_of_blank blankAfter))

theorem BareTypeExpression.balanced_of_written {text : List Char} :
    (type : BareTypeExpression) → type.Written text → Bracket.angle.Balanced (· ≠ ',') text
  | .name _, .name written => QualifiedName.balanced_of_written written
  | .array element, .array written blankAfter =>
    (element.balanced_of_written written).append (.plain (by decide) (by decide) (by decide)
      (.plain (by decide) (by decide) (by decide) (balanced_of_blank blankAfter)))
  | .wrapper _ _ argument, .wrapper writtenName written blankAfter => by
    rw [List.append_assoc]
    exact (QualifiedName.balanced_of_written writtenName).append
      (.enclosed ((argument.balanced_of_written written).mono fun _ _ => trivial)
        (balanced_of_blank blankAfter))
  | .generic _ _ arguments, .generic writtenName written blankAfter => by
    rw [List.append_assoc]
    exact (QualifiedName.balanced_of_written writtenName).append
      (.enclosed (balanced_join (arguments.balanced_of_written written))
        (balanced_of_blank blankAfter))

theorem TypeArguments.balanced_of_written {texts : List (List Char)} :
    (arguments : TypeArguments) → arguments.Written texts →
      ∀ text ∈ texts, Bracket.angle.Balanced (· ≠ ',') text
  | .one argument, .one written => by
    refine List.forall_mem_singleton.mpr ?_
    exact argument.balanced_of_written written
  | .more argument rest, .more written others =>
    List.forall_mem_cons.mpr ⟨argument.balanced_of_written written, rest.balanced_of_written others⟩

end

/-! ### The layers -/

theorem dropEnd?_concat_of_ne {ending : List Char} {c d : Char} (last : ending.getLast? = some c)
    (different : d ≠ c) (front : List Char) : dropEnd? ending (front ++ [d]) = none := by
  rw [Option.eq_none_iff_forall_not_mem]
  intro inner found
  have lasts := congrArg List.getLast? (dropEnd?_eq_some_iff.mp found)
  rw [List.getLast?_concat, List.getLast?_append, last] at lasts
  exact different (Option.some.inj lasts)

/-- A text does not end as its last ink does not. -/
theorem dropEnd?_trim_of_ne {ending after : List Char} {c d : Char}
    (last : ending.getLast? = some c) (different : d ≠ c) (notBlank : isBlank d = false)
    (blankAfter : Blank after) (front : List Char) :
    dropEnd? ending (trim (front ++ d :: after)) = none := by
  rw [trim_append_cons notBlank blankAfter, dropEnd?_concat_of_ne last different]

/-- A written type expression without a nullable mark does not end in one. -/
theorem BareTypeExpression.exists_trim_of_written {text : List Char} (type : BareTypeExpression)
    (written : type.Written text) : ∃ front c, trim text = front ++ [c] ∧ c ≠ '?' := by
  cases written with
  | name written =>
    obtain ⟨front, c, same⟩ := (List.eq_nil_or_concat (trim text)).resolve_left
      (trim_ne_nil (QualifiedName.inked_of_written written))
    rw [List.concat_eq_append] at same
    refine ⟨front, c, same, ?_⟩
    rintro rfl
    refine QualifiedName.not_mem_of_written written (c := '?') (by decide)
      (mem_of_mem_trim ?_)
    rw [same]
    exact List.mem_append_right _ (List.mem_singleton_self _)
  | @array element inner after written blankAfter =>
    refine ⟨trimStart inner ++ ['['], ']', ?_, by decide⟩
    have cut := trim_append_concat (element.inked_of_written written) ['['] (c := ']') (by decide)
      blankAfter
    rwa [List.append_assoc] at cut
  | wrapper writtenName _ blankAfter =>
    exact ⟨_, '>', trim_append_concat (QualifiedName.inked_of_written writtenName) _ (by decide)
      blankAfter, by decide⟩
  | generic writtenName _ blankAfter =>
    exact ⟨_, '>', trim_append_concat (QualifiedName.inked_of_written writtenName) _ (by decide)
      blankAfter, by decide⟩

theorem BareTypeExpression.unmarked_of_written {text : List Char} (type : BareTypeExpression)
    (written : type.Written text) : dropEnd? ['?'] (trim text) = none := by
  obtain ⟨front, c, same, notMark⟩ := type.exists_trim_of_written written
  rw [same, dropEnd?_concat_of_ne rfl notMark]

theorem bareType_of_unmarked {text : List Char} (unmarked : dropEnd? ['?'] (trim text) = none) :
    bareType text = trim text := by
  rw [bareType, unmarked]

theorem BareTypeExpression.bareType_of_written {text : List Char} (type : BareTypeExpression)
    (written : type.Written text) : bareType text = trim text :=
  bareType_of_unmarked (type.unmarked_of_written written)

/-- A nullable mark at the end is cut off. -/
theorem dropEnd?_mark {after : List Char} (text : List Char) (blankAfter : Blank after) :
    dropEnd? ['?'] (trim (text ++ '?' :: after)) = some (trimStart text) := by
  rw [trim_append_cons (by decide) blankAfter]
  exact dropEnd?_eq_some_iff.mpr rfl

/-- A nullable mark at the end changes nothing where there is no other. -/
theorem resolve_mark {text after : List Char} (unmarked : dropEnd? ['?'] (trim text) = none)
    (blankAfter : Blank after) : resolve (text ++ '?' :: after) = resolve text := by
  refine resolve_congr ?_
  rw [bareType_of_unmarked unmarked, bareType, dropEnd?_mark text blankAfter]
  rfl

/-- No text in angle brackets is applied where none opens. -/
theorem genericText_of_not_mem {text : List Char} (unopened : '<' ∉ text) :
    GenericText.of? text = none := by
  rw [GenericText.of?, dropWhile_ne_of_not_mem unopened]

theorem resolve_name {name : QualifiedName} {text : List Char} (written : name.Written text) :
    resolve text = (namedType name.last.text).single := by
  have noArray : dropEnd? "[]".toList (trim text) = none := by
    rw [Option.eq_none_iff_forall_not_mem]
    intro inner found
    have same := dropEnd?_eq_some_iff.mp found
    refine QualifiedName.not_mem_of_written written (c := ']') (by decide) (mem_of_mem_trim ?_)
    rw [same]
    exact List.mem_append_right _ (by decide)
  have noArguments : GenericText.of? (trim text) = none :=
    genericText_of_not_mem fun member =>
      QualifiedName.not_mem_of_written written (by decide) (mem_of_mem_trim member)
  have bare := BareTypeExpression.bareType_of_written (.name name) (.name written)
  rw [resolve_eq, bare, TypeShape.of, noArray]
  dsimp only
  rw [noArguments]
  dsimp only [TypeShape.combine]
  rw [QualifiedName.lastSegment_trim, QualifiedName.lastSegment_of_written written]

/-- A plain name means what the reader takes it for. -/
theorem BareTypeExpression.meaning_name (name : QualifiedName) :
    (BareTypeExpression.name name).meaning = (namedType name.last.text).single := by
  rw [meaning, namedType]
  cases Primitive.ofName? name.last.text <;> rfl

/-- An array suffix at the end makes an array of what stands in front of it. -/
theorem resolve_brackets {after : List Char} (text : List Char) (blankAfter : Blank after) :
    resolve (text ++ '[' :: ']' :: after) = ⟨(resolve text).type, true⟩ := by
  have cut : trim (text ++ '[' :: ']' :: after) = trimStart (text ++ ['[']) ++ [']'] := by
    rw [← trim_append_cons (by decide) blankAfter, List.append_assoc]
    rfl
  have unmarked : dropEnd? ['?'] (trim (text ++ '[' :: ']' :: after)) = none := by
    rw [cut]
    exact dropEnd?_concat_of_ne rfl (by decide) _
  have brackets : dropEnd? "[]".toList (trim (text ++ '[' :: ']' :: after)) =
      some (trimStart text) := by
    rw [cut, trimStart_concat (by decide)]
    exact dropEnd?_eq_some_iff.mpr (List.append_assoc ..)
  have inner : resolve (trimStart text) = resolve text := resolve_of_trim_eq (trim_trimStart text)
  rw [resolve_eq, bareType_of_unmarked unmarked, TypeShape.of, brackets]
  dsimp only [TypeShape.combine]
  rw [inner]

/-- A name and what stands in its angle brackets are read, whatever stands behind them. -/
theorem genericText_generic {name : QualifiedName} {front interior : List Char}
    (written : name.Written front) (balanced : Bracket.angle.Balanced (fun _ => True) interior)
    (behind : List Char) :
    GenericText.of? (trim (front ++ '<' :: interior ++ '>' :: behind)) =
      some ⟨trim front, some interior⟩ := by
  have inked := QualifiedName.inked_of_written written
  obtain ⟨kept, cut⟩ := exists_trimEnd_cons (c := '>') (by decide) behind
  have split : trim (front ++ '<' :: interior ++ '>' :: behind) =
      trimStart front ++ '<' :: (interior ++ '>' :: kept) := by
    rw [trim, List.append_assoc, trimStart_append_of_inked inked, ← List.append_assoc,
      trimEnd_append_of_inked _ (inked_cons (by decide) behind), cut, List.append_assoc]
    rfl
  have unopened : '<' ∉ trimStart front := by
    intro member
    refine QualifiedName.not_mem_of_written written (c := '<') (by decide) ?_
    exact (List.dropWhile_sublist _).subset member
  have closed : Bracket.angle.enclosed? ('<' :: (interior ++ '>' :: kept)) =
      some (interior, kept) :=
    Bracket.enclosed?_of_balanced (by decide) balanced kept
  rw [split, GenericText.of?, dropWhile_ne_append unopened, beforeFirst_append unopened,
    trim_trimStart]
  dsimp only
  rw [closed]
  rfl

/-- Where no array suffix stands at the end, the outermost layer is that of the applied name,
whatever stands behind its angle brackets. -/
theorem shape_applied {name : QualifiedName} {front interior behind : List Char}
    (written : name.Written front) (balanced : Bracket.angle.Balanced (fun _ => True) interior)
    (noArray : dropEnd? "[]".toList (trim (front ++ '<' :: interior ++ '>' :: behind)) = none) :
    TypeShape.of (trim (front ++ '<' :: interior ++ '>' :: behind)) =
      TypeShape.ofGeneric ⟨trim front, some interior⟩ := by
  rw [TypeShape.of, noArray]
  dsimp only
  rw [genericText_generic written balanced behind]

/-- The outermost layer of an applied generic name. -/
theorem shape_generic {name : QualifiedName} {front interior after : List Char}
    (written : name.Written front) (blankAfter : Blank after)
    (balanced : Bracket.angle.Balanced (fun _ => True) interior) :
    TypeShape.of (trim (front ++ '<' :: interior ++ '>' :: after)) =
      TypeShape.ofGeneric ⟨trim front, some interior⟩ := by
  exact shape_applied written balanced
    (dropEnd?_trim_of_ne rfl (by decide) (by decide) blankAfter _)

/-- A generic name other than the wrapper is applied to what its arguments come to, if none of them
is empty. -/
theorem combine_ofGeneric {front interior : List Char} {parts : List (List Char)}
    (notWrapper : lastSegment front ≠ "Nullable".toList) (cut : typeArguments interior = parts)
    (filled : ∀ part ∈ parts, part ≠ []) :
    (TypeShape.ofGeneric ⟨front, some interior⟩).combine resolve =
      applied (lastSegment front) (parts.map resolve) := by
  have notEmpty : ∀ part ∈ parts, part.isEmpty = false := fun part member =>
    List.isEmpty_eq_false_iff.mpr (filled part member)
  rw [TypeShape.ofGeneric, applied.eq_def]
  dsimp only [Option.map_some, Option.getD_some]
  rw [cut]
  by_cases isDictionary : dictionaryNames.contains (lastSegment front) = true
  · rw [if_pos isDictionary, if_pos isDictionary]
    match parts, notEmpty with
    | [], _ => rfl
    | [_], _ => rfl
    | [key, value], notEmpty =>
      rw [TypeShape.combine, notEmpty key (by simp), notEmpty value (by simp)]
      rfl
    | _ :: _ :: _ :: _, _ => rfl
  rw [if_neg isDictionary, if_neg isDictionary]
  by_cases isCollection : collectionNames.contains (lastSegment front) = true
  · rw [if_pos isCollection, if_pos isCollection]
    match parts, notEmpty with
    | [], _ => rfl
    | [element], notEmpty =>
      rw [TypeShape.combine, notEmpty element (by simp)]
      rfl
    | _ :: _ :: _, _ => rfl
  rw [if_neg isCollection, if_neg isCollection, if_neg notWrapper, List.filter_eq_self.mpr]
  · rfl
  · intro part member
    rw [notEmpty part member]
    rfl

theorem resolve_wrapper {name : QualifiedName} {argument : TypeExpression}
    {front inner after : List Char} (isWrapper : name.last.text = "Nullable".toList)
    (writtenName : name.Written front) (written : argument.Written inner)
    (blankAfter : Blank after) :
    resolve (front ++ '<' :: inner ++ '>' :: after) = resolve inner := by
  have bare := BareTypeExpression.bareType_of_written (.wrapper name isWrapper argument)
    (.wrapper writtenName written blankAfter)
  have balanced := (argument.balanced_of_written written).mono fun _ _ => trivial
  rw [resolve_eq, bare, shape_generic writtenName blankAfter balanced, TypeShape.ofGeneric]
  dsimp only
  rw [QualifiedName.lastSegment_trim, QualifiedName.lastSegment_of_written writtenName, isWrapper]
  rfl

theorem TypeArguments.written_ne_nil {arguments : TypeArguments} {texts : List (List Char)}
    (written : arguments.Written texts) : texts ≠ [] := by
  cases written <;> exact List.cons_ne_nil _ _

theorem TypeArguments.inked_of_written {texts : List (List Char)} :
    (arguments : TypeArguments) → arguments.Written texts → ∀ text ∈ texts, Inked text
  | .one argument, .one written => List.forall_mem_singleton.mpr (argument.inked_of_written written)
  | .more argument rest, .more written others =>
    List.forall_mem_cons.mpr ⟨argument.inked_of_written written, rest.inked_of_written others⟩

/-- The arguments are cut where they were put together. -/
theorem typeArguments_join {arguments : TypeArguments} {texts : List (List Char)}
    (written : arguments.Written texts) : typeArguments (join [','] texts) = texts.map trim := by
  refine Bracket.split_join (by decide) (by decide) (by decide)
    (arguments.balanced_of_written written) ?_
  obtain ⟨first, rest, rfl⟩ := List.exists_cons_of_ne_nil (TypeArguments.written_ne_nil written)
  obtain ⟨c, inside, notBlank⟩ := arguments.inked_of_written written first List.mem_cons_self
  exact ⟨c, mem_join_of_mem [','] List.mem_cons_self inside, notBlank⟩

theorem resolve_generic {name : QualifiedName} {arguments : TypeArguments} {front after : List Char}
    {texts : List (List Char)} (notWrapper : name.last.text ≠ "Nullable".toList)
    (writtenName : name.Written front) (written : arguments.Written texts)
    (blankAfter : Blank after) :
    resolve (front ++ '<' :: join [','] texts ++ '>' :: after) =
      applied name.last.text (texts.map resolve) := by
  have bare := BareTypeExpression.bareType_of_written (.generic name notWrapper arguments)
    (.generic writtenName written blankAfter)
  have balanced := balanced_join (arguments.balanced_of_written written)
  have last : lastSegment (trim front) = name.last.text := by
    rw [QualifiedName.lastSegment_trim, QualifiedName.lastSegment_of_written writtenName]
  have filled : ∀ part ∈ texts.map trim, part ≠ [] := by
    intro part member
    obtain ⟨text, isText, rfl⟩ := List.mem_map.mp member
    exact trim_ne_nil (arguments.inked_of_written written text isText)
  have trimmed : (texts.map trim).map resolve = texts.map resolve := by
    rw [List.map_map]
    exact List.map_congr_left fun text _ => resolve_of_trim_eq (trim_trim text)
  rw [resolve_eq, bare, shape_generic writtenName blankAfter balanced,
    combine_ofGeneric (last ▸ notWrapper) (typeArguments_join written) filled, last, trimmed]

/-! ### The whole expression -/

mutual

theorem TypeExpression.resolve_of_written {text : List Char} :
    (type : TypeExpression) → type.Written text → resolve text = type.meaning
  | .bare type, .bare written => type.resolve_of_written written
  | .nullable type, .nullable written blankAfter => by
    rw [resolve_mark (type.unmarked_of_written written) blankAfter]
    exact type.resolve_of_written written

theorem BareTypeExpression.resolve_of_written {text : List Char} :
    (type : BareTypeExpression) → type.Written text → resolve text = type.meaning
  | .name name, .name written => by
    rw [resolve_name written, BareTypeExpression.meaning_name]
  | .array element, .array written blankAfter => by
    rw [resolve_brackets _ blankAfter, element.resolve_of_written written]
    rfl
  | .wrapper _ isWrapper argument, .wrapper writtenName written blankAfter => by
    rw [resolve_wrapper isWrapper writtenName written blankAfter]
    exact argument.resolve_of_written written
  | .generic _ notWrapper arguments, .generic writtenName written blankAfter => by
    rw [resolve_generic notWrapper writtenName written blankAfter,
      arguments.resolve_of_written written]
    rfl

theorem TypeArguments.resolve_of_written {texts : List (List Char)} :
    (arguments : TypeArguments) → arguments.Written texts →
      texts.map resolve = arguments.meanings
  | .one argument, .one written => by
    rw [List.map_singleton, argument.resolve_of_written written]
    rfl
  | .more argument rest, .more written others => by
    rw [List.map_cons, argument.resolve_of_written written, rest.resolve_of_written others]
    rfl

end

/-- Every written type expression comes to what it means. -/
theorem resolve_computes_meaning (type : TypeExpression) (text : List Char)
    (written : type.Written text) : resolve text = type.meaning :=
  type.resolve_of_written written

/-- A dictionary from numbers to arrays, with blanks in many places; one whose keys are arrays of
numbers; and a dictionary and a collection with a wrong number of arguments. -/
theorem resolve_computes_meaning_of_dictionary :
    resolve "Dictionary< int , Models . User [] > ?".toList =
        ⟨.record .number ⟨.reference "User".toList [], true⟩, false⟩ ∧
      resolve "Dictionary<int[],int>".toList =
        ⟨.record .string ⟨.primitive .number, false⟩, false⟩ ∧
      resolve "Dictionary<int>".toList =
        ⟨.record .string ⟨.primitive .any, false⟩, false⟩ ∧
      resolve "List<int,int>".toList = ⟨.primitive .any, true⟩ := by
  have unspaced : Blank [] := blank_nil
  have spaced : Blank [' '] := by decide
  have dictionary : QualifiedName.Written ⟨[], ⟨"Dictionary".toList, by decide, by decide⟩⟩
      "Dictionary".toList := .last unspaced unspaced
  have list : QualifiedName.Written ⟨[], ⟨"List".toList, by decide, by decide⟩⟩ "List".toList :=
    .last unspaced unspaced
  have int : BareTypeExpression.Written (.name ⟨[], ⟨"int".toList, by decide, by decide⟩⟩)
      "int".toList := .name (.last unspaced unspaced)
  have spacedInt : BareTypeExpression.Written (.name ⟨[], ⟨"int".toList, by decide, by decide⟩⟩)
      " int ".toList := .name (.last spaced spaced)
  have ints : BareTypeExpression.Written (.array (.bare _)) "int[]".toList :=
    .array (.bare int) unspaced
  have user : QualifiedName.Written ⟨[⟨"Models".toList, by decide, by decide⟩],
      ⟨"User".toList, by decide, by decide⟩⟩ " Models . User ".toList :=
    .qualified spaced spaced (.last spaced spaced)
  have users : BareTypeExpression.Written (.array (.bare (.name _))) " Models . User [] ".toList :=
    .array (.bare (.name user)) spaced
  refine ⟨?_, ?_, ?_, ?_⟩
  · exact resolve_computes_meaning (.nullable (.generic _ (by decide) (.more _ (.one _)))) _
      (.nullable (.generic dictionary (.more (.bare spacedInt) (.one (.bare users))) spaced)
        unspaced)
  · exact resolve_computes_meaning (.bare (.generic _ (by decide) (.more _ (.one _)))) _
      (.bare (.generic dictionary (.more (.bare ints) (.one (.bare int))) unspaced))
  · exact resolve_computes_meaning (.bare (.generic _ (by decide) (.one _))) _
      (.bare (.generic dictionary (.one (.bare int)) unspaced))
  · exact resolve_computes_meaning (.bare (.generic _ (by decide) (.more _ (.one _)))) _
      (.bare (.generic list (.more (.bare int) (.one (.bare int))) unspaced))

end SharpTypes.Source

/-
The written type of a property is a sentence of the grammar of types, unless an array suffix that is
not `[]` gets in the way. Such a suffix does so behind a bare name, and in a list of arguments if it
has commas. It does not where it is lost: behind angle brackets, in the key of a dictionary, and in
the arguments of a dictionary or a collection with a wrong number of parts.
-/

import Mathlib.Tactic.Common
import SharpTypes.Proofs.Source.LooseBracket

namespace SharpTypes.Source

open Text Listing TargetType

/-! ### Applied names -/

theorem refersToNames_anyRecord : anyRecord.type.RefersToNames := by
  intro name mentions
  cases mentions with
  | value _ mentions => cases mentions

theorem refersToNames_anyArray : anyArray.type.RefersToNames := by
  intro name mentions
  cases mentions

theorem isJudged_record {verdict : Bool} (key : MapKey) {value : Resolved}
    (judged : value.type.IsJudged verdict) : (TargetType.record key value).IsJudged verdict := by
  cases verdict with
  | true =>
    intro name mentions
    cases mentions with
    | value _ mentions => exact judged name mentions
  | false =>
    obtain ⟨name, mentions, notPaired⟩ := judged
    exact ⟨name, .value key mentions, notPaired⟩

/-- A dictionary counts with its value if it has two parts. -/
theorem isJudged_dictionary {verdicts : List Bool} {parts : List (List Char)}
    (told : AreToldBy verdicts parts) :
    ((TypeShape.dictionary parts).combine resolve).type.IsJudged (dictionarySound verdicts) := by
  have length := told.length
  rcases parts with _ | ⟨key, _ | ⟨value, _ | ⟨third, others⟩⟩⟩
  · obtain rfl := List.length_eq_zero_iff.mp length
    exact refersToNames_anyRecord
  · obtain ⟨verdict, rfl⟩ := List.length_eq_one_iff.mp length
    exact refersToNames_anyRecord
  · obtain ⟨ofKey, ofValue, rfl⟩ := List.length_eq_two.mp length
    have someKey : key.isEmpty = false := List.isEmpty_eq_false_iff.mpr (told.first key rfl)
    obtain ⟨notEmpty, judged⟩ := told.last ofValue rfl value rfl
    rw [TypeShape.combine, someKey, List.isEmpty_eq_false_iff.mpr notEmpty, if_neg (by decide)]
    exact isJudged_record _ judged
  · rcases verdicts with _ | ⟨first, _ | ⟨second, _ | ⟨next, rest⟩⟩⟩
    · cases length
    · cases length
    · cases length
    · exact refersToNames_anyRecord

/-- A collection counts with its element if it has one part. -/
theorem isJudged_collection {verdicts : List Bool} {parts : List (List Char)}
    (told : AreToldBy verdicts parts) :
    ((TypeShape.collection parts).combine resolve).type.IsJudged (collectionSound verdicts) := by
  have length := told.length
  rcases parts with _ | ⟨element, _ | ⟨second, others⟩⟩
  · obtain rfl := List.length_eq_zero_iff.mp length
    exact refersToNames_anyArray
  · obtain ⟨verdict, rfl⟩ := List.length_eq_one_iff.mp length
    obtain ⟨notEmpty, judged⟩ := told.last verdict rfl element rfl
    rw [TypeShape.combine, List.isEmpty_eq_false_iff.mpr notEmpty, if_neg (by decide)]
    exact judged
  · rcases verdicts with _ | ⟨first, _ | ⟨next, rest⟩⟩
    · cases length
    · cases length
    · exact refersToNames_anyArray

/-- Any other generic name counts with all parts. -/
theorem isJudged_generic {name : List Char} (isName : IsName name) {verdicts : List Bool}
    {parts : List (List Char)} (told : AreToldBy verdicts parts) :
    ((TypeShape.generic name (parts.filter fun part => !part.isEmpty)).combine
      resolve).type.IsJudged (verdicts.all id) := by
  cases all : verdicts.all id with
  | true =>
    intro other mentions
    cases mentions with
    | here => exact isName
    | argument _ isArgument mentions =>
      obtain ⟨part, isPart, rfl⟩ := List.mem_map.mp isArgument
      exact (told.sound (List.all_eq_true.mp all) part (List.mem_filter.mp isPart).1).2 other
        mentions
  | false =>
    have unsound : false ∈ verdicts := by
      obtain ⟨verdict, isVerdict, notTrue⟩ := List.all_eq_false.mp all
      obtain rfl : verdict = false := Bool.eq_false_iff.mpr notTrue
      exact isVerdict
    obtain ⟨part, isPart, notEmpty, other, mentions, notPaired⟩ := told.loose unsound
    have kept : part ∈ parts.filter fun part => !part.isEmpty := by
      refine List.mem_filter.mpr ⟨isPart, ?_⟩
      rw [List.isEmpty_eq_false_iff.mpr notEmpty]
      rfl
    exact ⟨other, .argument name (List.mem_map_of_mem kept) mentions, notPaired⟩

/-- A generic name with its arguments is as the parts of the arguments tell. -/
theorem isJudged_ofGeneric {front interior : List Char} (isName : IsName (lastSegment front))
    (notWrapper : lastSegment front ≠ "Nullable".toList) {verdicts : List Bool}
    (told : AreToldBy verdicts (typeArguments interior)) :
    ((TypeShape.ofGeneric ⟨front, some interior⟩).combine resolve).type.IsJudged
      (appliedSound (lastSegment front) verdicts) := by
  rw [TypeShape.ofGeneric, appliedSound]
  dsimp only [Option.map_some, Option.getD_some]
  by_cases isDictionary : dictionaryNames.contains (lastSegment front) = true
  · rw [if_pos isDictionary, if_pos isDictionary]
    exact isJudged_dictionary told
  rw [if_neg isDictionary, if_neg isDictionary]
  by_cases isCollection : collectionNames.contains (lastSegment front) = true
  · rw [if_pos isCollection, if_pos isCollection]
    exact isJudged_collection told
  rw [if_neg isCollection, if_neg isCollection, if_neg notWrapper]
  exact isJudged_generic isName told

theorem ofGeneric_wrapper {front : List Char} (isWrapper : lastSegment front = "Nullable".toList)
    (interior : List Char) :
    TypeShape.ofGeneric ⟨front, some interior⟩ = .nullable interior := by
  have noDictionary : dictionaryNames.contains "Nullable".toList = false := by decide
  have noCollection : collectionNames.contains "Nullable".toList = false := by decide
  rw [TypeShape.ofGeneric]
  dsimp only
  rw [isWrapper, noDictionary, noCollection, if_neg Bool.false_ne_true, if_neg Bool.false_ne_true,
    if_pos rfl]

/-- The arguments of a list are cut one by one. -/
theorem typeArguments_join_level {texts : List (List Char)} (inked : Inked (join [','] texts))
    (level : ∀ text ∈ texts, Bracket.angle.rise text = 0) :
    typeArguments (join [','] texts) =
      texts.flatMap fun text => (Bracket.angle.slices ',' 0 text).map trim := by
  have notEmpty : texts ≠ [] := by
    rintro rfl
    obtain ⟨_, member, _⟩ := inked
    cases member
  rw [typeArguments, Bracket.split_of_inked inked,
    Bracket.slices_join_level Bracket.delimits_angle notEmpty level, List.map_flatMap]

/-! ### Texts that start with an applied name -/

/-- The text starts with an applied name that comes to what the verdict says. -/
def Applies (verdict : Bool) (text : List Char) : Prop :=
  ∃ (name : QualifiedName) (front interior behind : List Char), name.Written front ∧
    Bracket.angle.Balanced (fun _ => True) interior ∧
    text = front ++ '<' :: interior ++ '>' :: behind ∧
    ((TypeShape.ofGeneric ⟨trim front, some interior⟩).combine resolve).type.IsJudged verdict

theorem Applies.append {verdict : Bool} {text : List Char} (applies : Applies verdict text)
    (rest : List Char) : Applies verdict (text ++ rest) := by
  obtain ⟨name, front, interior, behind, written, balanced, rfl, judged⟩ := applies
  exact ⟨name, front, interior, behind ++ rest, written, balanced, List.append_assoc .., judged⟩

/-- If the text ends in no array suffix, it comes to what the applied name does. -/
theorem Applies.isJudged {verdict : Bool} {text : List Char} (applies : Applies verdict text)
    (unmarked : dropEnd? ['?'] (trim text) = none)
    (noArray : dropEnd? "[]".toList (trim text) = none) :
    (resolve text).type.IsJudged verdict := by
  obtain ⟨name, front, interior, behind, written, balanced, rfl, judged⟩ := applies
  rw [resolve_eq, bareType_of_unmarked unmarked, shape_applied written balanced noArray]
  exact judged

theorem ProperName.lastSegment_trim (name : ProperName) :
    lastSegment (trim name.text) = name.name.last.text := by
  rw [QualifiedName.lastSegment_trim, QualifiedName.lastSegment_of_written name.written]

theorem ProperName.isName (name : ProperName) : IsName name.name.last.text :=
  ⟨name.name.last.notEmpty, name.proper⟩

theorem applies_wrapper (name : ProperName) (isWrapper : name.name.last.text = "Nullable".toList)
    (argument : RankedType) (after : Spacing)
    (judged : (resolve argument.text).type.IsJudged argument.isSound) :
    Applies argument.isSound
      (BareRankedType.wrapper name isWrapper argument after).text := by
  refine ⟨name.name, name.text, argument.text, after.text, name.written,
    argument.balanced (fun _ _ => trivial) (.inr trivial), rfl, ?_⟩
  rw [ofGeneric_wrapper (name.lastSegment_trim.trans isWrapper)]
  exact judged

theorem applies_generic (name : ProperName) (notWrapper : name.name.last.text ≠ "Nullable".toList)
    (arguments : RankedArguments) (after : Spacing)
    (told : AreToldBy arguments.parts
      (arguments.texts.flatMap fun text => (Bracket.angle.slices ',' 0 text).map trim)) :
    Applies (BareRankedType.generic name notWrapper arguments after).isSound
      (BareRankedType.generic name notWrapper arguments after).text := by
  refine ⟨name.name, name.text, join [','] arguments.texts, after.text, name.written,
    join_of_append .nil .append (.plain trivial (by decide) (by decide) .nil) arguments.balanced,
    rfl, ?_⟩
  rw [BareRankedType.isSound, ← name.lastSegment_trim]
  refine isJudged_ofGeneric (name.lastSegment_trim ▸ name.isName)
    (name.lastSegment_trim ▸ notWrapper) ?_
  rw [typeArguments_join_level arguments.inked_join fun text isText =>
    (arguments.balanced text isText).rise_eq_zero (by decide)]
  exact told

/-! ### Whole type expressions -/

mutual

/-- What a type expression comes to is as its soundness says. -/
theorem RankedType.isJudged :
    (type : RankedType) → (resolve type.text).type.IsJudged type.isSound
  | .bare type => type.isJudged
  | .nullable type after => by
    rw [RankedType.text, resolve_mark type.unmarked after.blank]
    exact type.isJudged

theorem BareRankedType.isJudged :
    (type : BareRankedType) → (resolve type.text).type.IsJudged type.isSound
  | .name name => by
    rw [BareRankedType.text, resolve_name name.written]
    intro other mentions
    rw [TypeShape.eq_of_mentions_namedType mentions]
    exact name.isName
  | .array element rank after => by
    rw [BareRankedType.text, BareRankedType.isSound]
    by_cases unranked : rank.text = []
    · rw [rank.resolve_suffix after unranked, unranked, List.isEmpty_nil, Bool.true_or,
        Bool.and_true]
      exact element.isJudged
    rw [List.isEmpty_eq_false_iff.mpr unranked, Bool.false_or]
    -- The suffix is lost behind angle brackets, and taken for a part of the name behind a name.
    cases applied : element.isApplied with
    | true =>
      rw [Bool.and_true]
      refine ((element.applies applied).append _).isJudged
        (BareRankedType.array element rank after).unmarked ?_
      rw [rank.append_suffix]
      exact dropEnd?_brackets_of_loose (rank.getLast?_append_ne unranked _) after.blank
    | false =>
      rw [Bool.and_false]
      exact rank.refersLoosely after unranked (element.not_mem_of_not_isApplied applied)
  | .wrapper name isWrapper argument after =>
    (applies_wrapper name isWrapper argument after argument.isJudged).isJudged
      (BareRankedType.wrapper name isWrapper argument after).unmarked
      (dropEnd?_trim_of_ne rfl (by decide) (by decide) after.blank _)
  | .generic name notWrapper arguments after =>
    (applies_generic name notWrapper arguments after arguments.areToldBy).isJudged
      (BareRankedType.generic name notWrapper arguments after).unmarked
      (dropEnd?_trim_of_ne rfl (by decide) (by decide) after.blank _)

theorem RankedType.applies : (type : RankedType) → type.isApplied = true →
    Applies type.isSound type.text
  | .bare type, applied => type.applies applied
  | .nullable type _, applied => (type.applies applied).append _

theorem BareRankedType.applies : (type : BareRankedType) → type.isApplied = true →
    Applies type.isSound type.text
  | .name _, applied => by cases applied
  | .array element rank after, applied => by
    have elementApplied : element.isApplied = true := applied
    rw [BareRankedType.isSound, elementApplied, Bool.or_true, Bool.and_true]
    exact (element.applies applied).append _
  | .wrapper name isWrapper argument after, _ =>
    applies_wrapper name isWrapper argument after argument.isJudged
  | .generic name notWrapper arguments after, _ =>
    applies_generic name notWrapper arguments after arguments.areToldBy

theorem RankedArguments.areToldBy : (arguments : RankedArguments) →
    AreToldBy arguments.parts
      (arguments.texts.flatMap fun text => (Bracket.angle.slices ',' 0 text).map trim)
  | .one argument => by
    rw [RankedArguments.texts, List.flatMap_singleton]
    exact argument.areToldBy argument.isJudged
  | .more argument rest => by
    rw [RankedArguments.texts, List.flatMap_cons]
    refine (argument.areToldBy argument.isJudged).append rest.areToldBy ?_
    obtain ⟨first, others, same⟩ := rest.exists_texts
    rw [same, List.flatMap_cons]
    exact List.append_ne_nil_of_left_ne_nil
      (mt List.map_eq_nil_iff.mp (Bracket.slices_ne_nil _ _ _ _)) _

end

/-! ### Properties -/

/-- What a property comes to is as the soundness of its type says. -/
theorem isJudged_resolveMember (type : RankedType) (name : List Char) :
    (resolveMember name type.text).type.IsJudged type.isSound := by
  cases type with
  | nullable type after =>
    have inner : resolve (trimEnd (trimStart type.text)) = resolve type.text :=
      resolve_of_trim_eq (trim_trim type.text)
    rw [resolveMember, MemberType.of, RankedType.text, dropEnd?_mark _ after.blank]
    dsimp only
    rw [inner]
    exact type.isJudged
  | bare type =>
    have whole : resolve (trim type.text) = resolve type.text :=
      resolve_of_trim_eq (trim_trim type.text)
    rw [resolveMember, RankedType.text]
    cases applied : type.isApplied with
    | false =>
      rw [MemberType.of_unwrapped type.unmarked (.inl (type.not_mem_of_not_isApplied applied))]
      dsimp only
      rw [whole]
      exact type.isJudged
    | true =>
      obtain ⟨_, front, interior, behind, written, balanced, same, judged⟩ := type.applies applied
      have found := genericText_generic written balanced behind
      rw [← same] at found
      rw [MemberType.of_wrapped type.unmarked found]
      cases named : wrapperNames.contains (trim front) with
      | false =>
        rw [if_neg Bool.false_ne_true]
        dsimp only
        rw [whole]
        exact type.isJudged
      | true =>
        -- What the wrapper encloses is resolved on its own, without the suffixes behind it.
        have isWrapper := lastSegment_of_mem_wrapperNames _ (List.contains_iff_mem.mp named)
        rw [ofGeneric_wrapper isWrapper] at judged
        rw [if_pos rfl]
        dsimp only
        rw [resolve_of_trim_eq (trim_trim interior)]
        exact judged

/-- The written type of a property is a sentence of the grammar of types exactly if its type
expression is sound, as it is with plain array suffixes only. -/
theorem sentence_renderType_iff_isSound (type : RankedType) (name : List Char) :
    (Sentence .member (resolveMember name type.text).renderType ↔ type.isSound = true) ∧
      (type.isPlain = true → Sentence .member (resolveMember name type.text).renderType) := by
  have sound : Sentence .member (resolveMember name type.text).renderType ↔ type.isSound = true :=
    Member.sentence_renderType_iff (isJudged_resolveMember type name)
  exact ⟨sound, fun plain => sound.mpr (type.isSound_of_isPlain plain)⟩

/-- A dictionary with a nullable array of nullable values. -/
theorem sentence_renderType_of_dictionary :
    Sentence .member
      (resolveMember "Scores".toList "Dictionary<Guid , int? []>?".toList).renderType := by
  let close : Spacing := ⟨[], blank_nil⟩
  let wide : Spacing := ⟨[' '], by decide⟩
  let dictionary : ProperName := ⟨⟨⟨[], ⟨"Dictionary".toList, by decide, by decide⟩⟩,
    "Dictionary".toList, .last blank_nil blank_nil⟩, by decide⟩
  let guid : ProperName := ⟨⟨⟨[], ⟨"Guid".toList, by decide, by decide⟩⟩, "Guid ".toList,
    .last blank_nil wide.blank⟩, by decide⟩
  let int : ProperName := ⟨⟨⟨[], ⟨"int".toList, by decide, by decide⟩⟩, " int".toList,
    .last wide.blank blank_nil⟩, by decide⟩
  let values : RankedType := .bare (.array (.nullable (.name int) wide) ⟨[], by decide⟩ close)
  let type : RankedType := .nullable
    (.generic dictionary (by decide) (.more (.bare (.name guid)) (.one values)) close) close
  exact (sentence_renderType_iff_isSound type "Scores".toList).2 (by decide)

/-- An array with two dimensions is taken for a name. -/
theorem not_sentence_renderType_of_grid :
    (resolveMember "Grid".toList "int[,]".toList).renderType = "int[,]".toList ∧
      ¬ Sentence .member (resolveMember "Grid".toList "int[,]".toList).renderType := by
  have bare : MemberType.of "int[,]".toList = ⟨"int[,]".toList, false⟩ := by decide
  have shape : TypeShape.of (bareType "int[,]".toList) = .plain "int[,]".toList := by decide
  have named : namedType "int[,]".toList = .reference "int[,]".toList [] := by decide
  have written : (resolveMember "Grid".toList "int[,]".toList).renderType = "int[,]".toList := by
    rw [resolveMember, bare, resolve_eq, shape]
    dsimp only [TypeShape.combine]
    rw [named]
    decide
  refine ⟨written, fun sentence => ?_⟩
  have opened := sentence.paired "int[,".toList [] written
  exact absurd opened (by decide)

end SharpTypes.Source

/-
Where the names stand that a type expression refers to. Whatever a text is taken for, each name that
it comes to refer to is the last segment of a name, qualified or not, that stands in the text on its
own: a layer is cut at brackets, commas, marks and blanks, and none of them belongs to a name.
-/

import Mathlib.Data.List.Basic
import Mathlib.Tactic.Common
import SharpTypes.Proofs.Output.ImportBlock
import SharpTypes.Proofs.Source.TypeMeaning
import SharpTypes.Proofs.Text.Standing

namespace SharpTypes.Source

open Text

/-! ### Parts of a layer -/

theorem standsIn_bareType (text : List Char) : StandsIn (bareType text) text := by
  unfold bareType
  split
  · next inner marked =>
    obtain ⟨blank, isBlanks, same⟩ := exists_trimEnd_append_blank inner
    have inTrimmed : StandsIn (trimEnd inner) (trim text) := by
      refine ⟨[], blank ++ ['?'], ?_, .of_blank blank_nil,
        (LeavesAlone.of_blank isBlanks).append ?_⟩
      · rw [List.nil_append, ← List.append_assoc, ← same]
        exact dropEnd?_eq_some_iff.mp marked
      · decide
    exact inTrimmed.trans (standsIn_trim text)
  · exact standsIn_trim text

/-- The slices make up the text again. -/
theorem join_slices (bracket : Bracket) (separator : Char) (depth : Int) (text : List Char) :
    join [separator] (bracket.slices separator depth text) = text := by
  have grown (c : Char) {pieces : List (List Char)} (notEmpty : pieces ≠ []) :
      join [separator] (pieces.modifyHead (c :: ·)) = c :: join [separator] pieces := by
    obtain ⟨first, rest, rfl⟩ := List.exists_cons_of_ne_nil notEmpty
    cases rest with
    | nil => rfl
    | cons second others => rw [List.modifyHead_cons, join_cons_cons, join_cons_cons]; rfl
  have filled := Bracket.slices_ne_nil bracket separator
  induction text generalizing depth with
  | nil => rfl
  | cons c rest inductionHypothesis =>
    unfold Bracket.slices
    split_ifs with opens closes separates
    · rw [grown c (filled _ rest), inductionHypothesis]
    · rw [grown c (filled _ rest), inductionHypothesis]
    · obtain ⟨first, others, same⟩ := List.exists_cons_of_ne_nil (filled depth rest)
      rw [same, join_cons_cons, ← same, inductionHypothesis, separates.1]
      rfl
    · rw [grown c (filled _ rest), inductionHypothesis]

theorem standsIn_of_mem_typeArguments {text argument : List Char}
    (member : argument ∈ typeArguments text) : StandsIn argument text := by
  unfold typeArguments Bracket.split at member
  split at member
  · cases member
  · obtain ⟨slice, isSlice, rfl⟩ := List.mem_map.mp member
    have inText : StandsIn slice (join [','] (Bracket.angle.slices ',' 0 text)) :=
      standsIn_join (by decide) (by decide) (by decide) isSlice
    rw [join_slices] at inText
    exact (standsIn_trim slice).trans inText

namespace GenericText

variable {text : List Char} {generic : GenericText}

theorem exists_cut (found : of? text = some generic) :
    ∃ before rest, text = before ++ '<' :: rest ∧
      generic = ⟨trim before, (Bracket.angle.enclosed? ('<' :: rest)).map Prod.fst⟩ := by
  unfold of? at found
  split at found
  · cases found
  · next opened filled =>
    obtain rfl := Option.some.inj found
    refine ⟨beforeFirst '<' text, (text.dropWhile (· ≠ '<')).tail, ?_⟩
    cases kept : text.dropWhile (· ≠ '<') with
    | nil => exact absurd kept filled
    | cons c rest =>
      obtain rfl : c = '<' := by
        have stopped := List.head?_dropWhile_not (· ≠ '<') text
        rw [kept] at stopped
        simpa using stopped
      have cut : beforeFirst '<' text ++ text.dropWhile (· ≠ '<') = text :=
        List.takeWhile_append_dropWhile
      rw [kept] at cut
      exact ⟨cut.symm, rfl⟩

theorem standsIn_name (found : of? text = some generic) : StandsIn generic.name text := by
  obtain ⟨before, rest, rfl, rfl⟩ := exists_cut found
  refine (standsIn_trim before).trans ⟨[], '<' :: rest, rfl, .of_blank blank_nil, ?_⟩
  exact .of_mark (by decide) rest

theorem standsIn_interior (found : of? text = some generic) {interior : List Char}
    (inside : generic.interior = some interior) : StandsIn interior text := by
  obtain ⟨before, rest, rfl, rfl⟩ := exists_cut found
  obtain ⟨⟨_, behind⟩, enclosed, rfl⟩ := Option.map_eq_some_iff.mp inside
  refine ⟨before ++ ['<'], '>' :: behind, ?_, ?_, ?_⟩
  · rw [Bracket.eq_of_enclosed? enclosed]
    simp [Bracket.angle]
  · rw [List.reverse_append]
    exact .of_mark (by decide) _
  · exact .of_mark (by decide) behind

end GenericText

namespace TypeShape

/-- The name that a layer refers to by itself. -/
def name? : TypeShape → Option (List Char)
  | .generic name _ => some name
  | .plain name => some name
  | _ => none

/-! ### Layers -/

theorem standsIn_of_mem_inner_ofGeneric {text : List Char} {generic : GenericText}
    (found : GenericText.of? text = some generic) {piece : List Char}
    (member : piece ∈ (ofGeneric generic).inner) : StandsIn piece text := by
  have ofArguments (isArgument : piece ∈ (generic.interior.map typeArguments).getD []) :
      StandsIn piece text := by
    cases inside : generic.interior with
    | none =>
      rw [inside] at isArgument
      cases isArgument
    | some interior =>
      rw [inside] at isArgument
      exact (standsIn_of_mem_typeArguments isArgument).trans
        (GenericText.standsIn_interior found inside)
  unfold ofGeneric at member
  dsimp only at member
  split_ifs at member
  · exact ofArguments member
  · exact ofArguments member
  · split at member
    · next inner inside =>
      rw [List.mem_singleton.mp member]
      exact GenericText.standsIn_interior found inside
    · cases member
  · exact ofArguments (List.mem_filter.mp member).1

/-- What stands inside a layer stands there on its own. -/
theorem standsIn_of_mem_inner {text piece : List Char}
    (member : piece ∈ (TypeShape.of (bareType text)).inner) : StandsIn piece text := by
  refine StandsIn.trans ?_ (standsIn_bareType text)
  unfold TypeShape.of at member
  split at member
  · next element array =>
    rw [List.mem_singleton.mp member]
    refine ⟨[], "[]".toList, dropEnd?_eq_some_iff.mp array, .of_blank blank_nil, ?_⟩
    exact .of_mark (by decide) _
  · split at member
    · next generic found => exact standsIn_of_mem_inner_ofGeneric found member
    · cases member

theorem trim_bareType (text : List Char) : trim (bareType text) = bareType text := by
  unfold bareType
  split
  · next inner marked =>
    have ink := stops_isBlank_trim text
    rw [dropEnd?_eq_some_iff.mp marked] at ink
    have start : trimStart inner = inner := by
      refine trimStart_of_stops ?_
      cases inner with
      | nil => exact stops_nil _
      | cons c rest => exact ink
    rw [trim_trimEnd, trim, start]
  · exact trim_trim text

/-- The name of a layer is the last segment of a name that stands there on its own. -/
theorem exists_written_of_name? {text name : List Char}
    (named : (TypeShape.of (bareType text)).name? = some name) :
    ∃ written, StandsIn written text ∧ trim written = written ∧ lastSegment written = name := by
  unfold TypeShape.of at named
  split at named
  · cases named
  · split at named
    · next generic found =>
      refine ⟨generic.name,
        (GenericText.standsIn_name found).trans (standsIn_bareType text), ?_, ?_⟩
      · obtain ⟨before, _, _, rfl⟩ := GenericText.exists_cut found
        exact trim_trim before
      · unfold ofGeneric at named
        dsimp only at named
        split_ifs at named
        · cases named
        · cases named
        · split at named
          · cases named
          · exact Option.some.inj named
        · exact Option.some.inj named
    · exact ⟨bareType text, standsIn_bareType text, trim_bareType text, Option.some.inj named⟩

theorem eq_of_mentions_namedType {name other : List Char}
    (mentions : (namedType other).Mentions name) : name = other := by
  unfold namedType at mentions
  split at mentions
  · cases mentions
  · cases mentions with
    | here => rfl
    | argument _ isArgument => cases isArgument

/-- What a layer comes to refers to its own name or to what the texts inside refer to. -/
theorem mentions_of_combine {inside : List Char → Resolved} {shape : TypeShape} {name : List Char}
    (mentions : (shape.combine inside).type.Mentions name) :
    shape.name? = some name ∨ ∃ piece ∈ shape.inner, (inside piece).type.Mentions name := by
  unfold combine at mentions
  split at mentions
  case h_1 element => exact .inr ⟨element, List.mem_singleton_self _, mentions⟩
  case h_2 key value =>
    split at mentions
    · cases mentions with
      | value _ mentions => cases mentions
    · cases mentions with
      | value _ mentions => exact .inr ⟨value, by simp [inner], mentions⟩
  case h_3 =>
    cases mentions with
    | value _ mentions => cases mentions
  case h_4 element =>
    split at mentions
    · cases mentions
    · exact .inr ⟨element, List.mem_singleton_self _, mentions⟩
  case h_5 => cases mentions
  case h_6 inner => exact .inr ⟨inner, List.mem_singleton_self _, mentions⟩
  case h_7 name arguments =>
    cases mentions with
    | here => exact .inl rfl
    | argument _ isArgument mentions =>
      obtain ⟨piece, isPiece, rfl⟩ := List.mem_map.mp isArgument
      exact .inr ⟨piece, isPiece, mentions⟩
  case h_8 name => exact .inl (congrArg some (eq_of_mentions_namedType mentions).symm)

end TypeShape

/-- Each name that a text comes to refer to is the last segment of a name that stands in the text on
its own. -/
theorem exists_written_of_mentions {text name : List Char}
    (mentions : (resolve text).type.Mentions name) :
    ∃ written, StandsIn written text ∧ trim written = written ∧ lastSegment written = name := by
  rw [resolve_eq] at mentions
  rcases TypeShape.mentions_of_combine mentions with named | ⟨piece, isInside, mentioned⟩
  · exact TypeShape.exists_written_of_name? named
  · have shorter := TypeShape.length_lt_of_mem_inner isInside
    obtain ⟨written, stands, whole⟩ := exists_written_of_mentions mentioned
    exact ⟨written, stands.trans (TypeShape.standsIn_of_mem_inner isInside), whole⟩
termination_by text.length

end SharpTypes.Source

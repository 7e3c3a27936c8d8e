/-
What is left behind a match. Whatever is read at the start of a text, attributes, keywords, names or
a marker, what follows it is the end of the text.
-/

import Mathlib.Data.List.Infix
import Mathlib.Data.List.TakeWhile
import Mathlib.Tactic.Common
import SharpTypes.Proofs.Text.Blank
import SharpTypes.Source.Header
import SharpTypes.Source.Marker

namespace SharpTypes

open Text

variable {text rest : List Char}

/-! ### Words -/

theorem Text.suffix_of_dropStart? {start : List Char} (found : dropStart? start text = some rest) :
    rest <:+ text := by
  rw [dropStart?_eq_some_iff.mp found]
  exact List.suffix_append start rest

namespace Source

theorem suffix_of_afterKeyword? {keyword : List Char}
    (found : afterKeyword? keyword text = some rest) : rest <:+ text := by
  unfold afterKeyword? at found
  split at found
  · next c later given =>
    split at found
    · obtain rfl := Option.some.inj found
      exact ((trimStart_suffix later).trans (List.suffix_cons c later)).trans
        (suffix_of_dropStart? given)
    · cases found
  · cases found

theorem suffix_of_word? {word : List Char} (found : word? text = some (word, rest)) :
    rest <:+ text := by
  unfold word? at found
  split at found
  · cases found
  · obtain ⟨_, rfl⟩ := Prod.mk.inj (Option.some.inj found)
    exact List.dropWhile_suffix isWord

/-! ### Headers -/

namespace Header

theorem suffix_of_afterAttribute? (found : afterAttribute? text = some rest) : rest <:+ text := by
  unfold afterAttribute? at found
  split at found
  · next inside opened =>
    split at found
    · next c later given =>
      obtain rfl := Option.some.inj found
      have inInside : c :: later <:+ inside := by
        rw [← given]
        exact List.dropWhile_suffix _
      have inText : '[' :: inside <:+ text := by
        rw [← opened]
        exact trimStart_suffix text
      exact (((List.suffix_cons c later).trans inInside).trans (List.suffix_cons '[' inside)).trans
        inText
    · cases found
  · cases found

theorem afterAttributes_suffix (text : List Char) : afterAttributes text <:+ text := by
  fun_induction afterAttributes text with
  | case1 text rest found inductionHypothesis =>
    exact inductionHypothesis.trans (suffix_of_afterAttribute? found)
  | case2 text _ => exact List.suffix_rfl

theorem afterClassModifiers_suffix (text : List Char) : afterClassModifiers text <:+ text := by
  fun_induction afterClassModifiers text with
  | case1 text rest found inductionHypothesis =>
    obtain ⟨_, _, holds⟩ := List.exists_of_findSome?_eq_some found
    exact inductionHypothesis.trans (suffix_of_afterKeyword? holds)
  | case2 text _ => exact List.suffix_rfl

theorem suffix_of_afterPublic? (found : afterPublic? text = some rest) : rest <:+ text :=
  ((suffix_of_afterKeyword? found).trans (trimStart_suffix _)).trans (afterAttributes_suffix text)

theorem suffix_of_enumeration? {name : List Char} (found : enumeration? text = some (name, rest)) :
    rest <:+ text := by
  obtain ⟨behind, found, named⟩ := Option.bind_eq_some_iff.mp found
  obtain ⟨opened, atPublic, found⟩ := Option.bind_eq_some_iff.mp found
  exact ((suffix_of_word? named).trans (suffix_of_afterKeyword? found)).trans
    (suffix_of_afterPublic? atPublic)

theorem suffix_of_object? {name : List Char} (found : object? text = some (name, rest)) :
    rest <:+ text := by
  obtain ⟨behind, found, named⟩ := Option.bind_eq_some_iff.mp found
  obtain ⟨opened, atPublic, found⟩ := Option.bind_eq_some_iff.mp found
  exact (((suffix_of_word? named).trans (suffix_of_afterKeyword? found)).trans
    (afterClassModifiers_suffix opened)).trans (suffix_of_afterPublic? atPublic)

theorem suffix_of_qualifiedName? {name : List Char}
    (found : qualifiedName? text = some (name, rest)) : rest <:+ text := by
  cases text with
  | nil => cases found
  | cons first later =>
    rw [qualifiedName?] at found
    split at found
    · obtain ⟨_, rfl⟩ := Prod.mk.inj (Option.some.inj found)
      exact (List.dropWhile_suffix _).trans (List.suffix_cons first later)
    · cases found

end Header

/-! ### Markers -/

namespace Marker

theorem suffix_of_afterArguments? (found : afterArguments? text = some rest) : rest <:+ text := by
  unfold afterArguments? at found
  split at found
  · next inside =>
    split at found
    · next after given =>
      obtain rfl := Option.some.inj found
      have inInside : ')' :: after <:+ inside := by
        rw [← given]
        exact List.dropWhile_suffix _
      exact ((List.suffix_cons ')' after).trans inInside).trans (List.suffix_cons '(' inside)
    · cases found
  · cases found

theorem suffix_of_afterName? (found : afterName? text = some rest) : rest <:+ text := by
  unfold afterName? at found
  dsimp only at found
  -- What may be there leaves the end of the text, also where it is not there.
  have optional {after : List Char → Option (List Char)}
      (isEnd : ∀ {text rest : List Char}, after text = some rest → rest <:+ text)
      (text : List Char) : trimStart ((after text).getD text) <:+ text := by
    refine (trimStart_suffix _).trans ?_
    cases given : after text with
    | none => exact List.suffix_rfl
    | some behind => exact isEnd given
  have suffixed : trimStart ((dropStart? "Attribute".toList text).getD text) <:+ text :=
    optional suffix_of_dropStart? text
  have closing := (optional suffix_of_afterArguments? _).trans suffixed
  split at found
  · next behind given =>
    obtain rfl := Option.some.inj found
    rw [given] at closing
    exact (List.suffix_cons ']' behind).trans closing
  · cases found

theorem suffix_of_after? {name : List Char} (found : after? name text = some rest) :
    rest <:+ text := by
  unfold after? at found
  split at found
  · next opened =>
    obtain ⟨skipped, _, holds⟩ := List.exists_of_findSome?_eq_some found
    obtain ⟨named, given, closed⟩ := Option.bind_eq_some_iff.mp holds
    exact (((suffix_of_afterName? closed).trans (suffix_of_dropStart? given)).trans
      (List.drop_suffix skipped opened)).trans (List.suffix_cons '[' opened)
  · cases found

theorem suffix_of_mem_occurrencesFrom {name : List Char} {offset : Nat} {occurrence : Occurrence}
    (member : occurrence ∈ occurrencesFrom name offset text) : occurrence.rest <:+ text := by
  fun_induction occurrencesFrom name offset text with
  | case1 => cases member
  | case2 offset c later rest found marker inductionHypothesis =>
    rcases List.mem_cons.mp member with rfl | further
    · exact suffix_of_after? found
    · exact (inductionHypothesis further).trans (suffix_of_after? found)
  | case3 offset c later _ inductionHypothesis =>
    exact (inductionHypothesis member).trans (List.suffix_cons c later)

end Marker

end Source

end SharpTypes

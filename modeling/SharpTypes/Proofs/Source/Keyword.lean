/-
Keywords at the start of a text. A keyword is read only where it is the whole word that stands
there, so that of several keywords at most one is read.
-/

import Mathlib.Data.List.Infix
import Mathlib.Tactic.Common
import SharpTypes.Proofs.Source.Listing

namespace SharpTypes.Source

open Text

theorem dropStart?_append (start rest : List Char) : dropStart? start (start ++ rest) = some rest :=
  dropStart?_eq_some_iff.mpr rfl

theorem dropStart?_eq_none_of_head {start text : List Char} {c : Char}
    (first : start.head? = some c) (different : text.head? ≠ some c) :
    dropStart? start text = none := by
  rw [Option.eq_none_iff_forall_not_mem]
  intro rest found
  obtain ⟨later, rfl⟩ := List.head?_eq_some_iff.mp first
  rw [dropStart?_eq_some_iff.mp found] at different
  exact different rfl

/-- If only one of some candidates yields anything, that is what is found. -/
theorem findSome?_of_unique {α β : Type} {candidates : List α} {yields : α → Option β} {chosen : α}
    {result : β} (isCandidate : chosen ∈ candidates) (found : yields chosen = some result)
    (others : ∀ other ∈ candidates, other ≠ chosen → yields other = none) :
    candidates.findSome? yields = some result := by
  induction candidates with
  | nil => cases isCandidate
  | cons first rest inductionHypothesis =>
    obtain ⟨ofFirst, ofRest⟩ := List.forall_mem_cons.mp others
    by_cases same : first = chosen
    · rw [List.findSome?_cons, same, found]
    · rw [List.findSome?_cons, ofFirst same]
      refine inductionHypothesis ?_ ofRest
      exact (List.mem_cons.mp isCandidate).resolve_left (Ne.symm same)

theorem afterKeyword?_append (keyword : List Char) {gap rest : List Char} (blank : Blank gap)
    (notEmpty : gap ≠ []) (stops : Stops isBlank rest) :
    afterKeyword? keyword (keyword ++ gap ++ rest) = Option.some rest := by
  obtain ⟨c, later, rfl⟩ := List.exists_cons_of_ne_nil notEmpty
  rw [afterKeyword?, List.append_assoc, dropStart?_append]
  dsimp only [List.cons_append]
  rw [if_pos (blank c List.mem_cons_self), trimStart_append_of_stops _ stops]
  exact fun other member => blank other (List.mem_cons_of_mem c member)

/-- A keyword that is read stands at the start, with blanks behind it. -/
theorem exists_of_afterKeyword? {keyword text rest : List Char}
    (found : afterKeyword? keyword text = some rest) :
    ∃ gap, Blank gap ∧ gap ≠ [] ∧ text = keyword ++ gap ++ rest := by
  unfold afterKeyword? at found
  split at found
  · next c later given =>
    split at found
    · next blank =>
      obtain rfl := Option.some.inj found
      obtain ⟨more, isBlanks, same⟩ := exists_blank_append_trimStart later
      refine ⟨c :: more, List.forall_mem_cons.mpr ⟨blank, isBlanks⟩, List.cons_ne_nil c more, ?_⟩
      rw [dropStart?_eq_some_iff.mp given, List.append_assoc, List.cons_append, ← same]
    · cases found
  · cases found

theorem afterKeyword?_eq_none {keyword word rest : List Char} (keywordWord : IsWordText keyword)
    (isWordText : IsWordText word) (stops : Stops isWord rest) (different : keyword ≠ word) :
    afterKeyword? keyword (word ++ rest) = none := by
  unfold afterKeyword?
  split
  · next c later found =>
    split
    · next blank =>
      refine absurd (word_eq_of_append_eq isWordText keywordWord stops ?_
        (dropStart?_eq_some_iff.mp found)).symm different
      exact stops_cons (isWord_of_isBlank blank) later
    · rfl
  · rfl

/-- Where one of some keywords stands, it is the one that is read. -/
theorem findSome?_afterKeyword? {β : Type} {keywords : List (List Char)}
    (words : ∀ keyword ∈ keywords, IsWordText keyword) (yields : List Char → List Char → β)
    {keyword gap rest : List Char} (known : keyword ∈ keywords) (blank : Blank gap)
    (notEmpty : gap ≠ []) (stops : Stops isBlank rest) :
    keywords.findSome? (fun candidate =>
        (afterKeyword? candidate (keyword ++ gap ++ rest)).map (yields candidate)) =
      Option.some (yields keyword rest) := by
  refine findSome?_of_unique known ?_ ?_
  · rw [afterKeyword?_append keyword blank notEmpty stops]
    rfl
  · intro other isOther different
    rw [List.append_assoc, afterKeyword?_eq_none (words other isOther) (words keyword known)
      (stops_gap_append blank notEmpty rest) different]
    rfl

/-- Where another word stands, none of the keywords is read. -/
theorem findSome?_afterKeyword?_eq_none {β : Type} {keywords : List (List Char)}
    (words : ∀ keyword ∈ keywords, IsWordText keyword) (yields : List Char → List Char → β)
    {word rest : List Char} (isWordText : IsWordText word) (stops : Stops isWord rest)
    (unknown : word ∉ keywords) :
    keywords.findSome? (fun candidate =>
      (afterKeyword? candidate (word ++ rest)).map (yields candidate)) = none := by
  rw [List.findSome?_eq_none_iff]
  intro keyword known
  have different : keyword ≠ word := fun same => unknown (same ▸ known)
  rw [afterKeyword?_eq_none (words keyword known) isWordText stops different]
  rfl

namespace Listing

variable {words : List (List Char)}

theorem stops_modifier (isWords : ∀ word ∈ words, word ≠ [] ∧ IsWordText word)
    (modifier : ModifierText words) (rest : List Char) :
    Stops isBlank (modifier.text ++ rest) := by
  obtain ⟨notEmpty, isWordText⟩ := isWords modifier.word modifier.known
  obtain ⟨c, later, same⟩ := List.exists_cons_of_ne_nil notEmpty
  rw [ModifierText.text, same]
  exact stops_cons (isBlank_of_isWord (isWordText c (same ▸ List.mem_cons_self))) _

/-- Where modifiers stand, or else something that is no blank, no blank stands. -/
theorem stops_modifiers (isWords : ∀ word ∈ words, word ≠ [] ∧ IsWordText word)
    (modifiers : List (ModifierText words)) {rest : List Char} (stops : Stops isBlank rest) :
    Stops isBlank (modifiers.flatMap ModifierText.text ++ rest) := by
  cases modifiers with
  | nil => exact stops
  | cons modifier others =>
    rw [List.flatMap_cons, List.append_assoc]
    exact stops_modifier isWords modifier _

end Listing

end SharpTypes.Source

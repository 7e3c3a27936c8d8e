/-
Balanced text. In a text whose brackets match, the search for a closing bracket passes over the
whole text, and so does the splitting of a list if there is no separator outside the brackets. A
list of such texts is therefore cut exactly where it was joined.
-/

import Mathlib.Data.List.Basic
import Mathlib.Tactic.Common
import SharpTypes.Proofs.Text.Blank
import SharpTypes.Proofs.Text.Separator
import SharpTypes.Source.Bracket

namespace SharpTypes.Source.Bracket

open Text

/-- The brackets in a text match, and only characters of the given kind stand outside them. -/
inductive Balanced (bracket : Bracket) : (Char → Prop) → List Char → Prop where
  | nil {outside : Char → Prop} : Balanced bracket outside []
  | plain {outside : Char → Prop} {c : Char} {rest : List Char} (allowed : outside c)
      (notOpening : c ≠ bracket.opening) (notClosing : c ≠ bracket.closing)
      (balanced : Balanced bracket outside rest) : Balanced bracket outside (c :: rest)
  | enclosed {outside : Char → Prop} {inner rest : List Char}
      (inside : Balanced bracket (fun _ => True) inner)
      (balanced : Balanced bracket outside rest) :
      Balanced bracket outside (bracket.opening :: inner ++ bracket.closing :: rest)

variable {bracket : Bracket} {outside : Char → Prop} {text : List Char}

theorem Balanced.append {left right : List Char} (balanced : Balanced bracket outside left)
    (behind : Balanced bracket outside right) : Balanced bracket outside (left ++ right) := by
  induction balanced with
  | nil => exact behind
  | plain allowed notOpening notClosing _ inductionHypothesis =>
    exact .plain allowed notOpening notClosing (inductionHypothesis behind)
  | enclosed inside _ _ inductionHypothesis =>
    rw [List.append_assoc]
    exact .enclosed inside (inductionHypothesis behind)

theorem Balanced.mono {wider : Char → Prop} (balanced : Balanced bracket outside text)
    (widens : ∀ c, outside c → wider c) : Balanced bracket wider text := by
  induction balanced with
  | nil => exact .nil
  | plain allowed notOpening notClosing _ inductionHypothesis =>
    exact .plain (widens _ allowed) notOpening notClosing (inductionHypothesis widens)
  | enclosed inside _ _ inductionHypothesis => exact .enclosed inside (inductionHypothesis widens)

theorem balanced_of_forall
    (plain : ∀ c ∈ text, outside c ∧ c ≠ bracket.opening ∧ c ≠ bracket.closing) :
    Balanced bracket outside text := by
  induction text with
  | nil => exact .nil
  | cons c rest inductionHypothesis =>
    obtain ⟨⟨allowed, notOpening, notClosing⟩, others⟩ := List.forall_mem_cons.mp plain
    exact .plain allowed notOpening notClosing (inductionHypothesis others)

theorem balanced_of_not_mem (unopened : bracket.opening ∉ text)
    (unclosed : bracket.closing ∉ text) : Balanced bracket (fun _ => True) text := by
  refine balanced_of_forall fun c member => ⟨trivial, ?_, ?_⟩ <;> rintro rfl
  · exact unopened member
  · exact unclosed member

/-- Behind each opening bracket of a balanced text a closing one follows. -/
theorem Balanced.closing_mem (different : bracket.opening ≠ bracket.closing)
    (balanced : Balanced bracket outside text) {front behind : List Char}
    (opened : text = front ++ bracket.opening :: behind) : bracket.closing ∈ behind := by
  induction balanced generalizing front with
  | nil => simp at opened
  | plain _ notOpening _ _ inductionHypothesis =>
    cases front with
    | nil => exact absurd (List.cons.inj opened).1 notOpening
    | cons _ front => exact inductionHypothesis (List.cons.inj opened).2
  | @enclosed _ inner rest _ _ _ inductionHypothesis =>
    cases front with
    | nil =>
      obtain rfl := (List.cons.inj opened).2
      simp
    | cons _ front =>
      rcases List.append_eq_append_iff.mp (List.cons.inj opened).2 with
        ⟨others, -, same⟩ | ⟨others, -, same⟩
      · -- The bracket stands behind the enclosed part.
        cases others with
        | nil => exact absurd (List.cons.inj same).1.symm different
        | cons _ others => exact inductionHypothesis (List.cons.inj same).2
      · -- It stands inside, and the closing one is that of the enclosed part at the latest.
        cases others with
        | nil => exact absurd (List.cons.inj same).1 different
        | cons _ others =>
          rw [(List.cons.inj same).2]
          simp

/-- What may not stand outside of brackets has an opening one in front of it. -/
theorem Balanced.opening_mem (balanced : Balanced bracket outside text) {c : Char}
    (notOpening : c ≠ bracket.opening) (forbidden : ¬ outside c) {front behind : List Char}
    (split : text = front ++ c :: behind) : bracket.opening ∈ front := by
  induction balanced generalizing front with
  | nil => simp at split
  | plain allowed _ _ _ inductionHypothesis =>
    cases front with
    | nil => exact absurd allowed ((List.cons.inj split).1 ▸ forbidden)
    | cons _ front =>
      exact List.mem_cons_of_mem _ (inductionHypothesis forbidden (List.cons.inj split).2)
  | enclosed _ _ _ _ =>
    cases front with
    | nil => exact absurd (List.cons.inj split).1.symm notOpening
    | cons _ front => exact (List.cons.inj split).1 ▸ List.mem_cons_self

/-- At the end of a balanced text, no more brackets are opened than closed. -/
theorem Balanced.count_le (different : bracket.opening ≠ bracket.closing)
    (balanced : Balanced bracket outside text) {front behind : List Char}
    (split : text = front ++ behind) :
    behind.count bracket.opening ≤ behind.count bracket.closing := by
  induction balanced generalizing front behind with
  | nil =>
    obtain ⟨-, rfl⟩ := List.append_eq_nil_iff.mp split.symm
    rfl
  | plain _ notOpening notClosing _ inductionHypothesis =>
    cases front with
    | nil =>
      rw [← List.nil_append behind, ← split, List.count_cons_of_ne notOpening,
        List.count_cons_of_ne notClosing]
      exact inductionHypothesis (List.nil_append _).symm
    | cons _ front => exact inductionHypothesis (List.cons.inj split).2
  | @enclosed _ inner rest _ _ insideHypothesis inductionHypothesis =>
    have ofRest := inductionHypothesis (List.nil_append rest).symm
    have closed : (bracket.closing :: rest).count bracket.opening + 1 ≤
        (bracket.closing :: rest).count bracket.closing := by
      rw [List.count_cons_of_ne different.symm, List.count_cons_self]
      exact Nat.succ_le_succ ofRest
    cases front with
    | nil =>
      have ofInner := insideHypothesis (List.nil_append inner).symm
      rw [← List.nil_append behind, ← split, List.cons_append, List.count_cons_self,
        List.count_append, List.count_cons_of_ne different, List.count_append]
      omega
    | cons _ front =>
      -- The end starts behind the enclosed text, at its closing bracket or later, or inside of it.
      rcases List.append_eq_append_iff.mp (List.cons.inj split).2 with
        ⟨others, -, same⟩ | ⟨others, sameInner, rfl⟩
      · cases others with
        | nil =>
          obtain rfl := same
          exact Nat.le_of_succ_le closed
        | cons _ others => exact inductionHypothesis (List.cons.inj same).2
      · have ofOthers := insideHypothesis sameInner
        rw [List.count_append, List.count_append]
        omega

/-! ### The closing bracket -/

theorem untilClosing_opening (bracket : Bracket) (depth : Nat) (rest : List Char) :
    untilClosing bracket depth (bracket.opening :: rest) =
      (untilClosing bracket (depth + 1) rest).map fun found =>
        (bracket.opening :: found.1, found.2) := by
  rw [untilClosing.eq_def]
  exact if_pos rfl

theorem untilClosing_closing (different : bracket.opening ≠ bracket.closing) (depth : Nat)
    (rest : List Char) :
    untilClosing bracket (depth + 1) (bracket.closing :: rest) =
      (untilClosing bracket depth rest).map fun found =>
        (bracket.closing :: found.1, found.2) := by
  rw [untilClosing, if_neg different.symm, if_pos rfl]

theorem untilClosing_cons {c : Char} (notOpening : c ≠ bracket.opening)
    (notClosing : c ≠ bracket.closing) (depth : Nat) (rest : List Char) :
    untilClosing bracket depth (c :: rest) =
      (untilClosing bracket depth rest).map fun found => (c :: found.1, found.2) := by
  rw [untilClosing.eq_def]
  dsimp only
  rw [if_neg notOpening, if_neg notClosing]

/-- The search for a closing bracket passes over a balanced text, at whatever depth. -/
theorem untilClosing_append (different : bracket.opening ≠ bracket.closing)
    (balanced : Balanced bracket outside text) (depth : Nat) (rest : List Char) :
    untilClosing bracket depth (text ++ rest) =
      (untilClosing bracket depth rest).map fun found => (text ++ found.1, found.2) := by
  induction balanced generalizing depth rest with
  | nil => simp
  | plain _ notOpening notClosing _ inductionHypothesis =>
    rw [List.cons_append, untilClosing_cons notOpening notClosing, inductionHypothesis,
      Option.map_map]
    rfl
  | enclosed _ _ insideHypothesis inductionHypothesis =>
    rw [List.append_assoc, List.cons_append, untilClosing_opening, insideHypothesis,
      List.cons_append, untilClosing_closing different, inductionHypothesis]
    simp only [Option.map_map]
    congr 1
    funext found
    simp

/-- The bracket that closes a balanced text is the one right behind it. -/
theorem untilClosing_of_balanced (different : bracket.opening ≠ bracket.closing)
    (balanced : Balanced bracket outside text) (rest : List Char) :
    untilClosing bracket 0 (text ++ bracket.closing :: rest) = some (text, rest) := by
  rw [untilClosing_append different balanced, untilClosing, if_neg different.symm, if_pos rfl]
  simp

theorem enclosed?_of_balanced (different : bracket.opening ≠ bracket.closing)
    (balanced : Balanced bracket outside text) (rest : List Char) :
    bracket.enclosed? (bracket.opening :: text ++ bracket.closing :: rest) = some (text, rest) := by
  rw [List.cons_append, enclosed?, if_pos rfl, untilClosing_of_balanced different balanced]

/-! ### Splitting -/

theorem slices_ne_nil (bracket : Bracket) (separator : Char) (depth : Int) (text : List Char) :
    bracket.slices separator depth text ≠ [] := by
  induction text generalizing depth with
  | nil => exact List.cons_ne_nil _ _
  | cons c rest inductionHypothesis =>
    unfold slices
    split_ifs <;> simp [inductionHypothesis]

/-- Inside brackets no separator counts. -/
theorem slices_append_inside (different : bracket.opening ≠ bracket.closing) (separator : Char)
    (balanced : Balanced bracket outside text) {depth : Int} (deep : 0 < depth)
    (rest : List Char) :
    slices bracket separator depth (text ++ rest) =
      (slices bracket separator depth rest).modifyHead (text ++ ·) := by
  induction balanced generalizing depth rest with
  | nil => exact congrFun List.modifyHead_id.symm _
  | plain _ notOpening notClosing _ inductionHypothesis =>
    have notZero : depth ≠ 0 := Int.ne_of_gt deep
    rw [List.cons_append, slices, if_neg notOpening, if_neg notClosing,
      if_neg fun both => notZero both.2, inductionHypothesis deep, List.modifyHead_modifyHead]
    rfl
  | enclosed _ _ insideHypothesis inductionHypothesis =>
    rw [List.append_assoc, List.cons_append, slices, if_pos rfl,
      insideHypothesis (Int.add_pos_of_pos_of_nonneg deep Int.one_nonneg), List.cons_append, slices,
      if_neg different.symm, if_pos rfl, Int.add_sub_cancel, inductionHypothesis deep]
    simp only [List.modifyHead_modifyHead]
    congr 1
    funext found
    simp

/-- A balanced text without separators outside its brackets belongs to one slice. -/
theorem slices_append (different : bracket.opening ≠ bracket.closing) {separator : Char}
    (balanced : Balanced bracket (· ≠ separator) text) (rest : List Char) :
    slices bracket separator 0 (text ++ rest) =
      (slices bracket separator 0 rest).modifyHead (text ++ ·) := by
  generalize shelter : (fun c => c ≠ separator) = outside at balanced
  induction balanced generalizing rest with
  | nil => exact congrFun List.modifyHead_id.symm _
  | plain allowed notOpening notClosing _ inductionHypothesis =>
    subst shelter
    rw [List.cons_append, slices, if_neg notOpening, if_neg notClosing,
      if_neg fun both => allowed both.1, inductionHypothesis rest rfl, List.modifyHead_modifyHead]
    rfl
  | enclosed inside _ _ inductionHypothesis =>
    rw [List.append_assoc, List.cons_append, slices, if_pos rfl,
      slices_append_inside different separator inside (by decide), List.cons_append, slices,
      if_neg different.symm, if_pos rfl, Int.add_sub_cancel, inductionHypothesis rest shelter]
    simp only [List.modifyHead_modifyHead]
    congr 1
    funext found
    simp

theorem slices_of_balanced (different : bracket.opening ≠ bracket.closing) {separator : Char}
    (balanced : Balanced bracket (· ≠ separator) text) :
    slices bracket separator 0 text = [text] := by
  have whole := slices_append different balanced []
  rwa [List.append_nil, slices, List.modifyHead_cons, List.append_nil] at whole

theorem slices_append_separator (different : bracket.opening ≠ bracket.closing) {separator : Char}
    (notOpening : separator ≠ bracket.opening) (notClosing : separator ≠ bracket.closing)
    (balanced : Balanced bracket (· ≠ separator) text) (rest : List Char) :
    slices bracket separator 0 (text ++ separator :: rest) =
      text :: slices bracket separator 0 rest := by
  rw [slices_append different balanced, slices, if_neg notOpening, if_neg notClosing,
    if_pos ⟨rfl, rfl⟩, List.modifyHead_cons, List.append_nil]

/-- A list of balanced texts is cut where it was joined. -/
theorem slices_join (different : bracket.opening ≠ bracket.closing) {separator : Char}
    (notOpening : separator ≠ bracket.opening) (notClosing : separator ≠ bracket.closing)
    {texts : List (List Char)} (notEmpty : texts ≠ [])
    (balanced : ∀ text ∈ texts, Balanced bracket (· ≠ separator) text) :
    slices bracket separator 0 (join [separator] texts) = texts := by
  induction texts with
  | nil => exact absurd rfl notEmpty
  | cons first rest inductionHypothesis =>
    obtain ⟨balancedFirst, balancedRest⟩ := List.forall_mem_cons.mp balanced
    cases rest with
    | nil => rw [join_singleton, slices_of_balanced different balancedFirst]
    | cons second others =>
      rw [join_cons_cons, List.append_assoc, List.singleton_append,
        slices_append_separator different notOpening notClosing balancedFirst,
        inductionHypothesis (List.cons_ne_nil _ _) balancedRest]

/-- The parts of such a list are the texts, trimmed. -/
theorem split_join (different : bracket.opening ≠ bracket.closing) {separator : Char}
    (notOpening : separator ≠ bracket.opening) (notClosing : separator ≠ bracket.closing)
    {texts : List (List Char)} (balanced : ∀ text ∈ texts, Balanced bracket (· ≠ separator) text)
    (inked : Inked (join [separator] texts)) :
    bracket.split separator (join [separator] texts) = texts.map trim := by
  have notEmpty : texts ≠ [] := by
    rintro rfl
    obtain ⟨_, member, _⟩ := inked
    cases member
  rw [split, if_neg, slices_join different notOpening notClosing notEmpty balanced]
  rw [all_isBlank_of_inked inked]
  exact Bool.false_ne_true

end SharpTypes.Source.Bracket

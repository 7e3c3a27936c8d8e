/-
Splitting is the inverse of joining. Along a text the depth rises with each opening bracket and
falls with each closing one, below zero if need be, and a list is cut at the separators at depth
zero. So the parts are the trimmed slices between those separators, a list of parts that each end at
the depth they start at is got back from its join, and the parts of a nested text are nested.
-/

import Mathlib.Data.List.Basic
import Mathlib.Data.List.Forall2
import Mathlib.Tactic.Common
import SharpTypes.Proofs.Checked.Access
import SharpTypes.Proofs.Source.Balance

namespace SharpTypes.Source.Bracket

open Text

/-- Brackets and separators that are told from each other and from blanks. -/
structure Delimits (bracket : Bracket) (separator : Char) : Prop where
  different : bracket.opening ≠ bracket.closing
  notOpening : separator ≠ bracket.opening
  notClosing : separator ≠ bracket.closing
  inkedOpening : isBlank bracket.opening = false
  inkedClosing : isBlank bracket.closing = false
  inkedSeparator : isBlank separator = false

/-! ### Depth -/

/-- By how much the depth rises along a text: how many more brackets are opened than closed. -/
def rise (bracket : Bracket) (text : List Char) : Int :=
  text.count bracket.opening - text.count bracket.closing

/-- By how much the depth rises at a character. -/
def weight (bracket : Bracket) (c : Char) : Int :=
  if c = bracket.opening then 1 else if c = bracket.closing then -1 else 0

variable {bracket : Bracket} {separator : Char}

@[simp] theorem rise_nil : bracket.rise [] = 0 := rfl

theorem rise_append (left right : List Char) :
    bracket.rise (left ++ right) = bracket.rise left + bracket.rise right := by
  simp only [rise, List.count_append]
  omega

theorem rise_cons (different : bracket.opening ≠ bracket.closing) (c : Char) (rest : List Char) :
    bracket.rise (c :: rest) = bracket.weight c + bracket.rise rest := by
  simp only [rise, weight, List.count_cons, beq_iff_eq]
  split_ifs with opens closes
  · exact absurd (opens.symm.trans closes) different
  all_goals omega

theorem rise_of_not_mem {text : List Char} (unopened : bracket.opening ∉ text)
    (unclosed : bracket.closing ∉ text) : bracket.rise text = 0 := by
  rw [rise, List.count_eq_zero_of_not_mem unopened, List.count_eq_zero_of_not_mem unclosed]
  rfl

theorem weight_of_ne {c : Char} (notOpening : c ≠ bracket.opening)
    (notClosing : c ≠ bracket.closing) : bracket.weight c = 0 := by
  rw [weight, if_neg notOpening, if_neg notClosing]

/-- A balanced text ends at the depth it starts at. -/
theorem Balanced.rise_eq_zero {outside : Char → Prop} {text : List Char}
    (balanced : bracket.Balanced outside text) (different : bracket.opening ≠ bracket.closing) :
    bracket.rise text = 0 := by
  induction balanced with
  | nil => rfl
  | plain _ notOpening notClosing _ inductionHypothesis =>
    rw [rise_cons different, weight_of_ne notOpening notClosing, inductionHypothesis]
    rfl
  | enclosed _ _ insideHypothesis inductionHypothesis =>
    have opens : bracket.weight bracket.opening = 1 := if_pos rfl
    have closes : bracket.weight bracket.closing = -1 := by
      rw [weight, if_neg different.symm, if_pos rfl]
    rw [rise_append, rise_cons different, rise_cons different, opens, closes, insideHypothesis,
      inductionHypothesis]
    rfl

namespace Delimits

variable (delimits : bracket.Delimits separator)
include delimits

theorem rise_of_blank {text : List Char} (blank : Blank text) : bracket.rise text = 0 :=
  rise_of_not_mem (not_mem_of_blank blank delimits.inkedOpening)
    (not_mem_of_blank blank delimits.inkedClosing)

end Delimits

/-! ### Where a text is cut -/

/-- The places of the separators at depth zero in a text that starts at the given depth. -/
def cuts (bracket : Bracket) (separator : Char) (depth : Int) (text : List Char) : List Nat :=
  (List.range text.length).filter fun place =>
    text[place]? = some separator ∧ depth + bracket.rise (text.take place) = 0

/-- The slices of a text between the places where it is cut. -/
def slicesAt (places : List Nat) (text : List Char) : List (List Char) :=
  List.zipWith (fun start stop => (text.take stop).drop start) (0 :: places.map (· + 1))
    (places ++ [text.length])

theorem cuts_cons (different : bracket.opening ≠ bracket.closing) (depth : Int) (c : Char)
    (rest : List Char) :
    bracket.cuts separator depth (c :: rest) =
      (if c = separator ∧ depth = 0 then [0] else []) ++
        (bracket.cuts separator (depth + bracket.weight c) rest).map (· + 1) := by
  have later : (fun place => decide ((c :: rest)[place]? = some separator ∧
      depth + bracket.rise ((c :: rest).take place) = 0)) ∘ Nat.succ =
      fun place => decide (rest[place]? = some separator ∧
        depth + bracket.weight c + bracket.rise (rest.take place) = 0) := by
    funext place
    simp only [Function.comp_apply, Nat.succ_eq_add_one, List.getElem?_cons_succ,
      List.take_succ_cons, rise_cons different, Int.add_assoc]
  have first : (c :: rest)[0]? = some separator ∧
      depth + bracket.rise ((c :: rest).take 0) = 0 ↔ c = separator ∧ depth = 0 := by
    simp
  rw [cuts, List.length_cons, List.range_succ_eq_map, List.filter_cons, List.filter_map, later]
  simp only [decide_eq_true_eq, first]
  split_ifs <;> rfl

/-- A separator at depth zero starts a new slice, and every other character goes on with one. -/
theorem slices_cons (notOpening : separator ≠ bracket.opening)
    (notClosing : separator ≠ bracket.closing) (depth : Int) (c : Char) (rest : List Char) :
    bracket.slices separator depth (c :: rest) =
      if c = separator ∧ depth = 0 then [] :: bracket.slices separator depth rest
      else (bracket.slices separator (depth + bracket.weight c) rest).modifyHead (c :: ·) := by
  rw [slices, weight]
  by_cases opens : c = bracket.opening
  · have other : ¬ (c = separator ∧ depth = 0) := fun both => notOpening (both.1 ▸ opens)
    rw [if_pos opens, if_neg other, if_pos opens]
  by_cases closes : c = bracket.closing
  · have other : ¬ (c = separator ∧ depth = 0) := fun both => notClosing (both.1 ▸ closes)
    rw [if_neg opens, if_pos closes, if_neg other, if_neg opens, if_pos closes, Int.sub_eq_add_neg]
  · rw [if_neg opens, if_neg closes, if_neg opens, if_neg closes, Int.add_zero]

/-- One character more in front moves all places by one. -/
theorem zipWith_shift (c : Char) (rest : List Char) (starts stops : List Nat) :
    List.zipWith (fun start stop => ((c :: rest).take stop).drop start) (starts.map (· + 1))
        (stops.map (· + 1)) =
      List.zipWith (fun start stop => (rest.take stop).drop start) starts stops := by
  rw [List.zipWith_map]
  rfl

theorem map_append_length (c : Char) (rest : List Char) (places : List Nat) :
    places.map (· + 1) ++ [(c :: rest).length] = (places ++ [rest.length]).map (· + 1) := by
  simp

theorem slicesAt_cons_zero (c : Char) (rest : List Char) (places : List Nat) :
    slicesAt (0 :: places.map (· + 1)) (c :: rest) = [] :: slicesAt places rest := by
  unfold slicesAt
  rw [List.cons_append, List.zipWith_cons_cons, map_append_length]
  exact congrArg ([] :: ·) (zipWith_shift c rest (0 :: places.map (· + 1)) _)

theorem slicesAt_map_succ (c : Char) (rest : List Char) (places : List Nat) :
    slicesAt (places.map (· + 1)) (c :: rest) = (slicesAt places rest).modifyHead (c :: ·) := by
  cases places with
  | nil => simp [slicesAt]
  | cons first others =>
    unfold slicesAt
    rw [List.map_cons, List.cons_append, List.zipWith_cons_cons, map_append_length,
      List.cons_append, List.zipWith_cons_cons, List.modifyHead_cons]
    exact congrArg (_ :: ·) (zipWith_shift c rest ((first :: others).map (· + 1)) _)

/-- A text is sliced at exactly its separators at depth zero. -/
theorem slices_eq (delimits : bracket.Delimits separator) (depth : Int) (text : List Char) :
    bracket.slices separator depth text = slicesAt (bracket.cuts separator depth text) text := by
  induction text generalizing depth with
  | nil => rfl
  | cons c rest inductionHypothesis =>
    rw [slices_cons delimits.notOpening delimits.notClosing, cuts_cons delimits.different]
    split_ifs with separates
    · have level : depth + bracket.weight c = depth := by
        rw [separates.1, weight_of_ne delimits.notOpening delimits.notClosing, Int.add_zero]
      rw [List.singleton_append, slicesAt_cons_zero, level, inductionHypothesis]
    · rw [List.nil_append, slicesAt_map_succ, inductionHypothesis]

theorem length_slicesAt (places : List Nat) (text : List Char) :
    (slicesAt places text).length = places.length + 1 := by
  simp [slicesAt]

theorem split_of_inked {text : List Char} (inked : Inked text) :
    bracket.split separator text = (bracket.slices separator 0 text).map trim := by
  rw [split, all_isBlank_of_inked inked, if_neg Bool.false_ne_true]

/-! ### Joining -/

/-- A separator behind a text that ends at depth zero cuts what stands behind it off. -/
theorem slices_append_level (delimits : bracket.Delimits separator) {depth : Int}
    {text : List Char} (level : depth + bracket.rise text = 0) (rest : List Char) :
    bracket.slices separator depth (text ++ separator :: rest) =
      bracket.slices separator depth text ++ bracket.slices separator 0 rest := by
  have sliced := slices_cons delimits.notOpening delimits.notClosing
  induction text generalizing depth with
  | nil =>
    rw [rise_nil, Int.add_zero] at level
    subst level
    rw [List.nil_append, sliced, if_pos ⟨rfl, rfl⟩]
    rfl
  | cons c later inductionHypothesis =>
    rw [rise_cons delimits.different, ← Int.add_assoc] at level
    rw [List.cons_append, sliced, sliced, inductionHypothesis level]
    split_ifs with separates
    · have same : depth + bracket.weight c = depth := by
        rw [separates.1, weight_of_ne delimits.notOpening delimits.notClosing, Int.add_zero]
      rw [same] at level
      rw [inductionHypothesis level, List.cons_append]
    · obtain ⟨first, others, pieces⟩ := List.exists_cons_of_ne_nil
        (slices_ne_nil bracket separator (depth + bracket.weight c) later)
      rw [pieces]
      rfl

/-- The slices of joined texts that each end at depth zero are those of the texts. -/
theorem slices_join_level (delimits : bracket.Delimits separator) {texts : List (List Char)}
    (notEmpty : texts ≠ []) (level : ∀ text ∈ texts, bracket.rise text = 0) :
    bracket.slices separator 0 (join [separator] texts) =
      texts.flatMap (bracket.slices separator 0) := by
  induction texts with
  | nil => exact absurd rfl notEmpty
  | cons first rest inductionHypothesis =>
    obtain ⟨levelFirst, levelRest⟩ := List.forall_mem_cons.mp level
    cases rest with
    | nil => rw [join_singleton, List.flatMap_singleton]
    | cons second others =>
      rw [join_cons_cons, List.append_assoc, List.singleton_append,
        slices_append_level delimits (by rw [levelFirst]; rfl),
        inductionHypothesis (List.cons_ne_nil _ _) levelRest, ← List.flatMap_cons]

/-- The text is the part with blanks around it. -/
def IsPadded (part text : List Char) : Prop :=
  ∃ before after, Blank before ∧ Blank after ∧ text = before ++ part ++ after

theorem cuts_append (different : bracket.opening ≠ bracket.closing) (depth : Int)
    (left right : List Char) :
    bracket.cuts separator depth (left ++ right) = bracket.cuts separator depth left ++
      (bracket.cuts separator (depth + bracket.rise left) right).map (· + left.length) := by
  induction left generalizing depth with
  | nil => simp [cuts]
  | cons c rest inductionHypothesis =>
    have moved : (fun place => place + 1) ∘ (fun place => place + rest.length) =
        fun place => place + (c :: rest).length := by
      funext place
      simp [Nat.add_assoc]
    rw [List.cons_append, cuts_cons different, cuts_cons different, inductionHypothesis,
      rise_cons different, List.map_append, List.map_map, moved, List.append_assoc, Int.add_assoc]

theorem length_cuts_append (different : bracket.opening ≠ bracket.closing) {left : List Char}
    (level : bracket.rise left = 0) (right : List Char) :
    (bracket.cuts separator 0 (left ++ right)).length =
      (bracket.cuts separator 0 left).length + (bracket.cuts separator 0 right).length := by
  rw [cuts_append different, level, Int.add_zero, List.length_append, List.length_map]

theorem length_slices (delimits : bracket.Delimits separator) (text : List Char) :
    (bracket.slices separator 0 text).length = (bracket.cuts separator 0 text).length + 1 := by
  rw [slices_eq delimits, length_slicesAt]

/-- A balanced text without separators outside its brackets is not cut. -/
theorem length_cuts_of_balanced (delimits : bracket.Delimits separator) {text : List Char}
    (balanced : bracket.Balanced (· ≠ separator) text) :
    (bracket.cuts separator 0 text).length = 0 := by
  have single := length_slices delimits text
  rw [slices_of_balanced delimits.different balanced] at single
  exact (Nat.succ.inj single).symm

/-- Without brackets a text is cut at each separator. -/
theorem length_cuts_of_flat (different : bracket.opening ≠ bracket.closing) {text : List Char}
    (unopened : bracket.opening ∉ text) (unclosed : bracket.closing ∉ text) :
    (bracket.cuts separator 0 text).length = text.count separator := by
  induction text with
  | nil => rfl
  | cons c rest inductionHypothesis =>
    obtain ⟨notOpening, unopenedRest⟩ := List.ne_and_not_mem_of_not_mem_cons unopened
    obtain ⟨notClosing, unclosedRest⟩ := List.ne_and_not_mem_of_not_mem_cons unclosed
    rw [cuts_cons different, weight_of_ne notOpening.symm notClosing.symm, Int.add_zero,
      List.length_append, List.length_map, inductionHypothesis unopenedRest unclosedRest,
      List.count_cons, Nat.add_comm]
    simp only [and_true, beq_iff_eq]
    split_ifs <;> rfl

theorem cuts_of_not_mem {text : List Char} (absent : separator ∉ text) (depth : Int) :
    bracket.cuts separator depth text = [] := by
  rw [cuts, List.filter_eq_nil_iff]
  intro place _ cut
  rw [decide_eq_true_eq] at cut
  exact absent (List.mem_of_getElem? cut.1)

namespace Delimits

variable (delimits : bracket.Delimits separator)
include delimits

/-- Blanks around a part neither raise the depth nor add a cut. -/
theorem rise_of_isPadded {part text : List Char} (padded : IsPadded part text) :
    bracket.rise text = bracket.rise part := by
  obtain ⟨before, after, blankBefore, blankAfter, rfl⟩ := padded
  rw [rise_append, rise_append, delimits.rise_of_blank blankBefore,
    delimits.rise_of_blank blankAfter, Int.zero_add, Int.add_zero]

theorem slices_of_uncut {depth : Int} {text : List Char}
    (uncut : bracket.cuts separator depth text = []) :
    bracket.slices separator depth text = [text] := by
  rw [slices_eq delimits, uncut]
  simp [slicesAt]

theorem slices_of_isPadded {part text : List Char} (padded : IsPadded part text)
    (uncut : bracket.cuts separator 0 part = []) : bracket.slices separator 0 text = [text] := by
  obtain ⟨before, after, blankBefore, blankAfter, rfl⟩ := padded
  have absent {blank : List Char} (isBlanks : Blank blank) : separator ∉ blank :=
    not_mem_of_blank isBlanks delimits.inkedSeparator
  have uncutToo : bracket.cuts separator 0 (before ++ part ++ after) = [] := by
    rw [cuts_append delimits.different, cuts_append delimits.different,
      cuts_of_not_mem (absent blankBefore), cuts_of_not_mem (absent blankAfter),
      delimits.rise_of_blank blankBefore, Int.zero_add, uncut]
    rfl
  exact delimits.slices_of_uncut uncutToo

/-- Parts with blanks around them are got back by trimming, and each of them is one slice. -/
theorem of_forall₂_isPadded {parts texts : List (List Char)}
    (padded : List.Forall₂ IsPadded parts texts)
    (each : ∀ part ∈ parts, trim part = part ∧ bracket.rise part = 0 ∧
      bracket.cuts separator 0 part = []) :
    texts.map trim = parts ∧
      ∀ text ∈ texts, bracket.rise text = 0 ∧ bracket.slices separator 0 text = [text] := by
  induction padded with
  | nil => exact ⟨rfl, List.forall_mem_nil _⟩
  | @cons part text parts texts isPadded _ inductionHypothesis =>
    obtain ⟨⟨trimmed, level, uncut⟩, others⟩ := List.forall_mem_cons.mp each
    obtain ⟨same, later⟩ := inductionHypothesis others
    have whole := delimits.slices_of_isPadded isPadded uncut
    have levelText : bracket.rise text = 0 := (delimits.rise_of_isPadded isPadded).trans level
    obtain ⟨before, after, blankBefore, blankAfter, rfl⟩ := isPadded
    refine ⟨?_, List.forall_mem_cons.mpr ⟨⟨levelText, whole⟩, later⟩⟩
    rw [List.map_cons, same, trim_append_blank blankAfter, trim_blank_append blankBefore, trimmed]

/-- A join of several texts holds a separator, and of one text it is that text. -/
theorem inked_join {texts : List (List Char)} (someTexts : texts ≠ [])
    (notEmpty : texts.map trim ≠ [[]]) : Inked (join [separator] texts) := by
  match texts, someTexts with
  | [text], _ =>
    rw [join_singleton]
    refine (blank_or_inked text).resolve_left fun blank => notEmpty ?_
    rw [List.map_singleton, trim, trimStart_of_blank blank]
    rfl
  | first :: second :: others, _ =>
    rw [join_cons_cons]
    exact ((inked_cons delimits.inkedSeparator []).append_right first).append_left _

/-- A list of parts is got back from its join. -/
theorem split_join_padded {parts texts : List (List Char)}
    (padded : List.Forall₂ IsPadded parts texts) (someParts : parts ≠ []) (notEmpty : parts ≠ [[]])
    (each : ∀ part ∈ parts, trim part = part ∧ bracket.rise part = 0 ∧
      bracket.cuts separator 0 part = []) :
    bracket.split separator (join [separator] texts) = parts := by
  obtain ⟨rfl, whole⟩ := delimits.of_forall₂_isPadded padded each
  have someTexts : texts ≠ [] := fun noTexts => someParts (by rw [noTexts]; rfl)
  have single : texts.flatMap (bracket.slices separator 0) = texts := by
    rw [List.flatMap_congr fun text member => (whole text member).2]
    simp
  rw [split_of_inked (delimits.inked_join someTexts notEmpty),
    slices_join_level delimits someTexts fun text member => (whole text member).1, single]

end Delimits

/-! ### Nesting -/

/-- A text that starts at the given depth ends at depth zero and is nowhere below. -/
structure NestedFrom (bracket : Bracket) (depth : Int) (text : List Char) : Prop where
  closed : depth + bracket.rise text = 0
  above : ∀ front, front <+: text → 0 ≤ depth + bracket.rise front

theorem nestedFrom_nil_iff {depth : Int} : bracket.NestedFrom depth [] ↔ depth = 0 := by
  constructor
  · intro nested
    have closed := nested.closed
    rwa [rise_nil, Int.add_zero] at closed
  · rintro rfl
    refine ⟨rfl, fun front isPrefix => ?_⟩
    rw [List.prefix_nil.mp isPrefix]
    exact Int.le_refl 0

theorem nestedFrom_cons_iff (different : bracket.opening ≠ bracket.closing) {depth : Int}
    {c : Char} {rest : List Char} :
    bracket.NestedFrom depth (c :: rest) ↔
      0 ≤ depth ∧ bracket.NestedFrom (depth + bracket.weight c) rest := by
  have moved (text : List Char) : depth + bracket.rise (c :: text) =
      depth + bracket.weight c + bracket.rise text := by
    rw [rise_cons different, Int.add_assoc]
  constructor
  · rintro ⟨closed, above⟩
    refine ⟨?_, (moved rest).symm.trans closed, fun front isPrefix => ?_⟩
    · simpa using above [] List.nil_prefix
    · rw [← moved]
      exact above (c :: front) (List.cons_prefix_cons.mpr ⟨rfl, isPrefix⟩)
  · rintro ⟨start, closed, above⟩
    refine ⟨(moved rest).trans closed, fun front isPrefix => ?_⟩
    cases front with
    | nil => simpa using start
    | cons d later =>
      obtain ⟨rfl, inRest⟩ := List.cons_prefix_cons.mp isPrefix
      rw [moved]
      exact above later inRest

/-- The first slice of a nested text ends where that starts, and all others are nested. -/
theorem nestedFrom_slices (delimits : bracket.Delimits separator) {depth : Int}
    {text : List Char} (nested : bracket.NestedFrom depth text) :
    ∃ first others, bracket.slices separator depth text = first :: others ∧
      bracket.NestedFrom depth first ∧ ∀ slice ∈ others, bracket.NestedFrom 0 slice := by
  induction text generalizing depth with
  | nil => exact ⟨[], [], rfl, nested, List.forall_mem_nil _⟩
  | cons c rest inductionHypothesis =>
    obtain ⟨start, nestedRest⟩ := (nestedFrom_cons_iff delimits.different).mp nested
    obtain ⟨first, others, pieces, nestedFirst, nestedOthers⟩ := inductionHypothesis nestedRest
    rw [slices_cons delimits.notOpening delimits.notClosing]
    split_ifs with separates
    · obtain ⟨rfl, rfl⟩ := separates
      have level : (0 : Int) + bracket.weight c = 0 := by
        rw [weight_of_ne delimits.notOpening delimits.notClosing, Int.add_zero]
      rw [level] at pieces nestedFirst
      rw [pieces]
      exact ⟨[], _, rfl, nestedFrom_nil_iff.mpr rfl,
        List.forall_mem_cons.mpr ⟨nestedFirst, nestedOthers⟩⟩
    · rw [pieces, List.modifyHead_cons]
      exact ⟨_, _, rfl, (nestedFrom_cons_iff delimits.different).mpr ⟨start, nestedFirst⟩,
        nestedOthers⟩

/-- Trimming a nested text leaves it nested. -/
theorem nestedFrom_trim (delimits : bracket.Delimits separator) {depth : Int} {text : List Char}
    (nested : bracket.NestedFrom depth text) : bracket.NestedFrom depth (trim text) := by
  obtain ⟨front, frontBlank, startSame⟩ := exists_blank_append_trimStart text
  obtain ⟨back, backBlank, endSame⟩ := exists_trimEnd_append_blank (trimStart text)
  have whole : text = front ++ (trim text ++ back) := by
    exact startSame.trans (congrArg (front ++ ·) endSame)
  rw [whole] at nested
  generalize trim text = kept at nested ⊢
  have levelFront := delimits.rise_of_blank frontBlank
  refine ⟨?_, fun part isPrefix => ?_⟩
  · have closed := nested.closed
    rwa [rise_append, rise_append, levelFront, delimits.rise_of_blank backBlank, Int.zero_add,
      Int.add_zero] at closed
  · have inside : front ++ part <+: front ++ (kept ++ back) :=
      (List.prefix_append_right_inj front).mpr (isPrefix.trans (List.prefix_append kept back))
    have above := nested.above _ inside
    rwa [rise_append, levelFront, Int.zero_add] at above

/-- What a closing bracket is found behind is nested. -/
theorem nestedFrom_of_untilClosing (different : bracket.opening ≠ bracket.closing) {depth : Nat}
    {text interior rest : List Char}
    (found : bracket.untilClosing depth text = some (interior, rest)) :
    bracket.NestedFrom depth interior := by
  have grown {c : Char} {depth next : Nat} {before : List Char}
      (moved : (depth : Int) + bracket.weight c = next) (nested : bracket.NestedFrom next before) :
      bracket.NestedFrom depth (c :: before) :=
    (nestedFrom_cons_iff different).mpr ⟨Int.natCast_nonneg depth, moved ▸ nested⟩
  fun_induction bracket.untilClosing depth text generalizing interior rest with
  | case1 => cases found
  | case2 depth later inductionHypothesis =>
    obtain ⟨⟨before, behind⟩, holds, same⟩ := Option.map_eq_some_iff.mp found
    obtain ⟨rfl, -⟩ := Prod.mk.inj same
    exact grown (by rw [weight, if_pos rfl]; rfl) (inductionHypothesis holds)
  | case3 later notOpening =>
    obtain ⟨rfl, -⟩ := Prod.mk.inj (Option.some.inj found)
    exact nestedFrom_nil_iff.mpr rfl
  | case4 later inner notOpening inductionHypothesis =>
    obtain ⟨⟨before, behind⟩, holds, same⟩ := Option.map_eq_some_iff.mp found
    obtain ⟨rfl, -⟩ := Prod.mk.inj same
    refine grown ?_ (inductionHypothesis holds)
    rw [weight, if_neg notOpening, if_pos rfl]
    omega
  | case5 depth c later notOpening notClosing inductionHypothesis =>
    obtain ⟨⟨before, behind⟩, holds, same⟩ := Option.map_eq_some_iff.mp found
    obtain ⟨rfl, -⟩ := Prod.mk.inj same
    refine grown ?_ (inductionHypothesis holds)
    rw [weight_of_ne notOpening notClosing, Int.add_zero]

/-- The brackets in the text match: as many are closed as opened, and nowhere more. -/
def Nested (bracket : Bracket) (text : List Char) : Prop :=
  bracket.rise text = 0 ∧ ∀ front, front <+: text → 0 ≤ bracket.rise front

theorem nestedFrom_zero_iff {text : List Char} :
    bracket.NestedFrom 0 text ↔ bracket.Nested text := by
  constructor
  · rintro ⟨closed, above⟩
    simp only [Int.zero_add] at closed above
    exact ⟨closed, above⟩
  · rintro ⟨closed, above⟩
    exact ⟨by rwa [Int.zero_add], by simpa only [Int.zero_add] using above⟩

/-- The parts of a nested text are nested. -/
theorem nested_of_mem_split (delimits : bracket.Delimits separator) {text part : List Char}
    (nested : bracket.Nested text) (member : part ∈ bracket.split separator text) :
    bracket.Nested part := by
  rw [split] at member
  split at member
  · cases member
  · obtain ⟨slice, isSlice, rfl⟩ := List.mem_map.mp member
    obtain ⟨first, others, pieces, nestedFirst, nestedOthers⟩ :=
      nestedFrom_slices delimits (nestedFrom_zero_iff.mpr nested)
    rw [pieces] at isSlice
    have nestedSlice : bracket.NestedFrom 0 slice := by
      rcases List.mem_cons.mp isSlice with rfl | later
      · exact nestedFirst
      · exact nestedOthers slice later
    exact nestedFrom_zero_iff.mp (nestedFrom_trim delimits nestedSlice)

/-- Where the bracket at an offset is closed, what stands between the two is nested. -/
theorem exists_nested_of_closingOffset (different : bracket.opening ≠ bracket.closing)
    {text : List Char} {start stop : Nat}
    (closed : bracket.closingOffset text start = .ok (some stop)) :
    ∃ before interior behind,
      text = before ++ (bracket.opening :: interior ++ bracket.closing :: behind) ∧
      byteSize before = start ∧
      stop = start + bracket.opening.utf8Size + byteSize interior ∧ bracket.Nested interior := by
  unfold closingOffset at closed
  cases opened : dropBytes start text with
  | error fault =>
    rw [opened] at closed
    cases closed
  | ok rest =>
    rw [opened] at closed
    have found : (bracket.enclosed? rest).map (fun found =>
        start + bracket.opening.utf8Size + byteSize found.1) = some stop := Except.ok.inj closed
    obtain ⟨⟨interior, behind⟩, enclosed, rfl⟩ := Option.map_eq_some_iff.mp found
    have here : Checked.sliceFrom text start = .ok rest := by
      rw [Checked.sliceFrom, opened]
      rfl
    obtain ⟨before, rfl, size⟩ := Checked.sliceFrom_eq_ok_iff.mp here
    refine ⟨before, interior, behind, by rw [eq_of_enclosed? enclosed], size, rfl, ?_⟩
    cases rest with
    | nil => cases enclosed
    | cons c later =>
      rw [enclosed?] at enclosed
      split at enclosed
      · exact nestedFrom_zero_iff.mp (nestedFrom_of_untilClosing different enclosed)
      · cases enclosed

/-! ### Splitting and joining -/

/-- Splitting is the inverse of joining. A list of trimmed parts that end at depth zero and hold no
separator at depth zero is got back from its join, with any blanks around each part. The parts of a
text with ink are the trimmed slices between its separators at depth zero, one more than there are
of those. The parts of a nested text are nested, and a nested text is what an opening bracket has
between itself and the one that closes it. -/
theorem split_inverts_join (delimits : bracket.Delimits separator) :
    (∀ parts texts : List (List Char), List.Forall₂ IsPadded parts texts → parts ≠ [] →
        parts ≠ [[]] → (∀ part ∈ parts, trim part = part ∧ bracket.rise part = 0 ∧
          bracket.cuts separator 0 part = []) →
        bracket.split separator (join [separator] texts) = parts) ∧
      (∀ text : List Char, Inked text →
        (bracket.split separator text).length = (bracket.cuts separator 0 text).length + 1 ∧
        bracket.split separator text =
          (slicesAt (bracket.cuts separator 0 text) text).map trim) ∧
      (∀ text : List Char, bracket.Nested text → ∀ part ∈ bracket.split separator text,
        bracket.Nested part) ∧
      ∀ (text : List Char) (start stop : Nat),
        bracket.closingOffset text start = .ok (some stop) → ∃ before interior behind,
          text = before ++ (bracket.opening :: interior ++ bracket.closing :: behind) ∧
          byteSize before = start ∧
          stop = start + bracket.opening.utf8Size + byteSize interior ∧
          bracket.Nested interior := by
  refine ⟨fun parts texts padded someParts notEmpty each =>
    delimits.split_join_padded padded someParts notEmpty each, fun text inked => ?_,
    fun text nested part member => nested_of_mem_split delimits nested member,
    fun text start stop closed => exists_nested_of_closingOffset delimits.different closed⟩
  have parts : bracket.split separator text =
      (slicesAt (bracket.cuts separator 0 text) text).map trim := by
    rw [split_of_inked inked, slices_eq delimits]
  refine ⟨?_, parts⟩
  rw [parts, List.length_map, length_slicesAt]

theorem delimits_angle : angle.Delimits ',' where
  different := by decide
  notOpening := by decide
  notClosing := by decide
  inkedOpening := by decide
  inkedClosing := by decide
  inkedSeparator := by decide

/-- Three parts, one of them empty and one with commas in its brackets. -/
theorem split_inverts_join_of_arguments :
    angle.Delimits ',' ∧
      angle.split ',' " key ,Map<string, List<A, B>>, ".toList =
        ["key".toList, "Map<string, List<A, B>>".toList, []] := by
  have padded : List.Forall₂ IsPadded
      ["key".toList, "Map<string, List<A, B>>".toList, []]
      [" key ".toList, "Map<string, List<A, B>>".toList, " ".toList] :=
    .cons ⟨[' '], [' '], by decide, by decide, rfl⟩
      (.cons ⟨[], [], by decide, by decide, rfl⟩
        (.cons ⟨[' '], [], by decide, by decide, rfl⟩ .nil))
  exact ⟨delimits_angle, (split_inverts_join delimits_angle).1 _ _ padded (by decide) (by decide)
    (by decide)⟩

end SharpTypes.Source.Bracket

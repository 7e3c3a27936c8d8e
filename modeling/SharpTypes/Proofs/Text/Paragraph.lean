/-
Blank lines. A text is cut into paragraphs at its empty lines. Texts of which none has an empty line
can be put together with a blank line between neighbours and be told apart again; where a text has
no two line ends side by side and none at its ends, none of its lines is empty.
-/

import Mathlib.Data.List.Chain
import Mathlib.Tactic.Common
import SharpTypes.Proofs.Text.Separator

namespace SharpTypes.Text

/-! ### Lines -/

/-- The lines of a text. -/
def linesOf (text : List Char) : List (List Char) :=
  splitOn '\n' text

theorem linesOf_of_not_mem {text : List Char} (single : '\n' ∉ text) : linesOf text = [text] :=
  splitOn_of_not_mem single

theorem linesOf_append_newline (left right : List Char) :
    linesOf (left ++ '\n' :: right) = linesOf left ++ linesOf right :=
  splitOn_append_separator '\n' left right

/-- None of the lines is empty, also not the only one. -/
def IsParagraph (text : List Char) : Prop :=
  [] ∉ linesOf text

theorem isParagraph_of_not_mem {text : List Char} (single : '\n' ∉ text) (notEmpty : text ≠ []) :
    IsParagraph text := by
  rw [IsParagraph, linesOf_of_not_mem single, List.mem_singleton]
  exact fun empty => notEmpty empty.symm

theorem IsParagraph.append_newline {left right : List Char} (isLeft : IsParagraph left)
    (isRight : IsParagraph right) : IsParagraph (left ++ '\n' :: right) := by
  rw [IsParagraph, linesOf_append_newline, List.mem_append]
  exact fun empty => empty.elim isLeft isRight

/-- Paragraphs put below each other are one. -/
theorem isParagraph_join {pieces : List (List Char)} (notEmpty : pieces ≠ [])
    (each : ∀ piece ∈ pieces, IsParagraph piece) : IsParagraph (join ['\n'] pieces) := by
  induction pieces with
  | nil => exact absurd rfl notEmpty
  | cons first rest inductionHypothesis =>
    obtain ⟨isFirst, isRest⟩ := List.forall_mem_cons.mp each
    cases rest with
    | nil => rwa [join_singleton]
    | cons second others =>
      rw [join_cons_cons, List.append_assoc]
      exact isFirst.append_newline (inductionHypothesis (List.cons_ne_nil _ _) isRest)

/-! ### Paragraphs -/

/-- The paragraphs of a text: the rows of lines between its empty lines. -/
def paragraphs (text : List Char) : List (List Char) :=
  ((linesOf text).splitOn []).map (join ['\n'])

/-- The lines of texts with a blank line between neighbours. -/
theorem linesOf_join_blank {blocks : List (List Char)} (notEmpty : blocks ≠ []) :
    linesOf (join "\n\n".toList blocks) = [[]].intercalate (blocks.map linesOf) := by
  induction blocks with
  | nil => exact absurd rfl notEmpty
  | cons first rest inductionHypothesis =>
    cases rest with
    | nil => simp
    | cons second others =>
      have apart : join "\n\n".toList (first :: second :: others) =
          first ++ '\n' :: ([] ++ '\n' :: join "\n\n".toList (second :: others)) := by
        rw [join_cons_cons, List.append_assoc]
        rfl
      rw [apart, linesOf_append_newline, linesOf_append_newline,
        inductionHypothesis (List.cons_ne_nil _ _), List.map_cons, List.map_cons, List.map_cons,
        List.intercalate_cons_cons, List.append_assoc]
      rfl

/-- Paragraphs that are put together with blank lines are told apart again. -/
theorem paragraphs_join {blocks : List (List Char)} (notEmpty : blocks ≠ [])
    (each : ∀ block ∈ blocks, IsParagraph block) :
    paragraphs (join "\n\n".toList blocks) = blocks := by
  have cut : ([[]].intercalate (blocks.map linesOf)).splitOn [] = blocks.map linesOf := by
    refine List.splitOn_intercalate [] ?_ (by simpa using notEmpty)
    intro lines member
    obtain ⟨block, isBlock, rfl⟩ := List.mem_map.mp member
    exact each block isBlock
  have whole : join ['\n'] ∘ linesOf = id := funext fun text => join_splitOn '\n' text
  rw [paragraphs, linesOf_join_blank notEmpty, cut, List.map_map, whole, List.map_id]

/-! ### Line ends apart -/

/-- No two line ends stand side by side. -/
def NoBlankLine (text : List Char) : Prop :=
  text.IsChain fun left right => left ≠ '\n' ∨ right ≠ '\n'

instance : DecidablePred NoBlankLine := fun text =>
  inferInstanceAs (Decidable (text.IsChain fun left right => left ≠ '\n' ∨ right ≠ '\n'))

theorem NoBlankLine.of_infix {text part : List Char} (apart : NoBlankLine text)
    (isPart : part <:+: text) : NoBlankLine part :=
  List.IsChain.infix apart isPart

theorem noBlankLine_of_not_mem {text : List Char} (single : '\n' ∉ text) : NoBlankLine text := by
  refine List.Pairwise.isChain (List.Pairwise.imp_of_mem (R := fun _ _ => True) ?_ ?_)
  · rintro c d isInside _ -
    exact .inl fun newline => single (newline ▸ isInside)
  · exact List.pairwise_of_forall fun _ _ => trivial

theorem NoBlankLine.append_of_not_mem {left right : List Char} (apart : NoBlankLine left)
    (single : '\n' ∉ right) : NoBlankLine (left ++ right) := by
  refine List.isChain_append.mpr ⟨apart, noBlankLine_of_not_mem single, ?_⟩
  rintro _ _ d isFirst
  exact .inr fun newline => single (newline ▸ List.mem_of_mem_head? isFirst)

theorem NoBlankLine.prepend_of_not_mem {left right : List Char} (apart : NoBlankLine right)
    (single : '\n' ∉ left) : NoBlankLine (left ++ right) := by
  refine List.isChain_append.mpr ⟨noBlankLine_of_not_mem single, apart, ?_⟩
  rintro c isLast _ _
  exact .inl fun newline => single (newline ▸ List.mem_of_getLast? isLast)

/-- A separator that ends no line keeps the line ends of its neighbours apart. -/
theorem noBlankLine_join {separator : Char} (other : separator ≠ '\n') {pieces : List (List Char)}
    (each : ∀ piece ∈ pieces, NoBlankLine piece) : NoBlankLine (join [separator] pieces) := by
  have single : '\n' ∉ [separator] := fun newline => other (List.mem_singleton.mp newline).symm
  induction pieces with
  | nil => exact List.IsChain.nil
  | cons first rest inductionHypothesis =>
    obtain ⟨isFirst, isRest⟩ := List.forall_mem_cons.mp each
    cases rest with
    | nil => rwa [join_singleton]
    | cons second others =>
      rw [join_cons_cons]
      refine List.isChain_append.mpr
        ⟨isFirst.append_of_not_mem single, inductionHypothesis isRest, ?_⟩
      intro last isLast _ _
      rw [List.getLast?_concat] at isLast
      exact .inl (Option.some.inj isLast ▸ other)

/-- Something in front of a line does not empty it. -/
theorem IsParagraph.cons {c : Char} {text : List Char} (isParagraph : IsParagraph text)
    (inLine : c ≠ '\n') : IsParagraph (c :: text) := by
  obtain ⟨first, others, lines⟩ := List.exists_cons_of_ne_nil (splitOn_ne_nil '\n' text)
  have same : linesOf (c :: text) = (c :: first) :: others := by
    rw [linesOf, splitOn, if_neg inLine, lines]
    rfl
  rw [IsParagraph, linesOf, lines] at isParagraph
  rw [IsParagraph, same, List.mem_cons]
  rintro (empty | empty)
  · cases empty
  · exact isParagraph (List.mem_cons_of_mem _ empty)

/-- Without line ends side by side or at its ends, a text has no empty line. -/
theorem isParagraph_of_noBlankLine :
    (text : List Char) → text ≠ [] → text.head? ≠ some '\n' → text.getLast? ≠ some '\n' →
      NoBlankLine text → IsParagraph text
  | [], filled, _, _, _ => absurd rfl filled
  | [c], filled, first, _, _ => by
    refine isParagraph_of_not_mem (fun newline => first ?_) filled
    rw [List.mem_singleton.mp newline]
    rfl
  | c :: d :: rest, _, first, last, apart => by
    have inLine : c ≠ '\n' := fun newline => first (by rw [newline]; rfl)
    obtain ⟨_, apartBehind⟩ := List.isChain_cons_cons.mp apart
    by_cases newline : d = '\n'
    · subst newline
      cases rest with
      | nil => exact absurd rfl last
      | cons e others =>
        obtain ⟨notBoth, apartRest⟩ := List.isChain_cons_cons.mp apartBehind
        have here : IsParagraph [c] :=
          isParagraph_of_not_mem (by simpa using inLine.symm) (List.cons_ne_nil _ _)
        refine here.append_newline (isParagraph_of_noBlankLine (e :: others)
          (List.cons_ne_nil _ _) (fun same => ?_) (fun same => last ?_) apartRest)
        · exact notBoth.elim (absurd rfl) fun differs => differs (Option.some.inj same)
        · rw [List.getLast?_cons_cons, List.getLast?_cons_cons, same]
    · refine (isParagraph_of_noBlankLine (d :: rest) (List.cons_ne_nil _ _)
        (fun same => newline (Option.some.inj same)) (fun same => last ?_) apartBehind).cons inLine
      rw [List.getLast?_cons_cons, same]

/-- Text in line on both sides makes a paragraph of what has no blank line. -/
theorem NoBlankLine.isParagraph_between {front middle back : List Char}
    (apart : NoBlankLine middle) (singleFront : '\n' ∉ front) (singleBack : '\n' ∉ back)
    (someFront : front ≠ []) (someBack : back ≠ []) :
    IsParagraph (front ++ middle ++ back) := by
  refine isParagraph_of_noBlankLine _ (by simp [someFront]) (fun first => singleFront ?_)
    (fun last => singleBack ?_)
    ((apart.prepend_of_not_mem singleFront).append_of_not_mem singleBack)
  · rw [List.append_assoc, List.head?_append_of_ne_nil _ someFront] at first
    exact List.mem_of_mem_head? first
  · rw [List.getLast?_append_of_ne_nil _ someBack] at last
    exact List.mem_of_getLast? last

end SharpTypes.Text

/-
Names that stand in a text on their own: no word goes on at either end of the name, and it is no
part of a dotted name, however many blanks stand before or after the dot. A name that stands on its
own in a part which stands on its own does so in the whole.
-/

import Mathlib.Data.List.Infix
import Mathlib.Tactic.Common
import SharpTypes.Proofs.Text.Separator
import SharpTypes.Proofs.Text.Word

namespace SharpTypes.Text

/-! ### What may stand beside a name -/

/-- Whether a character is neither a blank nor a part of a name. -/
def isMark (c : Char) : Bool :=
  !(isBlank c || isWord c || c == '.')

/-- A text that leads away from a name leaves it alone: it goes on neither with the word nor, behind
any blanks, with a dot. -/
structure LeavesAlone (text : List Char) : Prop where
  noWord : Stops isWord text
  noDot : Stops (· == '.') (trimStart text)

instance (kind : Char → Bool) : (text : List Char) → Decidable (Stops kind text)
  | [] => isTrue (stops_nil kind)
  | c :: rest =>
    decidable_of_iff (kind c = false)
      ⟨fun stop => stops_cons stop rest, fun stops => stops c rfl⟩

instance (text : List Char) : Decidable (LeavesAlone text) :=
  decidable_of_iff (Stops isWord text ∧ Stops (· == '.') (trimStart text))
    ⟨fun both => ⟨both.1, both.2⟩, fun alone => ⟨alone.noWord, alone.noDot⟩⟩

namespace LeavesAlone

variable {text : List Char}

theorem of_blank (blank : Blank text) : LeavesAlone text := by
  refine ⟨?_, ?_⟩
  · have stops := stops_blank_append blank (stops_nil isWord)
    rwa [List.append_nil] at stops
  · rw [trimStart_of_blank blank]
    exact stops_nil _

/-- Behind the first ink it does not matter what follows. -/
theorem append_of_inked (alone : LeavesAlone text) (inked : Inked text) (rest : List Char) :
    LeavesAlone (text ++ rest) := by
  have notEmpty : text ≠ [] := by
    obtain ⟨_, member, _⟩ := inked
    exact List.ne_nil_of_mem member
  refine ⟨stops_append alone.noWord notEmpty rest, ?_⟩
  rw [trimStart_append_of_inked inked]
  exact stops_append alone.noDot (trimStart_ne_nil inked) rest

theorem append (alone : LeavesAlone text) {rest : List Char} (aloneRest : LeavesAlone rest) :
    LeavesAlone (text ++ rest) := by
  rcases blank_or_inked text with blank | inked
  · refine ⟨stops_blank_append blank aloneRest.noWord, ?_⟩
    rw [trimStart_blank_append blank]
    exact aloneRest.noDot
  · exact alone.append_of_inked inked rest

/-- A mark ends a name, whatever follows it. -/
theorem of_mark {c : Char} (mark : isMark c = true) (rest : List Char) :
    LeavesAlone (c :: rest) := by
  simp only [isMark, Bool.not_eq_true', Bool.or_eq_false_iff] at mark
  obtain ⟨⟨notBlank, notWord⟩, notDot⟩ := mark
  refine ⟨stops_cons notWord rest, ?_⟩
  rw [trimStart_cons notBlank]
  intro other member
  obtain rfl : c = other := Option.some.inj member
  exact notDot

end LeavesAlone

/-! ### Names on their own -/

/-- A name stands in a text on its own. -/
def StandsIn (name text : List Char) : Prop :=
  ∃ before after, text = before ++ name ++ after ∧ LeavesAlone before.reverse ∧ LeavesAlone after

theorem standsIn_iff {name text : List Char} :
    StandsIn name text ↔ ∃ size ∈ List.range (text.length + 1),
      text = text.take size ++ name ++ text.drop (size + name.length) ∧
        LeavesAlone (text.take size).reverse ∧ LeavesAlone (text.drop (size + name.length)) := by
  constructor
  · rintro ⟨before, after, rfl, aloneBefore, aloneAfter⟩
    have inside : before.length < (before ++ name ++ after).length + 1 := by
      simp only [List.length_append]
      omega
    refine ⟨before.length, List.mem_range.mpr inside, ?_⟩
    rw [← List.length_append, List.drop_left, List.append_assoc, List.take_left,
      ← List.append_assoc]
    exact ⟨rfl, aloneBefore, aloneAfter⟩
  · rintro ⟨size, _, same, aloneBefore, aloneAfter⟩
    exact ⟨_, _, same, aloneBefore, aloneAfter⟩

instance (name text : List Char) : Decidable (StandsIn name text) :=
  decidable_of_iff _ standsIn_iff.symm

theorem StandsIn.refl (text : List Char) : StandsIn text text :=
  ⟨[], [], (List.append_nil text).symm, .of_blank blank_nil, .of_blank blank_nil⟩

theorem StandsIn.trans {name part text : List Char} (inner : StandsIn name part)
    (outer : StandsIn part text) : StandsIn name text := by
  obtain ⟨front, back, rfl, aloneFront, aloneBack⟩ := inner
  obtain ⟨before, after, rfl, aloneBefore, aloneAfter⟩ := outer
  refine ⟨before ++ front, back ++ after, by simp only [List.append_assoc], ?_,
    aloneBack.append aloneAfter⟩
  rw [List.reverse_append]
  exact aloneFront.append aloneBefore

theorem StandsIn.isInfix {name text : List Char} (stands : StandsIn name text) :
    name <:+: text := by
  obtain ⟨before, after, same, _⟩ := stands
  exact ⟨before, after, same.symm⟩

theorem standsIn_trim (text : List Char) : StandsIn (trim text) text := by
  obtain ⟨front, frontBlank, startSame⟩ := exists_blank_append_trimStart text
  obtain ⟨back, backBlank, endSame⟩ := exists_trimEnd_append_blank (trimStart text)
  refine ⟨front, back, ?_, .of_blank fun c member => ?_, .of_blank backBlank⟩
  · rw [List.append_assoc]
    exact startSame.trans (congrArg (front ++ ·) endSame)
  · exact frontBlank c (List.mem_reverse.mp member)

/-! ### Names with something on both sides -/

/-- A name stands in a text on its own, and there is ink on both sides of it. So it stands on its
own wherever the text goes on. -/
def StandsWithin (name text : List Char) : Prop :=
  ∃ before after, text = before ++ name ++ after ∧ (LeavesAlone before.reverse ∧ Inked before) ∧
    LeavesAlone after ∧ Inked after

theorem StandsWithin.standsIn_of_part {name part text : List Char} (within : StandsWithin name part)
    (isPart : part <:+: text) : StandsIn name text := by
  obtain ⟨before, after, rfl, ⟨aloneBefore, ⟨c, member, notBlank⟩⟩, aloneAfter, inkedAfter⟩ :=
    within
  obtain ⟨front, back, rfl⟩ := isPart
  refine ⟨front ++ before, after ++ back, by simp only [List.append_assoc], ?_,
    aloneAfter.append_of_inked inkedAfter back⟩
  rw [List.reverse_append]
  exact aloneBefore.append_of_inked ⟨c, List.mem_reverse.mpr member, notBlank⟩ _

/-! ### Lists -/

/-- The pieces of a list stand on their own if the separator leaves them alone. -/
theorem standsIn_join {separator : List Char} (inked : Inked separator)
    (aloneBefore : LeavesAlone separator.reverse) (aloneAfter : LeavesAlone separator)
    {pieces : List (List Char)} {piece : List Char} (member : piece ∈ pieces) :
    StandsIn piece (join separator pieces) := by
  have inkedReverse : Inked separator.reverse := by
    obtain ⟨c, inside, notBlank⟩ := inked
    exact ⟨c, List.mem_reverse.mpr inside, notBlank⟩
  induction pieces with
  | nil => cases member
  | cons first rest inductionHypothesis =>
    cases rest with
    | nil =>
      rw [List.mem_singleton.mp member, join_singleton]
      exact .refl first
    | cons second others =>
      rw [join_cons_cons]
      rcases List.mem_cons.mp member with rfl | later
      · refine ⟨[], separator ++ join separator (second :: others), by simp,
          .of_blank blank_nil, ?_⟩
        exact aloneAfter.append_of_inked inked _
      · refine (inductionHypothesis later).trans
          ⟨first ++ separator, [], (List.append_nil _).symm, ?_, .of_blank blank_nil⟩
        rw [List.reverse_append]
        exact aloneBefore.append_of_inked inkedReverse _

theorem isInfix_join_of_mem (separator : List Char) {pieces : List (List Char)} {piece : List Char}
    (member : piece ∈ pieces) : piece <:+: join separator pieces := by
  induction pieces with
  | nil => cases member
  | cons first rest inductionHypothesis =>
    cases rest with
    | nil =>
      rw [List.mem_singleton.mp member, join_singleton]
    | cons second others =>
      rw [join_cons_cons]
      rcases List.mem_cons.mp member with rfl | later
      · rw [List.append_assoc]
        exact (List.prefix_append _ _).isInfix
      · exact (inductionHypothesis later).trans (List.suffix_append _ _).isInfix

end SharpTypes.Text

/-
Accesses that can go wrong. Text is sliced at byte offsets, and an offset is good only at the
boundaries of characters; a number is subtracted only from one that is no smaller; an item is taken
only of those that are there. Each of these operations says what is wrong instead of going on.

The offsets into a text that are good are those from which the text goes on with something, and what
it goes on with is all that has to be known of them.
-/

import Mathlib.Tactic.Common
import SharpTypes.Proofs.Text.Separator

namespace SharpTypes.Checked

open Text

/-! ### Accesses -/

/-- What is wrong with an access, or with a loop. -/
inductive Fault where
  /-- A slice of a text starts or ends where no character does. -/
  | badOffset (fault : BadOffset)
  /-- More is subtracted than there is. -/
  | belowZero
  /-- There is no item at an index. -/
  | noItem
  /-- A loop does not get ahead. -/
  | stuck
  deriving DecidableEq, Repr

/-- The text of the given number of bytes. -/
def takeBytes : Nat → List Char → Except BadOffset (List Char)
  | 0, _ => .ok []
  | _ + 1, [] => .error .pastEnd
  | bytes + 1, c :: rest =>
    if c.utf8Size ≤ bytes + 1 then (takeBytes (bytes + 1 - c.utf8Size) rest).map (c :: ·)
    else .error .insideCharacter

/-- A number less another one. -/
def subtract (whole part : Nat) : Except Fault Nat :=
  if part ≤ whole then .ok (whole - part) else .error .belowZero

/-- The item at an index. -/
def item {Item : Type} (items : List Item) (index : Nat) : Except Fault Item :=
  match items[index]? with
  | some found => .ok found
  | none => .error .noItem

/-- The items from an index on. -/
def itemsFrom {Item : Type} (items : List Item) (index : Nat) : Except Fault (List Item) :=
  if index ≤ items.length then .ok (items.drop index) else .error .noItem

/-- The text from an offset on. -/
def sliceFrom (text : List Char) (start : Nat) : Except Fault (List Char) :=
  (dropBytes start text).mapError .badOffset

/-- The text up to an offset. -/
def sliceTo (text : List Char) (stop : Nat) : Except Fault (List Char) :=
  (takeBytes stop text).mapError .badOffset

/-- The text between two offsets. -/
def slice (text : List Char) (start stop : Nat) : Except Fault (List Char) := do
  let behind ← sliceFrom text start
  let size ← subtract stop start
  sliceTo behind size

/-- An offset inside of a character is a fault. -/
example : slice "é=".toList 1 2 = .error (.badOffset .insideCharacter) := by
  decide

/-! ### Good accesses -/

variable {Item Result : Type}

theorem ok_bind (value : Item) (next : Item → Except Fault Result) :
    (Except.ok value >>= next) = next value := rfl

theorem subtract_add (part rest : Nat) : subtract (part + rest) part = .ok rest := by
  rw [subtract, if_pos (Nat.le_add_right part rest), Nat.add_sub_cancel_left]

theorem item_append (front : List Item) (found : Item) (behind : List Item) :
    item (front ++ found :: behind) front.length = .ok found := by
  unfold item
  rw [List.getElem?_append_right (Nat.le_refl _), Nat.sub_self]
  rfl

/-- From the offset on, the text is the rest. -/
def GoesOn (text : List Char) (start : Nat) (rest : List Char) : Prop :=
  ∃ before, text = before ++ rest ∧ byteSize before = start

theorem goesOn_zero (text : List Char) : GoesOn text 0 text :=
  ⟨[], rfl, rfl⟩

theorem goesOn_byteSize (text : List Char) : GoesOn text (byteSize text) [] :=
  ⟨text, (List.append_nil text).symm, rfl⟩

theorem goesOn_append (before rest : List Char) : GoesOn (before ++ rest) (byteSize before) rest :=
  ⟨before, rfl, rfl⟩

theorem goesOn_of_suffix {text rest : List Char} (isEnd : rest <:+ text) :
    GoesOn text (byteSize text - byteSize rest) rest := by
  obtain ⟨before, rfl⟩ := isEnd
  refine ⟨before, rfl, ?_⟩
  rw [byteSize_append, Nat.add_sub_cancel]

namespace GoesOn

variable {text part rest : List Char} {start inner : Nat}

theorem isSuffix (here : GoesOn text start rest) : rest <:+ text := by
  obtain ⟨before, rfl, _⟩ := here
  exact List.suffix_append before rest

/-- What a part of the rest takes is added to the offset. -/
theorem forward (here : GoesOn text start (part ++ rest)) :
    GoesOn text (start + byteSize part) rest := by
  obtain ⟨before, rfl, rfl⟩ := here
  exact ⟨before ++ part, (List.append_assoc ..).symm, byteSize_append before part⟩

theorem forward_cons {c : Char} (here : GoesOn text start (c :: rest)) :
    GoesOn text (start + c.utf8Size) rest :=
  @forward text [c] rest start here

/-- The first character of the rest may be taken to the part before it. -/
theorem regroup {c : Char} (here : GoesOn text start (part ++ c :: rest)) :
    GoesOn text start ((part ++ [c]) ++ rest) := by
  rwa [List.append_assoc]

/-- An offset into the rest, counted from the start. -/
theorem trans {behind : List Char} (here : GoesOn text start rest)
    (there : GoesOn rest inner behind) : GoesOn text (start + inner) behind := by
  obtain ⟨front, rfl, rfl⟩ := there
  exact here.forward

theorem byteSize_eq (here : GoesOn text start rest) : byteSize text = start + byteSize rest := by
  obtain ⟨before, rfl, rfl⟩ := here
  exact byteSize_append before rest

end GoesOn

/-- There is a slice exactly from the offsets where the text goes on with it. -/
theorem sliceFrom_eq_ok_iff {text rest : List Char} {start : Nat} :
    sliceFrom text start = .ok rest ↔ GoesOn text start rest := by
  constructor
  · intro found
    unfold sliceFrom at found
    fun_induction dropBytes start text with
    | case1 text =>
      obtain rfl := Except.ok.inj found
      exact goesOn_zero _
    | case2 => cases found
    | case3 bytes c later fits inductionHypothesis =>
      obtain ⟨before, rfl, size⟩ := inductionHypothesis found
      refine ⟨c :: before, rfl, ?_⟩
      rw [byteSize_cons, size]
      omega
    | case4 => cases found
  · rintro ⟨before, rfl, rfl⟩
    rw [sliceFrom, dropBytes_append]
    rfl

/-- A text goes on with one thing only. -/
theorem GoesOn.unique {text rest other : List Char} {start : Nat} (here : GoesOn text start rest)
    (there : GoesOn text start other) : rest = other :=
  Except.ok.inj ((sliceFrom_eq_ok_iff.mpr here).symm.trans (sliceFrom_eq_ok_iff.mpr there))

theorem takeBytes_append (before after : List Char) :
    takeBytes (byteSize before) (before ++ after) = .ok before := by
  induction before with
  | nil => rw [byteSize_nil, takeBytes]
  | cons c rest inductionHypothesis =>
    have positive : 0 < c.utf8Size := c.utf8Size_pos
    obtain ⟨bytes, size⟩ : ∃ bytes, c.utf8Size + byteSize rest = bytes + 1 :=
      ⟨c.utf8Size + byteSize rest - 1, by omega⟩
    have remaining : bytes + 1 - c.utf8Size = byteSize rest := by omega
    rw [byteSize_cons, size, List.cons_append, takeBytes, if_pos (by omega), remaining,
      inductionHypothesis]
    rfl

/-- Up to a good offset is the part in front of what the text goes on with there. -/
theorem sliceTo_eq_ok {part rest : List Char} {stop : Nat}
    (there : GoesOn (part ++ rest) stop rest) : sliceTo (part ++ rest) stop = .ok part := by
  have size := there.byteSize_eq
  rw [byteSize_append, Nat.add_right_cancel_iff] at size
  rw [sliceTo, ← size, takeBytes_append]
  rfl

/-- Between two good offsets is the part that the text goes on with from the first one up to the
second one. -/
theorem slice_eq_ok {text part rest : List Char} {start stop : Nat}
    (here : GoesOn text start (part ++ rest)) (there : GoesOn text stop rest) :
    slice text start stop = .ok part := by
  have size := here.byteSize_eq
  rw [there.byteSize_eq, byteSize_append, ← Nat.add_assoc, Nat.add_right_cancel_iff] at size
  rw [slice, sliceFrom_eq_ok_iff.mpr here, ok_bind, size, subtract_add, ok_bind]
  exact sliceTo_eq_ok (goesOn_append part rest)

/-! ### Searches -/

/-- Where a character first stands in a text. -/
def offsetOf? (wanted : Char) : List Char → Option Nat
  | [] => none
  | c :: rest => if c = wanted then some 0 else (offsetOf? wanted rest).map (c.utf8Size + ·)

/-- The first offset of a character, if there is one, is where the text goes on with it. -/
theorem offsetOf?_cases (wanted : Char) (text : List Char) :
    (offsetOf? wanted text = none ∧ text.dropWhile (· ≠ wanted) = []) ∨
      ∃ start behind, offsetOf? wanted text = some start ∧
        text.dropWhile (· ≠ wanted) = wanted :: behind ∧ GoesOn text start (wanted :: behind) := by
  induction text with
  | nil => exact .inl ⟨rfl, rfl⟩
  | cons c rest inductionHypothesis =>
    by_cases same : c = wanted
    · subst same
      refine .inr ⟨0, rest, if_pos rfl, ?_, goesOn_zero _⟩
      exact List.dropWhile_cons_of_neg (by simp)
    · rw [offsetOf?, if_neg same, List.dropWhile_cons_of_pos (by simpa using same)]
      rcases inductionHypothesis with ⟨absent, all⟩ | ⟨start, behind, found, reached, there⟩
      · exact .inl ⟨by rw [absent]; rfl, all⟩
      · refine .inr ⟨c.utf8Size + start, behind, by rw [found]; rfl, reached, ?_⟩
        exact GoesOn.trans (goesOn_append [c] rest) there

/-! ### What is pending -/

/-- With nothing pending, the first part is as it is. -/
theorem modifyHead_nil (parts : List (List Char)) : parts.modifyHead ([] ++ ·) = parts := by
  cases parts <;> rfl

/-- A character that is passed over is added to what is pending for the first part. -/
theorem modifyHead_pending (pending : List Char) (c : Char) (parts : List (List Char)) :
    parts.modifyHead ((pending ++ [c]) ++ ·) =
      (parts.modifyHead (c :: ·)).modifyHead (pending ++ ·) := by
  cases parts <;> simp

/-! ### Lists of results -/

/-- Where every item has its result, all of them have. -/
theorem mapM_eq_ok {items : List Item} {careful : Item → Except Fault Result}
    {plain : Item → Result} (each : ∀ item ∈ items, careful item = .ok (plain item)) :
    items.mapM careful = .ok (items.map plain) := by
  induction items with
  | nil => rfl
  | cons first rest inductionHypothesis =>
    obtain ⟨isFirst, isRest⟩ := List.forall_mem_cons.mp each
    rw [List.mapM_cons, isFirst, ok_bind, inductionHypothesis isRest, ok_bind]
    rfl

/-- Where every item can be added, all of them can. -/
theorem foldlM_eq_ok {careful : Result → Item → Except Fault Result}
    {plain : Result → Item → Result}
    (each : ∀ result item, careful result item = .ok (plain result item)) (start : Result)
    (items : List Item) : items.foldlM careful start = .ok (items.foldl plain start) := by
  induction items generalizing start with
  | nil => rfl
  | cons first rest inductionHypothesis =>
    rw [List.foldlM_cons, each, ok_bind, inductionHypothesis, List.foldl_cons]

end SharpTypes.Checked

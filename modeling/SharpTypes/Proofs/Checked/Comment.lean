/-
Removing comments by offsets. A position runs over the bytes of a source text and stops at each
slash with a star or a slash behind it; the text between two comments is then sliced out as a whole.
Most positions are no offsets at all, since they lie inside of characters. But a byte that looks
like a slash is one, so that every slice starts and ends at good offsets.
-/

import Mathlib.Tactic.Common
import SharpTypes.Proofs.Checked.Access
import SharpTypes.Source.Comment

namespace SharpTypes.Checked

open Text Source

/-! ### Bytes -/

/-- The bytes of a text in UTF-8. -/
def bytesOf (text : List Char) : List UInt8 :=
  text.flatMap String.utf8EncodeChar

theorem length_bytesOf (text : List Char) : (bytesOf text).length = byteSize text := by
  induction text with
  | nil => rfl
  | cons c rest inductionHypothesis =>
    have whole : bytesOf (c :: rest) = String.utf8EncodeChar c ++ bytesOf rest := rfl
    rw [whole, List.length_append, String.length_utf8EncodeChar, inductionHypothesis, byteSize_cons]

/-- A byte below 128 is a character of its own. -/
theorem toNat_eq_of_mem_utf8EncodeChar {c : Char} {byte : UInt8}
    (member : byte ∈ String.utf8EncodeChar c) (small : byte.toNat < 128) :
    c.toNat = byte.toNat := by
  have value : c.toNat = c.val.toNat := rfl
  unfold String.utf8EncodeChar at member
  dsimp only at member
  -- The bytes of every longer form have their highest bit set.
  split_ifs at member <;>
    simp only [List.mem_cons, List.not_mem_nil, or_false] at member <;>
    rcases member with rfl | rfl | rfl | rfl <;>
    simp only [UInt8.toNat_ofNat'] at small ⊢ <;>
    omega

variable {source rest : List Char} {copied position : Nat} {c : Char}

/-- The bytes of a character stand from where the text goes on with it. -/
theorem getElem?_bytesOf (here : GoesOn source position (c :: rest)) {count : Nat}
    (inside : count < c.utf8Size) :
    (bytesOf source)[position + count]? = (String.utf8EncodeChar c)[count]? := by
  obtain ⟨before, rfl, rfl⟩ := here
  have whole : bytesOf (before ++ c :: rest) =
      bytesOf before ++ (String.utf8EncodeChar c ++ bytesOf rest) := by
    rw [bytesOf, List.flatMap_append]
    rfl
  rw [whole, ← length_bytesOf, List.getElem?_append_right (Nat.le_add_right _ _),
    Nat.add_sub_cancel_left, List.getElem?_append_left]
  rwa [String.length_utf8EncodeChar]

/-- Where a byte is that of a plain character, the text goes on with that character. -/
theorem eq_of_byte {wanted : Char} (plain : wanted.toNat < 128)
    (here : GoesOn source position (c :: rest)) {count : Nat} (inside : count < c.utf8Size)
    (found : (bytesOf source)[position + count]? = some wanted.toUInt8) : c = wanted := by
  have byte : wanted.toUInt8.toNat = wanted.toNat := by
    show wanted.val.toUInt8.toNat = wanted.val.toNat
    rw [UInt32.toNat_toUInt8]
    exact Nat.mod_eq_of_lt (Nat.lt_trans plain (by decide))
  rw [getElem?_bytesOf here inside] at found
  have same := toNat_eq_of_mem_utf8EncodeChar (List.mem_of_getElem? found) (byte ▸ plain)
  rw [byte] at same
  exact Char.toNat_inj.mp same

/-- The byte where the text goes on with a plain character is that of the character. -/
theorem item_bytesOf (plain : c.utf8Size = 1) (here : GoesOn source position (c :: rest)) :
    item (bytesOf source) position = .ok c.toUInt8 := by
  have found : (bytesOf source)[position + 0]? = (String.utf8EncodeChar c)[0]? :=
    getElem?_bytesOf here c.utf8Size_pos
  rw [String.utf8EncodeChar_eq_singleton plain] at found
  unfold item
  rw [← Nat.add_zero position, found]
  rfl

/-! ### One comment -/

/-- Where a text first stands in another one. -/
def offsetOfText? (wanted : List Char) : List Char → Option Nat
  | [] => if wanted.isEmpty then some 0 else none
  | c :: rest =>
    if wanted.isPrefixOf (c :: rest) then some 0
    else (offsetOfText? wanted rest).map (c.utf8Size + ·)

/-- The offset behind the comment that starts at a position, if one does. -/
def commentEnd (source : List Char) (position : Nat) : Except Fault (Option Nat) := do
  let first ← item (bytesOf source) position
  if first = '/'.toUInt8 then
    let next ← item (bytesOf source) (position + 1)
    if next = '*'.toUInt8 then
      let behind ← sliceFrom source (position + 2)
      match offsetOfText? "*/".toList behind with
      | some stop => return some (position + 2 + stop + 2)
      | none => return some (byteSize source)
    else if next = '/'.toUInt8 then
      let behind ← sliceFrom source position
      match offsetOf? '\n' behind with
      | some stop => return some (position + stop)
      | none => return some (byteSize source)
    else return none
  else return none

/-- No comment starts at a byte that is not that of a slash. -/
theorem commentEnd_of_ne (within : position < byteSize source)
    (differs : (bytesOf source)[position]? ≠ some '/'.toUInt8) :
    commentEnd source position = .ok none := by
  obtain ⟨byte, found⟩ : ∃ byte, (bytesOf source)[position]? = some byte := by
    rw [← length_bytesOf] at within
    exact ⟨_, List.getElem?_eq_getElem within⟩
  have other : byte ≠ '/'.toUInt8 := fun same => differs (same ▸ found)
  unfold commentEnd item
  rw [found]
  dsimp only
  rw [ok_bind, if_neg other]
  rfl

/-- Nor at a slash with another character behind it. -/
theorem commentEnd_of_slash (here : GoesOn source position ('/' :: c :: rest)) (notStar : c ≠ '*')
    (notSlash : c ≠ '/') : commentEnd source position = .ok none := by
  have there : GoesOn source (position + 1) (c :: rest) := here.forward_cons
  obtain ⟨byte, found⟩ : ∃ byte, (bytesOf source)[position + 1]? = some byte := by
    have within : position + 1 < (bytesOf source).length := by
      rw [length_bytesOf, there.byteSize_eq]
      exact Nat.lt_add_of_pos_right (Nat.lt_add_right _ c.utf8Size_pos)
    exact ⟨_, List.getElem?_eq_getElem within⟩
  have noByte {wanted : Char} (plain : wanted.toNat < 128) (differs : c ≠ wanted) :
      byte ≠ wanted.toUInt8 := fun same =>
    differs (eq_of_byte plain there c.utf8Size_pos (same ▸ found))
  have next : item (bytesOf source) (position + 1) = .ok byte := by
    unfold item
    rw [found]
  rw [commentEnd, item_bytesOf rfl here, ok_bind, if_pos rfl, next, ok_bind,
    if_neg (noByte (by decide) notStar), if_neg (noByte (by decide) notSlash)]
  rfl

/-- The end of a line comment is where the text goes on with the line end. -/
theorem exists_commentEnd_line (here : GoesOn source position ('/' :: '/' :: rest)) :
    ∃ stop, commentEnd source position = .ok (some stop) ∧ position < stop ∧
      GoesOn source stop (Comment.afterLine rest) := by
  have next : GoesOn source (position + 1) ('/' :: rest) := here.forward_cons
  have opened : commentEnd source position =
      match offsetOf? '\n' ('/' :: '/' :: rest) with
      | some stop => .ok (some (position + stop))
      | none => .ok (some (byteSize source)) := by
    rw [commentEnd, item_bytesOf rfl here, ok_bind, if_pos rfl, item_bytesOf rfl next, ok_bind,
      if_neg (by decide), if_pos rfl, sliceFrom_eq_ok_iff.mpr here, ok_bind]
    rfl
  have sameRest : ('/' :: '/' :: rest).dropWhile (· ≠ '\n') = Comment.afterLine rest := rfl
  have within : position < byteSize source := by
    rw [here.byteSize_eq]
    exact Nat.lt_add_of_pos_right (Nat.lt_add_right _ (by decide))
  rw [opened, ← sameRest]
  rcases offsetOf?_cases '\n' ('/' :: '/' :: rest) with
    ⟨absent, all⟩ | ⟨start, behind, found, same, there⟩
  · rw [absent, all]
    exact ⟨_, rfl, within, goesOn_byteSize source⟩
  · rw [found, same]
    refine ⟨_, rfl, Nat.lt_add_of_pos_right (Nat.pos_of_ne_zero ?_), here.trans there⟩
    rintro rfl
    cases (goesOn_zero _).unique there

/-- The first delimiter at the end of a comment, if there is one, has behind it what follows the
comment. -/
theorem offsetOfText?_cases (text : List Char) :
    (offsetOfText? "*/".toList text = none ∧ Comment.afterBlock text = []) ∨
      ∃ start, offsetOfText? "*/".toList text = some start ∧
        GoesOn text start ("*/".toList ++ Comment.afterBlock text) := by
  fun_induction Comment.afterBlock text with
  | case1 => exact .inl ⟨rfl, rfl⟩
  | case2 rest => exact .inr ⟨0, rfl, goesOn_zero _⟩
  | case3 c rest other inductionHypothesis =>
    have notHere : ¬ "*/".toList.isPrefixOf (c :: rest) = true := fun isHere => by
      obtain ⟨behind, same⟩ := List.isPrefixOf_iff_prefix.mp isHere
      exact other behind (List.cons.inj same).1.symm (List.cons.inj same).2.symm
    rw [offsetOfText?, if_neg notHere]
    rcases inductionHypothesis with ⟨absent, all⟩ | ⟨start, found, there⟩
    · exact .inl ⟨by rw [absent]; rfl, all⟩
    · refine .inr ⟨c.utf8Size + start, by rw [found]; rfl, ?_⟩
      exact GoesOn.trans (goesOn_append [c] rest) there

/-- The end of a block comment is where the text goes on behind the delimiter. -/
theorem exists_commentEnd_block (here : GoesOn source position ('/' :: '*' :: rest)) :
    ∃ stop, commentEnd source position = .ok (some stop) ∧ position < stop ∧
      GoesOn source stop (Comment.afterBlock rest) := by
  have next : GoesOn source (position + 1) ('*' :: rest) := here.forward_cons
  have inside : GoesOn source (position + 2) rest := next.forward_cons
  have opened : commentEnd source position =
      match offsetOfText? "*/".toList rest with
      | some stop => .ok (some (position + 2 + stop + 2))
      | none => .ok (some (byteSize source)) := by
    rw [commentEnd, item_bytesOf rfl here, ok_bind, if_pos rfl, item_bytesOf rfl next, ok_bind,
      if_pos rfl, sliceFrom_eq_ok_iff.mpr inside, ok_bind]
    rfl
  rw [opened]
  rcases offsetOfText?_cases rest with ⟨absent, all⟩ | ⟨start, found, there⟩
  · rw [absent, all]
    refine ⟨_, rfl, ?_, goesOn_byteSize source⟩
    rw [inside.byteSize_eq]
    omega
  · rw [found]
    exact ⟨_, rfl, by omega, (inside.trans there).forward⟩

/-! ### All comments -/

/-- The source without comments from a position on, and what stands between the offset `copied` and
that position in front of it. -/
def stripFrom (source : List Char) (copied position : Nat) : Except Fault (List Char) :=
  if _inside : position + 1 < byteSize source then do
    match ← commentEnd source position with
    | none => stripFrom source copied (position + 1)
    | some stop =>
      let part ← slice source copied position
      if _ahead : position < stop then return part ++ (← stripFrom source stop stop)
      else .error .stuck
  else sliceFrom source (min copied (byteSize source))
termination_by byteSize source - position

/-- The source without its comments. -/
def strip (source : List Char) : Except Fault (List Char) :=
  stripFrom source 0 0

/-- A position at no slash is passed over. -/
theorem stripFrom_step (differs : (bytesOf source)[position]? ≠ some '/'.toUInt8) :
    stripFrom source copied position = stripFrom source copied (position + 1) := by
  by_cases inside : position + 1 < byteSize source
  · rw [stripFrom, dif_pos inside, commentEnd_of_ne (Nat.lt_of_succ_lt inside) differs, ok_bind]
  · rw [stripFrom, dif_neg inside, stripFrom, dif_neg (by omega)]

/-- So are the bytes of a character that is none. -/
theorem stripFrom_character (other : c ≠ '/') (here : GoesOn source position (c :: rest)) :
    stripFrom source copied position = stripFrom source copied (position + c.utf8Size) := by
  have passed (count : Nat) (within : count ≤ c.utf8Size) :
      stripFrom source copied position = stripFrom source copied (position + count) := by
    induction count with
    | zero => rfl
    | succ count inductionHypothesis =>
      rw [inductionHypothesis (Nat.le_of_succ_le within), stripFrom_step, Nat.add_assoc]
      exact fun found => other (eq_of_byte (by decide) here within found)
  exact passed _ (Nat.le_refl _)

theorem stripFrom_of_end (atEnd : ¬ position + 1 < byteSize source)
    (here : GoesOn source copied rest) : stripFrom source copied position = .ok rest := by
  have size := here.byteSize_eq
  rw [stripFrom, dif_neg atEnd, Nat.min_eq_left (by omega)]
  exact sliceFrom_eq_ok_iff.mpr here

/-- A comment is left out, and what is before it is sliced out. -/
theorem stripFrom_comment {pending behind : List Char} {stop : Nat}
    (inside : position + 1 < byteSize source) (ends : commentEnd source position = .ok (some stop))
    (ahead : position < stop) (here : GoesOn source copied (pending ++ rest))
    (there : GoesOn source position rest)
    (onward : stripFrom source stop stop = .ok behind) :
    stripFrom source copied position = .ok (pending ++ behind) := by
  rw [stripFrom, dif_pos inside, ends, ok_bind]
  dsimp only
  rw [slice_eq_ok here there, ok_bind, dif_pos ahead, onward]
  rfl

theorem within_of_two {d : Char} (there : GoesOn source position (c :: d :: rest)) :
    position + 1 < byteSize source := by
  have first := c.utf8Size_pos
  have second := d.utf8Size_pos
  rw [there.byteSize_eq, byteSize_cons, byteSize_cons]
  omega

/-- From a position on, what stands before it is followed by the rest without its comments. -/
theorem stripFrom_eq {pending : List Char} (here : GoesOn source copied (pending ++ rest))
    (there : GoesOn source position rest) :
    stripFrom source copied position = .ok (pending ++ Comment.strip rest) := by
  fun_induction Comment.strip rest generalizing copied position pending with
  | case1 =>
    refine stripFrom_of_end ?_ here
    rw [there.byteSize_eq, byteSize_nil]
    omega
  | case2 rest inductionHypothesis =>
    obtain ⟨stop, ends, ahead, onward⟩ := exists_commentEnd_line there
    have anew : GoesOn source stop ([] ++ Comment.afterLine rest) := onward
    exact stripFrom_comment (within_of_two there) ends ahead here there
      (inductionHypothesis anew onward)
  | case3 rest inductionHypothesis =>
    obtain ⟨stop, ends, ahead, onward⟩ := exists_commentEnd_block there
    have anew : GoesOn source stop ([] ++ Comment.afterBlock rest) := onward
    exact stripFrom_comment (within_of_two there) ends ahead here there
      (inductionHypothesis anew onward)
  | case4 c rest noLine noBlock inductionHypothesis =>
    have passed : stripFrom source copied position =
        stripFrom source copied (position + c.utf8Size) := by
      by_cases slash : c = '/'
      · subst slash
        cases rest with
        | nil =>
          have atEnd : byteSize source = position + 1 := there.byteSize_eq
          rw [stripFrom_of_end (by omega) here, stripFrom_of_end (by omega) here]
        | cons d later =>
          have ends := commentEnd_of_slash there (fun star => noBlock later rfl (by rw [star]))
            (fun slash => noLine later rfl (by rw [slash]))
          rw [stripFrom, dif_pos (within_of_two there), ends, ok_bind]
          rfl
      · exact stripFrom_character slash there
    rw [passed, ← List.singleton_append, ← List.append_assoc]
    exact inductionHypothesis here.regroup there.forward_cons

theorem strip_eq (source : List Char) : strip source = .ok (Comment.strip source) :=
  @stripFrom_eq source source 0 0 [] (goesOn_zero source) (goesOn_zero source)

end SharpTypes.Checked

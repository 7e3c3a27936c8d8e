/-
Cutting text: at every separator, at the last separator, after a number of bytes. Offsets into text
count the bytes of its UTF-8 form, so not every number is an offset: one may point past the end or
into the middle of a character.
-/

namespace SharpTypes.Text

/-! ### Separators -/

/-- The pieces between the separators. There is always one more piece than separators. -/
def splitOn (separator : Char) : List Char → List (List Char)
  | [] => [[]]
  | c :: rest =>
    if c = separator then [] :: splitOn separator rest
    else (splitOn separator rest).modifyHead (c :: ·)

theorem splitOn_ne_nil (separator : Char) (text : List Char) : splitOn separator text ≠ [] := by
  cases text with
  | nil => simp [splitOn]
  | cons c rest =>
    unfold splitOn
    split
    · simp
    · simpa using splitOn_ne_nil separator rest

/-- The text up to the first separator, or all of it. -/
def beforeFirst (separator : Char) (text : List Char) : List Char :=
  text.takeWhile (· ≠ separator)

/-- The text after the last separator, or all of it. -/
def afterLast (separator : Char) (text : List Char) : List Char :=
  (text.reverse.takeWhile (· ≠ separator)).reverse

/-- The texts one after the other, with the separator between neighbours. -/
def join (separator : List Char) (pieces : List (List Char)) : List Char :=
  separator.intercalate pieces

/-- What follows the last separator holds none. -/
theorem not_mem_afterLast (separator : Char) (text : List Char) :
    separator ∉ afterLast separator text := by
  intro member
  have inTaken : separator ∈ text.reverse.takeWhile (· ≠ separator) := by
    simpa [afterLast] using member
  simpa using List.all_eq_true.1 List.all_takeWhile separator inTaken

/-! ### Known beginnings and ends -/

/-- What follows a known beginning. -/
def dropStart? (start text : List Char) : Option (List Char) :=
  if start.isPrefixOf text then some (text.drop start.length) else none

/-- What precedes a known end. -/
def dropEnd? (ending text : List Char) : Option (List Char) :=
  if ending.isSuffixOf text then some (text.take (text.length - ending.length)) else none

theorem dropStart?_eq_some_iff {start text rest : List Char} :
    dropStart? start text = some rest ↔ text = start ++ rest := by
  unfold dropStart?
  constructor
  · intro found
    split at found
    · next holds =>
      obtain ⟨after, rfl⟩ := List.isPrefixOf_iff_prefix.1 holds
      simpa using found
    · simp at found
  · rintro rfl
    rw [if_pos (List.isPrefixOf_iff_prefix.2 (List.prefix_append _ _))]
    simp

theorem length_dropStart?_le {start text rest : List Char}
    (found : dropStart? start text = some rest) : rest.length ≤ text.length := by
  have sizes := congrArg List.length (dropStart?_eq_some_iff.1 found)
  simp only [List.length_append] at sizes
  omega

theorem dropEnd?_eq_some_iff {ending text rest : List Char} :
    dropEnd? ending text = some rest ↔ text = rest ++ ending := by
  unfold dropEnd?
  constructor
  · intro found
    split at found
    · next holds =>
      obtain ⟨before, rfl⟩ := List.isSuffixOf_iff_suffix.1 holds
      simpa using found
    · simp at found
  · rintro rfl
    rw [if_pos (List.isSuffixOf_iff_suffix.2 (List.suffix_append _ _))]
    simp

/-! ### Bytes -/

/-- The number of bytes of the text in UTF-8. -/
def byteSize (text : List Char) : Nat :=
  text.foldr (fun c size => c.utf8Size + size) 0

@[simp] theorem byteSize_nil : byteSize [] = 0 := rfl

@[simp] theorem byteSize_cons (c : Char) (text : List Char) :
    byteSize (c :: text) = c.utf8Size + byteSize text := rfl

@[simp] theorem byteSize_append (left right : List Char) :
    byteSize (left ++ right) = byteSize left + byteSize right := by
  induction left with
  | nil => simp
  | cons c left ih => simp [ih, Nat.add_assoc]

/-- Why a number is not an offset into a text. -/
inductive BadOffset where
  | pastEnd
  | insideCharacter
  deriving DecidableEq, Repr

/-- The text after the given number of bytes. -/
def dropBytes : Nat → List Char → Except BadOffset (List Char)
  | 0, text => .ok text
  | _ + 1, [] => .error .pastEnd
  | bytes + 1, c :: rest =>
    if c.utf8Size ≤ bytes + 1 then dropBytes (bytes + 1 - c.utf8Size) rest
    else .error .insideCharacter

/-- The end of any part in front is an offset. -/
theorem dropBytes_append (before after : List Char) :
    dropBytes (byteSize before) (before ++ after) = .ok after := by
  induction before with
  | nil => simp [dropBytes]
  | cons c rest inductionHypothesis =>
    have positive : 0 < c.utf8Size := c.utf8Size_pos
    obtain ⟨bytes, size⟩ : ∃ bytes, c.utf8Size + byteSize rest = bytes + 1 :=
      ⟨c.utf8Size + byteSize rest - 1, by omega⟩
    rw [byteSize_cons, size, List.cons_append, dropBytes, if_pos (by omega)]
    rw [show bytes + 1 - c.utf8Size = byteSize rest by omega]
    exact inductionHypothesis

end SharpTypes.Text

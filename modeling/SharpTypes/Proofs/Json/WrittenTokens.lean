/-
The tokens of written values. A value is written without blanks, so its tokens follow from its form
alone: a string is cut into the characters it was made of, whatever had to be escaped, and a number
ends where its digits do, since no digit can follow a value.
-/

import Mathlib.Tactic.Common
import SharpTypes.Json.Number
import SharpTypes.Json.Printer
import SharpTypes.Json.Token
import SharpTypes.Proofs.Text.Word

namespace SharpTypes.Json

open Text

/-! ### Strings -/

theorem hexValue?_hexDigit {value : Nat} (small : value < 16) :
    hexValue? (hexDigit value) = some value := by
  revert value
  decide

/-- Four digits that begin with two zeros name a character below 256. -/
theorem unitPiece?_hexDigit {c : Char} (control : c.toNat < 0x20) :
    unitPiece? '0' '0' (hexDigit (c.toNat / 16)) (hexDigit (c.toNat % 16)) =
      some (.character c) := by
  have high : hexValue? (hexDigit (c.toNat / 16)) = some (c.toNat / 16) :=
    hexValue?_hexDigit (by omega)
  have low : hexValue? (hexDigit (c.toNat % 16)) = some (c.toNat % 16) :=
    hexValue?_hexDigit (by omega)
  have zero : hexValue? '0' = some 0 := by decide
  have whole : 0 * 4096 + 0 * 256 + c.toNat / 16 * 16 + c.toNat % 16 = c.toNat := by omega
  rw [unitPiece?, zero, high, low]
  show some (if _ then _ else _) = _
  rw [whole, if_neg (by omega), Char.ofNat_toNat]

/-- An escaped character is read as itself. -/
theorem stringPieces?_escape (c : Char) (behind : List Char) :
    stringPieces? (escape c ++ behind) =
      (stringPieces? behind).map fun found => (.character c :: found.1, found.2) := by
  unfold escape
  split
  case h_8 notQuote notBackslash _ _ _ _ _ =>
    split
    · next control =>
      show stringPieces? ('\\' :: 'u' :: '0' :: '0' :: hexDigit (c.toNat / 16) ::
        hexDigit (c.toNat % 16) :: behind) = _
      rw [stringPieces?, unitPiece?_hexDigit control]
      rfl
    · next visible =>
      have read : stringPieces? (c :: behind) =
          if c.toNat < 0x20 ∨ c = '\\' then none
          else (stringPieces? behind).map fun found => (.character c :: found.1, found.2) := by
        rw [stringPieces?.eq_def]
        split <;> simp_all
      have allowed : ¬ (c.toNat < 0x20 ∨ c = '\\') := not_or.mpr ⟨by omega, notBackslash⟩
      rw [if_neg allowed] at read
      exact read
  all_goals rfl

/-- A quoted text is read to its closing quote. -/
theorem stringPieces?_quoted (text behind : List Char) :
    stringPieces? (text.flatMap escape ++ '"' :: behind) = some (text.map .character, behind) := by
  induction text with
  | nil => rfl
  | cons c rest inductionHypothesis =>
    rw [List.flatMap_cons, List.append_assoc, stringPieces?_escape, inductionHypothesis]
    rfl

theorem pieceText?_map_character (text : List Char) :
    pieceText? (text.map .character) = some text := by
  induction text with
  | nil => rfl
  | cons c rest inductionHypothesis =>
    rw [List.map_cons, pieceText?, inductionHypothesis]
    rfl

/-! ### Numbers -/

/-- The text does not go on with anything that could belong to a number. -/
def EndsNumber (text : List Char) : Prop :=
  Stops (fun c => isDigit c || c == '.' || c == 'e' || c == 'E') text

theorem EndsNumber.stops_isDigit {text : List Char} (ends : EndsNumber text) :
    Stops isDigit text := by
  intro c first
  have outside := ends c first
  simp only [Bool.or_eq_false_iff] at outside
  exact outside.1.1.1

theorem isDigit_of_mem_repr {c : Char} {number : Nat} (member : c ∈ (Nat.repr number).toList) :
    isDigit c = true := by
  rw [Nat.toList_repr] at member
  have digit := Nat.isDigit_of_mem_toDigits (by decide) (by decide) member
  simpa [Char.isDigit, isDigit, Char.le_def] using digit

/-- Only zero is written with a zero in front. -/
theorem head?_repr {number : Nat} (positive : 0 < number) :
    (Nat.repr number).toList.head? ≠ some '0' := by
  rw [Nat.toList_repr]
  induction number using Nat.strong_induction_on with
  | _ number inductionHypothesis =>
    by_cases small : number < 10
    · have digits : ∀ digit < 10, 0 < digit → [digit.digitChar].head? ≠ some '0' := by decide
      rw [Nat.toDigits_of_lt_base small]
      exact digits number small positive
    · rw [Nat.toDigits_of_base_le (by decide) (by omega),
        List.head?_append_of_ne_nil _ Nat.toDigits_ne_nil]
      exact inductionHypothesis (number / 10) (by omega) (by omega)

theorem wholeDigits?_repr (number : Nat) {behind : List Char} (stops : Stops isDigit behind) :
    wholeDigits? ((Nat.repr number).toList ++ behind) =
      some ((Nat.repr number).toList, behind) := by
  have cut : digits ((Nat.repr number).toList ++ behind) = ((Nat.repr number).toList, behind) := by
    rw [digits, takeWhile_append_of_stops (fun _ => isDigit_of_mem_repr) stops,
      dropWhile_append_of_stops (fun _ => isDigit_of_mem_repr) stops]
  rw [wholeDigits?, cut]
  split
  · next empty =>
    rw [Nat.toList_repr] at empty
    exact absurd (Prod.mk.inj empty).1 Nat.toDigits_ne_nil
  · next second _ leading =>
    have written := (Prod.mk.inj leading).1
    rcases Nat.eq_zero_or_pos number with rfl | positive
    · rw [Nat.toList_repr, Nat.toDigits_zero] at written
      cases written
    · exact absurd (congrArg List.head? written) (head?_repr positive)
  · rfl

/-- A row of digits without point and exponent is read to its end. -/
theorem number?_repr (isNegative : Bool) (number : Nat) {behind : List Char}
    (ends : EndsNumber behind) :
    number? isNegative ((Nat.repr number).toList ++ behind) =
      some (⟨isNegative, (Nat.repr number).toList, [], none⟩, behind) := by
  have noFraction : fractionDigits? behind = some ([], behind) := by
    unfold fractionDigits?
    split
    · exact absurd (ends '.' rfl) (by decide)
    · rfl
  have noExponent : exponent? behind = some (none, behind) := by
    cases behind with
    | nil => rfl
    | cons c rest =>
      rw [exponent?, if_neg]
      rintro (rfl | rfl) <;> exact absurd (ends _ rfl) (by decide)
  rw [number?, wholeDigits?_repr number ends.stops_isDigit]
  show (fractionDigits? behind).bind _ = _
  rw [noFraction]
  show (exponent? behind).bind _ = _
  rw [noExponent]
  rfl

/-- A digit starts nothing but a number. -/
theorem token?_of_isDigit {c : Char} (digit : isDigit c = true) (rest : List Char) :
    token? c rest =
      (number? false (c :: rest)).map fun (value, after) => (.number value, after) := by
  unfold token?
  split
  case h_9 => rw [if_pos digit]
  all_goals exact absurd digit (by decide)

/-! ### One token -/

theorem tokens_cons {c : Char} {rest after : List Char} {token : Token}
    (notBlank : isJsonBlank c = false) (found : token? c rest = some (token, after)) :
    tokens (c :: rest) = token :: tokens after := by
  rw [tokens, if_neg (by rw [notBlank]; exact Bool.false_ne_true)]
  split
  · next given =>
    obtain ⟨rfl, rfl⟩ := Prod.mk.inj (Option.some.inj (given.symm.trans found))
    rfl
  · next given =>
    rw [found] at given
    cases given

theorem tokens_quote (text behind : List Char) :
    tokens (quote text ++ behind) = .string (some text) :: tokens behind := by
  have written : quote text ++ behind = '"' :: (text.flatMap escape ++ '"' :: behind) := by
    simp [quote]
  rw [written]
  refine tokens_cons (by decide) ?_
  show (stringPieces? _).map _ = _
  rw [stringPieces?_quoted]
  simp only [Option.map_some, pieceText?_map_character]

theorem tokens_ofInt (value : Int) {behind : List Char} (ends : EndsNumber behind) :
    tokens ((Number.ofInt value).render ++ behind) =
      .number (.ofInt value) :: tokens behind := by
  by_cases negative : value < 0
  · have written : (Number.ofInt value).render ++ behind =
        '-' :: ((Nat.repr value.natAbs).toList ++ behind) := by
      simp [Number.ofInt, Number.render, negative]
    rw [written]
    refine tokens_cons (by decide) ?_
    show (number? true _).map _ = _
    rw [number?_repr true value.natAbs ends]
    simp [Number.ofInt, negative]
  · have written : (Number.ofInt value).render ++ behind =
        (Nat.repr value.natAbs).toList ++ behind := by
      simp [Number.ofInt, Number.render, negative]
    have read := number?_repr false value.natAbs ends
    rw [written]
    obtain ⟨c, rest, digits⟩ : ∃ c rest, (Nat.repr value.natAbs).toList = c :: rest := by
      rw [Nat.toList_repr]
      exact List.exists_cons_of_ne_nil Nat.toDigits_ne_nil
    have digit : isDigit c = true := isDigit_of_mem_repr (digits ▸ List.mem_cons_self)
    rw [digits, List.cons_append] at read ⊢
    refine tokens_cons ?_ ?_
    · by_contra blank
      rw [Bool.not_eq_false] at blank
      simp only [isJsonBlank, Bool.or_eq_true, beq_iff_eq] at blank
      rcases blank with ((rfl | rfl) | rfl) | rfl <;> exact absurd digit (by decide)
    · rw [token?_of_isDigit digit, read]
      simp [Number.ofInt, negative, digits]

/-! ### Whole values -/

/-- A value whose numbers are integers of 64 bits, signed or not, and whose containers nest to at
most the given depth. -/
inductive IsPlain : Nat → Json → Prop where
  | null (depth : Nat) : IsPlain depth .null
  | boolean (depth : Nat) (value : Bool) : IsPlain depth (.boolean value)
  | string (depth : Nat) (text : List Char) : IsPlain depth (.string text)
  | integer (depth : Nat) {value : Int} (least : -0x8000000000000000 ≤ value)
    (most : value < 0x10000000000000000) : IsPlain depth (.ofInt value)
  | array {depth : Nat} {items : List Json} (plain : ∀ item ∈ items, IsPlain depth item) :
    IsPlain (depth + 1) (.array items)
  | object {depth : Nat} {members : List (List Char × Json)}
    (plain : ∀ entry ∈ members, IsPlain depth entry.2) : IsPlain (depth + 1) (.object members)

mutual

/-- The tokens that a value is written with. -/
def writtenTokens : Json → List Token
  | .null => [.null]
  | .boolean value => [.boolean value]
  | .number value => [.number value]
  | .string text => [.string (some text)]
  | .array [] => [.beginArray, .endArray]
  | .array (first :: rest) =>
    .beginArray :: (writtenTokens first ++ (furtherItemTokens rest ++ [.endArray]))
  | .object [] => [.beginObject, .endObject]
  | .object ((name, value) :: rest) =>
    .beginObject :: .string (some name) :: .colon ::
      (writtenTokens value ++ (furtherMemberTokens rest ++ [.endObject]))

/-- The tokens of the items after the first, each behind a comma. -/
def furtherItemTokens : List Json → List Token
  | [] => []
  | item :: rest => .comma :: (writtenTokens item ++ furtherItemTokens rest)

/-- The tokens of the members after the first, each behind a comma. -/
def furtherMemberTokens : List (List Char × Json) → List Token
  | [] => []
  | (name, value) :: rest =>
    .comma :: .string (some name) :: .colon :: (writtenTokens value ++ furtherMemberTokens rest)

end

theorem endsNumber_renderItems (items : List Json) (behind : List Char) :
    EndsNumber (renderItems items ++ ']' :: behind) := by
  cases items with
  | nil => exact stops_cons (by decide) _
  | cons item rest => exact stops_cons (by decide) _

theorem endsNumber_renderMembers (members : List (List Char × Json)) (behind : List Char) :
    EndsNumber (renderMembers members ++ '}' :: behind) := by
  cases members with
  | nil => exact stops_cons (by decide) _
  | cons entry rest => exact stops_cons (by decide) _

mutual

/-- The tokens of a written value are those of its form. -/
theorem tokens_render {depth : Nat} :
    (value : Json) → value.IsPlain depth → ∀ {behind : List Char}, EndsNumber behind →
      tokens (render value ++ behind) = writtenTokens value ++ tokens behind
  | .null, _, _, _ => tokens_cons (by decide) rfl
  | .boolean true, _, _, _ => tokens_cons (by decide) rfl
  | .boolean false, _, _, _ => tokens_cons (by decide) rfl
  | .number _, .integer _ _ _, _, ends => tokens_ofInt _ ends
  | .string text, _, behind, _ => tokens_quote text behind
  | .array [], _, _, _ => by
    rw [render]
    exact (tokens_cons (by decide) rfl).trans (congrArg _ (tokens_cons (by decide) rfl))
  | .array (first :: rest), .array plain, behind, _ => by
    obtain ⟨plainFirst, plainRest⟩ := List.forall_mem_cons.mp plain
    have written : render (.array (first :: rest)) ++ behind =
        '[' :: (render first ++ (renderItems rest ++ ']' :: behind)) := by
      simp [render]
    rw [written, tokens_cons (by decide) rfl,
      tokens_render first plainFirst (endsNumber_renderItems rest behind),
      tokens_renderItems rest plainRest, tokens_cons (by decide) rfl]
    simp [writtenTokens]
  | .object [], _, _, _ => by
    rw [render]
    exact (tokens_cons (by decide) rfl).trans (congrArg _ (tokens_cons (by decide) rfl))
  | .object ((name, value) :: rest), .object plain, behind, _ => by
    obtain ⟨plainFirst, plainRest⟩ := List.forall_mem_cons.mp plain
    have written : render (.object ((name, value) :: rest)) ++ behind =
        '{' :: (quote name ++ ':' :: (render value ++ (renderMembers rest ++ '}' :: behind))) := by
      simp [render]
    rw [written, tokens_cons (by decide) rfl, tokens_quote, tokens_cons (by decide) rfl,
      tokens_render value plainFirst (endsNumber_renderMembers rest behind),
      tokens_renderMembers rest plainRest, tokens_cons (by decide) rfl]
    simp [writtenTokens]

theorem tokens_renderItems {depth : Nat} :
    (items : List Json) → (∀ item ∈ items, item.IsPlain depth) → ∀ {behind : List Char},
      tokens (renderItems items ++ ']' :: behind) =
        furtherItemTokens items ++ tokens (']' :: behind)
  | [], _, _ => rfl
  | item :: rest, plain, behind => by
    obtain ⟨plainFirst, plainRest⟩ := List.forall_mem_cons.mp plain
    have written : renderItems (item :: rest) ++ ']' :: behind =
        ',' :: (render item ++ (renderItems rest ++ ']' :: behind)) := by
      simp [renderItems]
    rw [written, tokens_cons (by decide) rfl,
      tokens_render item plainFirst (endsNumber_renderItems rest behind),
      tokens_renderItems rest plainRest]
    simp [furtherItemTokens]

theorem tokens_renderMembers {depth : Nat} :
    (members : List (List Char × Json)) → (∀ entry ∈ members, entry.2.IsPlain depth) →
      ∀ {behind : List Char}, tokens (renderMembers members ++ '}' :: behind) =
        furtherMemberTokens members ++ tokens ('}' :: behind)
  | [], _, _ => rfl
  | (name, value) :: rest, plain, behind => by
    obtain ⟨plainFirst, plainRest⟩ := List.forall_mem_cons.mp plain
    have written : renderMembers ((name, value) :: rest) ++ '}' :: behind =
        ',' :: (quote name ++ ':' :: (render value ++ (renderMembers rest ++ '}' :: behind))) := by
      simp [renderMembers]
    rw [written, tokens_cons (by decide) rfl, tokens_quote, tokens_cons (by decide) rfl,
      tokens_render value plainFirst (endsNumber_renderMembers rest behind),
      tokens_renderMembers rest plainRest]
    simp [furtherMemberTokens]

end

/-- The tokens of a written value that stands alone. -/
theorem tokens_render_alone {depth : Nat} {value : Json} (plain : value.IsPlain depth) :
    tokens (render value) = writtenTokens value := by
  have ends : EndsNumber [] := nofun
  have written := tokens_render value plain ends
  rwa [tokens, List.append_nil, List.append_nil] at written

end SharpTypes.Json

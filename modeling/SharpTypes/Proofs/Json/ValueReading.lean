/-
Reading what was written. The reader takes the tokens of a value one by one, and wherever it stands,
in a container or outside of all of them, it goes on behind a value as if that had been read at
once. So a written value is read back as it was, if its containers do not nest too deep.
-/

import Mathlib.Tactic.Common
import SharpTypes.Json.Reader
import SharpTypes.Proofs.Json.WrittenTokens

namespace SharpTypes.Json

/-- What comes of the tokens behind a value that is done inside the given containers. -/
def readOn (care : Care) (frames : List Frame) (done : Json) (behind : List Token) :
    Option (Json × List Token) :=
  match Step.finish done frames with
  | .fault => none
  | .complete value => some (value, behind)
  | .goOn frames phase => read care frames phase behind

/-- As many containers may be open in a value that is read with this care. -/
def Care.Fits (care : Care) (opened : Nat) : Prop :=
  ∀ depth, care = .full depth → opened ≤ depth

theorem Care.fits_skim (opened : Nat) : Care.skim.Fits opened := nofun

theorem Care.fits_full {opened depth : Nat} (few : opened ≤ depth) :
    (Care.full depth).Fits opened := by
  intro limit same
  obtain rfl := Care.full.inj same
  exact few

section Reading

variable {care : Care} {frames outer : List Frame} {behind : List Token}

theorem readOn_nil (care : Care) (done : Json) (behind : List Token) :
    readOn care [] done behind = some (done, behind) := rfl

theorem readOn_cons (care : Care) (frame : Frame) (outer : List Frame) (done : Json)
    (behind : List Token) :
    readOn care (frame :: outer) done behind =
      read care (frame :: outer) (.next done) behind := rfl

theorem read_of_finish {phase : Phase} {token : Token} {done : Json} {frames' : List Frame}
    (finishes : Step.of care frames phase token = Step.finish done frames') :
    read care frames phase (token :: behind) = readOn care frames' done behind := by
  rw [read, finishes]
  unfold readOn
  cases Step.finish done frames' <;> rfl

theorem read_of_goOn {phase phase' : Phase} {token : Token} {frames' : List Frame}
    (goesOn : Step.of care frames phase token = .goOn frames' phase') :
    read care frames phase (token :: behind) = read care frames' phase' behind := by
  rw [read, goesOn]

/-! ### Single tokens -/

theorem Care.admits_of_fits {opened depth : Nat} (fits : care.Fits (opened + (depth + 1))) :
    care.admits opened = true := by
  cases care with
  | skim => rfl
  | full limit =>
    have few := fits limit rfl
    exact decide_eq_true (by omega)

/-- Inside of one more container there is one level less. -/
theorem Care.Fits.inside {depth : Nat} (fits : care.Fits (frames.length + (depth + 1)))
    (frame : Frame) : care.Fits ((frame :: frames).length + depth) := by
  rw [List.length_cons, Nat.add_assoc, Nat.add_comm 1]
  exact fits

/-- An integer of 64 bits has a value. -/
theorem isSome_value?_ofInt {value : Int} (least : -0x8000000000000000 ≤ value)
    (most : value < 0x10000000000000000) : (Number.ofInt value).value?.isSome = true := by
  have magnitude : Number.natural (Nat.repr value.natAbs).toList = value.natAbs := by
    have digits := Nat.ofDigitChars_ten_toDigits (n := value.natAbs)
    rw [Nat.ofDigitChars_eq_foldl] at digits
    rw [Number.natural, Nat.toList_repr]
    simpa only [Number.digitValue, Nat.mul_comm 10] using digits
  unfold Number.value?
  simp only [Number.ofInt, magnitude, List.isEmpty_nil, Option.isNone_none, Bool.and_true, if_true]
  by_cases negative : value < 0
  · rw [if_pos (decide_eq_true negative), if_pos]
    · rfl
    · simp only [UInt64.size]
      omega
  · rw [if_neg (by simpa using negative), if_pos]
    · rfl
    · simp only [UInt64.size]
      omega

theorem read_scalar {token : Token} {value : Json} (scalar : care.scalar? token = some value)
    (notArray : token ≠ .beginArray) (notObject : token ≠ .beginObject) :
    read care frames .value (token :: behind) = readOn care frames value behind := by
  refine read_of_finish ?_
  show Step.start care frames token = _
  unfold Step.start
  split <;> simp_all

theorem scalar?_string (care : Care) (text : List Char) :
    care.scalar? (.string (some text)) = some (.string text) := by
  cases care <;> rfl

theorem scalar?_integer (care : Care) {value : Int} (least : -0x8000000000000000 ≤ value)
    (most : value < 0x10000000000000000) :
    care.scalar? (.number (.ofInt value)) = some (.ofInt value) :=
  if_pos (.inr (isSome_value?_ofInt least most))

theorem of_firstName (care : Care) (frames : List Frame) (name : List Char) :
    Step.of care frames .firstName (.string (some name)) = .goOn frames (.colon [] name) := by
  cases care <;> rfl

theorem of_name (care : Care) (frames : List Frame) (members : List (List Char × Json))
    (name : List Char) :
    Step.of care frames (.name members) (.string (some name)) =
      .goOn frames (.colon members name) := by
  cases care <;> rfl

/-- The first item of an array is read like any value. -/
theorem read_firstItem (value : Json) :
    read care frames .firstItem (writtenTokens value ++ behind) =
      read care frames .value (writtenTokens value ++ behind) := by
  match value with
  | .null => rfl
  | .boolean _ => rfl
  | .number _ => rfl
  | .string _ => rfl
  | .array [] => rfl
  | .array (_ :: _) => rfl
  | .object [] => rfl
  | .object ((_, _) :: _) => rfl

/-! ### Whole values -/

mutual

/-- A written value is read at once. -/
theorem read_written {depth : Nat} :
    (value : Json) → value.IsPlain depth → ∀ {frames : List Frame} {behind : List Token},
      care.Fits (frames.length + depth) →
        read care frames .value (writtenTokens value ++ behind) = readOn care frames value behind
  | .null, _, _, _, _ => read_scalar rfl nofun nofun
  | .boolean _, _, _, _, _ => read_scalar rfl nofun nofun
  | .number _, .integer _ least most, _, _, _ =>
    read_scalar (scalar?_integer care least most) nofun nofun
  | .string text, _, _, _, _ => read_scalar (scalar?_string care text) nofun nofun
  | .array [], .array _, frames, behind, fits => by
    have opens : Step.of care frames .value .beginArray = .goOn (.array [] :: frames) .firstItem :=
      if_pos (Care.admits_of_fits fits)
    exact (read_of_goOn opens).trans (read_of_finish rfl)
  | .array (first :: rest), .array plain, frames, behind, fits => by
    obtain ⟨plainFirst, plainRest⟩ := List.forall_mem_cons.mp plain
    have opens : Step.of care frames .value .beginArray = .goOn (.array [] :: frames) .firstItem :=
      if_pos (Care.admits_of_fits fits)
    rw [writtenTokens, List.cons_append, read_of_goOn opens, List.append_assoc, read_firstItem,
      read_written first plainFirst (fits.inside _), readOn_cons, List.append_assoc,
      List.singleton_append, read_writtenItems rest plainRest fun _ => fits.inside _]
    rfl
  | .object [], .object _, frames, behind, fits => by
    have opens : Step.of care frames .value .beginObject = .goOn frames .firstName :=
      if_pos (Care.admits_of_fits fits)
    exact (read_of_goOn opens).trans (read_of_finish rfl)
  | .object ((name, value) :: rest), .object plain, frames, behind, fits => by
    obtain ⟨plainFirst, plainRest⟩ := List.forall_mem_cons.mp plain
    have opens : Step.of care frames .value .beginObject = .goOn frames .firstName :=
      if_pos (Care.admits_of_fits fits)
    rw [writtenTokens, List.cons_append, read_of_goOn opens, List.cons_append,
      read_of_goOn (of_firstName care frames name), List.cons_append, read_of_goOn rfl,
      List.append_assoc, read_written value plainFirst (fits.inside _), readOn_cons,
      List.append_assoc, List.singleton_append,
      read_writtenMembers rest plainRest fun _ _ => fits.inside _]
    rfl

/-- The items behind the first are read up to the end of the array. -/
theorem read_writtenItems {depth : Nat} :
    (rest : List Json) → (∀ item ∈ rest, item.IsPlain depth) →
      ∀ {outer : List Frame} {items : List Json} {done : Json} {behind : List Token},
      (∀ items, care.Fits ((Frame.array items :: outer).length + depth)) →
        read care (.array items :: outer) (.next done)
            (furtherItemTokens rest ++ .endArray :: behind) =
          readOn care outer (.array ((done :: items).reverse ++ rest)) behind
  | [], _, outer, items, done, behind, _ => by
    rw [List.append_nil]
    exact read_of_finish rfl
  | item :: rest, plain, outer, items, done, behind, fits => by
    obtain ⟨plainFirst, plainRest⟩ := List.forall_mem_cons.mp plain
    rw [furtherItemTokens, List.cons_append, read_of_goOn rfl, List.append_assoc,
      read_written item plainFirst (fits _), readOn_cons, read_writtenItems rest plainRest fits,
      List.reverse_cons, List.append_assoc, List.singleton_append]

/-- The members behind the first are read up to the end of the object. -/
theorem read_writtenMembers {depth : Nat} :
    (rest : List (List Char × Json)) → (∀ entry ∈ rest, entry.2.IsPlain depth) →
      ∀ {outer : List Frame} {members : List (List Char × Json)} {name : List Char} {done : Json}
        {behind : List Token},
      (∀ members name, care.Fits ((Frame.object members name :: outer).length + depth)) →
        read care (.object members name :: outer) (.next done)
            (furtherMemberTokens rest ++ .endObject :: behind) =
          readOn care outer (.object (((name, done) :: members).reverse ++ rest)) behind
  | [], _, outer, members, name, done, behind, _ => by
    rw [List.append_nil]
    exact read_of_finish rfl
  | (next, value) :: rest, plain, outer, members, name, done, behind, fits => by
    obtain ⟨plainFirst, plainRest⟩ := List.forall_mem_cons.mp plain
    rw [furtherMemberTokens, List.cons_append, read_of_goOn rfl, List.cons_append,
      read_of_goOn (of_name care outer _ next), List.cons_append, read_of_goOn rfl,
      List.append_assoc, read_written value plainFirst (fits _ _), readOn_cons,
      read_writtenMembers rest plainRest fits, List.reverse_cons, List.append_assoc,
      List.singleton_append]

end

/-- The tokens of a written value are read as that value, and nothing behind them is touched. -/
theorem value?_written {depth : Nat} {value : Json} (plain : value.IsPlain depth)
    (fits : care.Fits depth) (behind : List Token) :
    value? care (writtenTokens value ++ behind) = some (value, behind) := by
  rw [value?, read_written value plain (by rwa [List.length_nil, Nat.zero_add]), readOn_nil]

end Reading

end SharpTypes.Json

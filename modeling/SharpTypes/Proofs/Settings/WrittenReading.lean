/-
Settings from written values. A text is read token by token, and what a field holds decides how far
ahead the reader looks. Where the values of an object give settings, each reader takes exactly the
tokens that its value was written with, so the written object gives the same settings.
-/

import Mathlib.Tactic.Common
import SharpTypes.Proofs.Json.ValueReading
import SharpTypes.Settings.Reading

namespace SharpTypes.Settings

open Json (Care Token furtherMemberTokens writtenTokens)

section Reading

variable {depth : Nat} {value : Json} {behind : List Token}

/-! ### Values -/

theorem readToken_self (token : Token) (rest : List Token) :
    readToken token (token :: rest) = .ok rest :=
  if_pos rfl

theorem readValue_written {care : Care} (plain : value.IsPlain depth) (fits : care.Fits depth) :
    readValue care (writtenTokens value ++ behind) = .ok (value, behind) := by
  rw [readValue, Json.value?_written plain fits]

/-- A value that is no container shows itself in one token. -/
theorem glance_written (plain : value.IsPlain depth) (notArray : ∀ items, value ≠ .array items)
    (notObject : ∀ members, value ≠ .object members) :
    glance (writtenTokens value ++ behind) = .ok (value, behind) := by
  cases plain with
  | null => rfl
  | boolean => rfl
  | string text => rfl
  | integer _ least most =>
    have scalar := Json.scalar?_integer (Care.full innerDepth) least most
    rw [Json.ofInt, writtenTokens, List.singleton_append, glance, scalar]
    · rfl
    · rintro ⟨⟩
    · rintro ⟨⟩
  | array => exact absurd rfl (notArray _)
  | object => exact absurd rfl (notObject _)

theorem eq_null_of_check (fills : Filler.null.check value = .ok ()) : value = .null := by
  unfold Filler.check at fills
  split at fills
  · rfl
  · contradiction
  · cases fills

/-- A naming convention is read from what is written for it. -/
theorem readConvention_written {convention : NamingConvention}
    (decodes : decodeConvention .null value = .ok convention) :
    readConvention (writtenTokens value ++ behind) = .ok (convention, behind) := by
  unfold decodeConvention at decodes
  split at decodes
  · next name =>
    show (ofValue (decodeConventionName name)).bind _ = _
    rw [decodes]
    rfl
  · next name inner =>
    obtain ⟨found, named, decodes⟩ := eq_of_bind_eq_ok decodes
    obtain ⟨_, fills, same⟩ := eq_of_bind_eq_ok decodes
    obtain rfl := eq_null_of_check fills
    obtain rfl := Except.ok.inj same
    show (ofValue (decodeConventionName name)).bind _ = _
    rw [named]
    rfl
  · cases decodes
  · cases decodes

/-- Only the two conventions may be given by containers. -/
theorem no_container_of_decode {filler : Filler} {draft draft' : Draft} {field : Field}
    (notMembers : field ≠ .memberNaming) (notPaths : field ≠ .pathNaming)
    (decodes : draft.decode filler value field = .ok draft') :
    (∀ items, value ≠ .array items) ∧ ∀ members, value ≠ .object members := by
  constructor <;> rintro inner rfl <;> cases field <;>
    first | exact absurd rfl notMembers | exact absurd rfl notPaths | cases decodes

/-! ### Members -/

theorem readField_written {draft draft' : Draft} {field : Field}
    (plain : value.IsPlain innerDepth) (decodes : draft.decode .null value field = .ok draft') :
    readField draft field (writtenTokens value ++ behind) = .ok (draft', behind) := by
  by_cases members : field = .memberNaming
  · subst members
    obtain ⟨convention, named, same⟩ := eq_of_bind_eq_ok decodes
    obtain rfl := Except.ok.inj same
    show (readConvention _).bind _ = _
    rw [readConvention_written named]
    rfl
  by_cases paths : field = .pathNaming
  · subst paths
    show (readValue _ _).bind _ = _
    rw [readValue_written plain (Care.fits_full le_rfl)]
    show (ofValue (draft.decode .null value .pathNaming)).bind _ = _
    rw [decodes]
    rfl
  · obtain ⟨notArray, notObject⟩ := no_container_of_decode members paths decodes
    have glanced : readField draft field (writtenTokens value ++ behind) =
        (glance (writtenTokens value ++ behind)).bind fun found =>
          (ofValue (draft.decode .null found.1 field)).bind fun draft => .ok (draft, found.2) := by
      cases field <;> first | rfl | contradiction
    rw [glanced, glance_written plain notArray notObject]
    show (ofValue (draft.decode .null value field)).bind _ = _
    rw [decodes]
    rfl

/-- A member that changes a draft as a value changes it in the same way where it is written. -/
theorem readMember_written {draft draft' : Draft} {name : List Char}
    (plain : value.IsPlain innerDepth)
    (decodes : decodeMember .null draft (name, value) = .ok draft') :
    readMember draft name (.colon :: (writtenTokens value ++ behind)) = .ok (draft', behind) := by
  unfold decodeMember at decodes
  unfold readMember
  cases known : Field.ofName? name with
  | none =>
    rw [known] at decodes
    obtain rfl := Except.ok.inj decodes
    show (readToken _ _).bind _ = _
    rw [readToken_self]
    show (readValue _ _).bind _ = _
    rw [readValue_written plain (Care.fits_skim _)]
    rfl
  | some field =>
    rw [known] at decodes
    obtain ⟨_, fresh, decodes⟩ := eq_of_bind_eq_ok decodes
    show (ofValue (draft.refuseTwice field)).bind _ = _
    rw [fresh]
    show (readToken .colon (.colon :: _)).bind (readField draft field) = _
    rw [readToken_self]
    exact readField_written plain decodes

/-- The members of a written object change a draft as their values do. -/
theorem readMembers_written {draft draft' : Draft} {name : List Char}
    {rest : List (List Char × Json)}
    (plain : ∀ entry ∈ (name, value) :: rest, entry.2.IsPlain innerDepth)
    (decodes : ((name, value) :: rest).foldlM (decodeMember .null) draft = .ok draft') :
    readMembers draft (.string (some name) :: .colon ::
        (writtenTokens value ++ (furtherMemberTokens rest ++ .endObject :: behind))) =
      .ok (draft', behind) := by
  induction rest generalizing draft name value with
  | nil =>
    obtain ⟨next, decoded, done⟩ := eq_of_bind_eq_ok decodes
    obtain rfl := Except.ok.inj done
    rw [readMembers, readMember_written (plain _ List.mem_cons_self) decoded]
    rfl
  | cons entry rest inductionHypothesis =>
    obtain ⟨next, decoded, further⟩ := eq_of_bind_eq_ok decodes
    rw [readMembers, readMember_written (plain _ List.mem_cons_self) decoded]
    simp only [furtherMemberTokens, List.cons_append, List.append_assoc]
    exact inductionHypothesis (fun entry member => plain entry (List.mem_cons_of_mem _ member))
      further

end Reading

/-- An object whose values give settings gives them when it is written down, too. -/
theorem parse_render {members : List (List Char × Json)} {settings : Settings}
    (plain : ∀ entry ∈ members, entry.2.IsPlain innerDepth)
    (decodes : ofMembers .null members = .ok settings) :
    parse (Json.render (.object members)) = .ok settings := by
  rw [parse, Json.tokens_render_alone (.object plain)]
  obtain ⟨draft, decoded, finished⟩ := eq_of_bind_eq_ok decodes
  match members, plain, decoded with
  | [], _, decoded =>
    obtain rfl := Except.ok.inj decoded
    cases finished
  | (name, value) :: rest, plain, decoded =>
    show wholly ((readMembers {} (_ :: _ :: _)).bind _) = _
    rw [readMembers_written plain decoded]
    show wholly ((ofValue draft.finish).bind _) = _
    rw [finished]
    rfl

end SharpTypes.Settings

namespace SharpTypes.ProjectSettings

open Settings
open Json (Care Token furtherMemberTokens writtenTokens)

/-! ### Project files among other members -/

theorem projectFilesOf_cons_of_ne {name : List Char} (other : name ≠ projectFilesName)
    (value : Json) (rest : List (List Char × Json)) :
    projectFilesOf ((name, value) :: rest) = projectFilesOf rest := by
  unfold projectFilesOf valuesOf
  rw [List.filter_cons_of_neg (by simpa using other)]

/-- Where project files come first, there are no others behind them. -/
theorem projectFilesOf_cons_self {value : Json} {rest : List (List Char × Json)}
    {found : Option ProjectFiles}
    (decodes : projectFilesOf ((projectFilesName, value) :: rest) = .ok found) :
    ∃ projectFiles, decodeProjectFiles value = .ok projectFiles ∧ found = some projectFiles ∧
      projectFilesOf rest = .ok none := by
  have values : valuesOf projectFilesName ((projectFilesName, value) :: rest) =
      value :: valuesOf projectFilesName rest := by
    unfold valuesOf
    rw [List.filter_cons_of_pos (by simp), List.map_cons]
  unfold projectFilesOf at decodes ⊢
  rw [values] at decodes
  cases others : valuesOf projectFilesName rest with
  | nil =>
    rw [others] at decodes
    change (decodeProjectFiles value).map some = .ok found at decodes
    cases decoded : decodeProjectFiles value with
    | error fault =>
      rw [decoded] at decodes
      cases decodes
    | ok projectFiles =>
      rw [decoded] at decodes
      exact ⟨projectFiles, rfl, (Except.ok.inj decodes).symm, rfl⟩
  | cons other further =>
    rw [others] at decodes
    obtain ⟨_, _, refused⟩ := eq_of_bind_eq_ok decodes
    cases refused

section Reading

variable {value : Json} {behind : List Token} {seen : List (List Char × Json)}

/-- One written member is taken for the project files or kept. -/
theorem readMember_written {name : List Char} {rest : List (List Char × Json)}
    {projectFiles found : Option ProjectFiles} (plain : value.IsPlain innerDepth)
    (decodes : projectFilesOf ((name, value) :: rest) = .ok found)
    (once : projectFiles = none ∨ found = none) :
    ∃ projectFiles' found', projectFilesOf rest = .ok found' ∧
      (projectFiles' = none ∨ found' = none) ∧ found'.or projectFiles' = found.or projectFiles ∧
      ∀ seen behind,
        readMember projectFiles seen name (.colon :: (writtenTokens value ++ behind)) =
          .ok ((projectFiles',
            ([(name, value)].filter fun entry => entry.1 != projectFilesName).reverse ++ seen),
            behind) := by
  have whole (behind : List Token) :
      readValue (.full innerDepth) (writtenTokens value ++ behind) = .ok (value, behind) :=
    readValue_written plain (Care.fits_full le_rfl)
  unfold readMember
  by_cases other : name ≠ projectFilesName
  · rw [projectFilesOf_cons_of_ne other] at decodes
    refine ⟨projectFiles, found, decodes, once, rfl, fun seen behind => ?_⟩
    rw [if_neg other, List.filter_cons_of_pos (by simpa using other)]
    show (readToken .colon (.colon :: _)).bind _ = _
    rw [readToken_self]
    show (readValue _ _).bind _ = _
    rw [whole]
    rfl
  · obtain rfl := not_not.mp other
    obtain ⟨taken, decoded, rfl, further⟩ := projectFilesOf_cons_self decodes
    obtain rfl := once.resolve_right nofun
    refine ⟨some taken, none, further, .inr rfl, rfl, fun seen behind => ?_⟩
    rw [if_pos rfl, List.filter_cons_of_neg (by simp)]
    rw [readToken_self]
    show (readValue _ _).bind _ = _
    rw [whole]
    show (ofValue (decodeProjectFiles value)).bind _ = _
    rw [decoded]
    rfl

/-- The project files of a written object are found where they stand, and all else is kept. -/
theorem readMembers_written {name : List Char} {rest : List (List Char × Json)}
    {projectFiles found : Option ProjectFiles}
    (plain : ∀ entry ∈ (name, value) :: rest, entry.2.IsPlain innerDepth)
    (decodes : projectFilesOf ((name, value) :: rest) = .ok found)
    (once : projectFiles = none ∨ found = none) :
    readMembers projectFiles seen (.string (some name) :: .colon ::
        (writtenTokens value ++ (furtherMemberTokens rest ++ .endObject :: behind))) =
      .ok ((found.or projectFiles,
        (((name, value) :: rest).filter fun entry => entry.1 != projectFilesName).reverse ++ seen),
        behind) := by
  induction rest generalizing name value projectFiles found seen with
  | nil =>
    obtain ⟨next, left, leaves, _, same, read⟩ :=
      readMember_written (plain _ List.mem_cons_self) decodes once
    obtain rfl := Except.ok.inj leaves
    rw [readMembers, read, ← same]
    rfl
  | cons entry rest inductionHypothesis =>
    obtain ⟨next, left, leaves, once, same, read⟩ :=
      readMember_written (plain _ List.mem_cons_self) decodes once
    have split (kept : List Char × Json → Bool) :
        (((name, value) :: entry :: rest).filter kept).reverse ++ seen =
          ((entry :: rest).filter kept).reverse ++
            (([(name, value)].filter kept).reverse ++ seen) := by
      rw [← List.append_assoc, ← List.reverse_append, ← List.filter_append]
      rfl
    rw [readMembers, read, ← same, split]
    simp only [furtherMemberTokens, List.cons_append, List.append_assoc]
    exact inductionHypothesis (fun entry member => plain entry (List.mem_cons_of_mem _ member))
      leaves once

end Reading

/-- An object whose values give project settings gives them when it is written down, too. -/
theorem parse_render {members : List (List Char × Json)} {project : ProjectSettings}
    (plain : ∀ entry ∈ members, entry.2.IsPlain innerDepth)
    (decodes : ofMembers members = .ok project) :
    parse (Json.render (.object members)) = .ok project := by
  rw [parse, Json.tokens_render_alone (.object plain)]
  obtain ⟨projectFiles, found, finished⟩ := eq_of_bind_eq_ok decodes
  match members, plain, found with
  | [], _, found =>
    obtain rfl := Except.ok.inj found
    cases finished
  | (name, value) :: rest, plain, found =>
    show wholly ((readMembers none [] (_ :: _ :: _)).bind _) = _
    rw [readMembers_written plain found (.inl rfl), Option.or_none, List.append_nil]
    show wholly ((ofValue (ofParts projectFiles (List.reverse _))).bind _) = _
    rw [List.reverse_reverse, finished]
    rfl

end SharpTypes.ProjectSettings

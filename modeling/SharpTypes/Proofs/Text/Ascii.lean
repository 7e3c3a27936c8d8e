/-
ASCII text. Here the case maps take each character to a single one, and what they do can be checked
character by character: the upper case of a capital is the capital, no lower case is a capital, and
only the last change of case counts.
-/

import Mathlib.Tactic.Common
import SharpTypes.Text.CaseMap

namespace SharpTypes.Text

/-- Whether a character is one of the 128 of ASCII. -/
def IsAscii (c : Char) : Prop :=
  c.toNat < 128

instance (c : Char) : Decidable (IsAscii c) :=
  inferInstanceAs (Decidable (c.toNat < 128))

variable {c : Char}

/-- What holds of the first 128 code points holds of every ASCII character. -/
theorem IsAscii.of_forall_range (holds : Char → Prop)
    (each : ∀ code ∈ List.range 128, holds (Char.ofNat code)) (ascii : IsAscii c) : holds c := by
  have here := each c.toNat (List.mem_range.mpr ascii)
  rwa [Char.ofNat_toNat] at here

namespace IsAscii

variable (ascii : IsAscii c)
include ascii

/-! ### Characters -/

theorem toLower : IsAscii c.toLower :=
  of_forall_range (fun c => IsAscii c.toLower) (by decide +kernel) ascii

theorem toUpper : IsAscii c.toUpper :=
  of_forall_range (fun c => IsAscii c.toUpper) (by decide +kernel) ascii

theorem lowerOf_eq : lowerOf c = [c.toLower] :=
  of_forall_range (fun c => lowerOf c = [c.toLower]) (by decide +kernel) ascii

theorem upperOf_eq : upperOf c = [c.toUpper] :=
  of_forall_range (fun c => upperOf c = [c.toUpper]) (by decide +kernel) ascii

/-- The last change of case is the one that counts. -/
theorem recased : c.toLower.toLower = c.toLower ∧ c.toUpper.toUpper = c.toUpper ∧
    c.toLower.toUpper = c.toUpper :=
  of_forall_range (fun c => c.toLower.toLower = c.toLower ∧
    c.toUpper.toUpper = c.toUpper ∧ c.toLower.toUpper = c.toUpper) (by decide +kernel) ascii

theorem isUpper_toLower : isUpper c.toLower = false :=
  of_forall_range (fun c => isUpper c.toLower = false) (by decide +kernel) ascii

theorem toUpper_of_isUpper (capital : isUpper c = true) : c.toUpper = c :=
  of_forall_range (fun c => isUpper c = true → c.toUpper = c) (by decide +kernel) ascii
    capital

end IsAscii

/-! ### Texts -/

variable {text : List Char}

theorem lowercaseAfter_of_isAscii (ascii : ∀ c ∈ text, IsAscii c) (before : List Char) :
    lowercaseAfter before text = text.map Char.toLower := by
  induction text generalizing before with
  | nil => rfl
  | cons c rest inductionHypothesis =>
    obtain ⟨isAscii, others⟩ := List.forall_mem_cons.mp ascii
    have notSigma : (c == 'Σ') = false := by
      rw [beq_eq_false_iff_ne]
      rintro rfl
      exact absurd isAscii (by decide)
    rw [lowercaseAfter, notSigma, if_neg Bool.false_ne_true, isAscii.lowerOf_eq,
      inductionHypothesis others]
    rfl

theorem lowercase_of_isAscii (ascii : ∀ c ∈ text, IsAscii c) :
    lowercase text = text.map Char.toLower :=
  lowercaseAfter_of_isAscii ascii []

theorem isAscii_of_mem_lowercase (ascii : ∀ c ∈ text, IsAscii c) :
    ∀ c ∈ lowercase text, IsAscii c := by
  rw [lowercase_of_isAscii ascii]
  intro c member
  obtain ⟨d, isInText, rfl⟩ := List.mem_map.mp member
  exact (ascii d isInText).toLower

theorem lowercase_lowercase (ascii : ∀ c ∈ text, IsAscii c) :
    lowercase (lowercase text) = lowercase text := by
  rw [lowercase_of_isAscii (isAscii_of_mem_lowercase ascii), lowercase_of_isAscii ascii,
    List.map_map]
  exact List.map_congr_left fun c member => (ascii c member).recased.1

theorem capitalize_of_isAscii (ascii : ∀ c ∈ text, IsAscii c) :
    capitalize text = text.modifyHead Char.toUpper := by
  cases text with
  | nil => rfl
  | cons first rest =>
    rw [capitalize, (ascii first List.mem_cons_self).upperOf_eq]
    rfl

theorem uncapitalize_of_isAscii (ascii : ∀ c ∈ text, IsAscii c) :
    uncapitalize text = text.modifyHead Char.toLower := by
  cases text with
  | nil => rfl
  | cons first rest =>
    rw [uncapitalize, (ascii first List.mem_cons_self).lowerOf_eq]
    rfl

end SharpTypes.Text

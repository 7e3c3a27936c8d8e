/-
The characters of a converted name. A naming convention drops separators, changes the case of
letters and puts `_` or `-` between words; it brings in no other character. So a converted name
holds no dot at all, and a slash only if the name it was made from does: it is one name in a path.
A suffix behind a dash is converted as if it stood alone, and what is converted before it stays in
front.
-/

import Mathlib.Data.List.Basic
import Mathlib.Tactic.Common
import SharpTypes.Naming
import SharpTypes.Proofs.Text.Separator

namespace SharpTypes

namespace Text

/-! ### Case maps -/

theorem eq_toNat_of_ofNat_eq {code : Nat} {c : Char} (nonzero : c.toNat ≠ 0)
    (same : Char.ofNat code = c) : code = c.toNat := by
  subst same
  by_cases valid : code.isValidChar
  · have built : Char.ofNat code = Char.ofNatAux code valid := dif_pos valid
    exact (congrArg Char.toNat built).symm
  · have built : Char.ofNat code = Char.ofNat 0 := dif_neg valid
    exact absurd (congrArg Char.toNat built) nonzero

/-- Whether no expansion and no shift leads to a code point. -/
def isUnreached (expansions : List (Nat × List Nat)) (shifts : List Shift) (code : Nat) : Bool :=
  (expansions.all fun expansion => !expansion.2.contains code) &&
    shifts.all fun shift => !shift.domain.contains ((code : Int) - shift.distance).toNat

/-- A character that no case map leads to is the case of itself alone. -/
theorem eq_of_mem_recase {expansions : List (Nat × List Nat)} {shifts : List Shift} {c d : Char}
    (nonzero : d.toNat ≠ 0) (unreached : isUnreached expansions shifts d.toNat = true)
    (member : d ∈ recase expansions shifts c) : d = c := by
  rw [isUnreached, Bool.and_eq_true, List.all_eq_true, List.all_eq_true] at unreached
  obtain ⟨notExpanded, notShifted⟩ := unreached
  unfold recase at member
  split at member
  · next codes found =>
    obtain ⟨code, isCode, same⟩ := List.mem_map.mp member
    rw [eq_toNat_of_ofNat_eq nonzero same] at isCode
    obtain ⟨before, after, expansionsSame, _⟩ := List.lookup_eq_some_iff.mp found
    have listed : (c.toNat, codes) ∈ expansions := by
      rw [expansionsSame]
      exact List.mem_append_right _ List.mem_cons_self
    have absent := notExpanded _ listed
    simp only [Bool.not_eq_true', List.contains_eq_mem, decide_eq_false_iff_not] at absent
    exact absurd isCode absent
  · split at member
    · next target found =>
      have code := eq_toNat_of_ofNat_eq nonzero (List.mem_singleton.mp member).symm
      obtain ⟨shift, isShift, moved, targetSame⟩ := Shift.exists_of_target? found
      have origin : ((d.toNat : Int) - shift.distance).toNat = c.toNat := by omega
      have absent := notShifted shift isShift
      rw [origin, moved] at absent
      cases absent
    · exact List.mem_singleton.mp member

/-- Whether a character is no other character's upper or lower case. -/
def Caseless (d : Char) : Prop :=
  d ≠ 'ς' ∧ d ≠ 'σ' ∧ ∀ c, (d ∈ lowerOf c → d = c) ∧ (d ∈ upperOf c → d = c)

theorem caseless_dot : Caseless '.' := by
  refine ⟨by decide, by decide, fun c => ⟨?_, ?_⟩⟩
  · exact eq_of_mem_recase (by decide) (by decide +kernel)
  · exact eq_of_mem_recase (by decide) (by decide +kernel)

theorem caseless_slash : Caseless '/' := by
  refine ⟨by decide, by decide, fun c => ⟨?_, ?_⟩⟩
  · exact eq_of_mem_recase (by decide) (by decide +kernel)
  · exact eq_of_mem_recase (by decide) (by decide +kernel)

theorem Caseless.mem_of_mem_lowercaseAfter {d : Char} (caseless : Caseless d)
    {before text : List Char} (member : d ∈ lowercaseAfter before text) : d ∈ text := by
  obtain ⟨notFinal, notSigma, alone⟩ := caseless
  induction text generalizing before with
  | nil => cases member
  | cons c rest inductionHypothesis =>
    rw [lowercaseAfter, List.mem_append] at member
    rcases member with here | later
    · split at here
      · rw [List.mem_singleton, lowerSigma] at here
        split at here
        · exact absurd here notFinal
        · exact absurd here notSigma
      · rw [(alone c).1 here]
        exact List.mem_cons_self
    · exact List.mem_cons_of_mem c (inductionHypothesis later)

theorem Caseless.mem_of_mem_capitalize {d : Char} (caseless : Caseless d) {text : List Char}
    (member : d ∈ capitalize text) : d ∈ text := by
  cases text with
  | nil => cases member
  | cons first rest =>
    rcases List.mem_append.mp member with here | later
    · rw [(caseless.2.2 first).2 here]
      exact List.mem_cons_self
    · exact List.mem_cons_of_mem first later

theorem Caseless.mem_of_mem_uncapitalize {d : Char} (caseless : Caseless d) {text : List Char}
    (member : d ∈ uncapitalize text) : d ∈ text := by
  cases text with
  | nil => cases member
  | cons first rest =>
    rcases List.mem_append.mp member with here | later
    · rw [(caseless.2.2 first).1 here]
      exact List.mem_cons_self
    · exact List.mem_cons_of_mem first later

theorem recase_ne_nil {expansions : List (Nat × List Nat)} {shifts : List Shift} {c : Char}
    (filled : (expansions.all fun expansion => !expansion.2.isEmpty) = true) :
    recase expansions shifts c ≠ [] := by
  unfold recase
  split
  · next codes found =>
    obtain ⟨before, after, same, _⟩ := List.lookup_eq_some_iff.mp found
    have listed : (c.toNat, codes) ∈ expansions := by
      rw [same]
      exact List.mem_append_right _ List.mem_cons_self
    have notEmpty := List.all_eq_true.mp filled _ listed
    simpa using notEmpty
  · split <;> exact List.cons_ne_nil _ _

theorem lowerOf_slash : lowerOf '/' = ['/'] := by
  decide +kernel

/-- A slash at the start is no letter, and no letter becomes one. -/
theorem uncapitalize_of_slash {text : List Char} (atRoot : text.head? = some '/') :
    uncapitalize text = text := by
  obtain ⟨rest, rfl⟩ := List.head?_eq_some_iff.mp atRoot
  rw [uncapitalize, lowerOf_slash]
  rfl

theorem head?_of_uncapitalize {text : List Char}
    (atRoot : (uncapitalize text).head? = some '/') : text.head? = some '/' := by
  cases text with
  | nil => cases atRoot
  | cons first rest =>
    have filled : lowerOf first ≠ [] := recase_ne_nil (by decide)
    obtain ⟨head, others, lowered⟩ := List.exists_cons_of_ne_nil filled
    rw [uncapitalize, lowered] at atRoot
    obtain rfl : head = '/' := Option.some.inj atRoot
    have inside : '/' ∈ lowerOf first := by
      rw [lowered]
      exact List.mem_cons_self
    rw [← (caseless_slash.2.2 first).1 inside]
    rfl

end Text

open Text

/-! ### Words -/

namespace Naming

/-- A word is made of characters of the name, and holds no separator. -/
theorem mem_of_mem_words {name word : List Char} (isWord : word ∈ words name) {c : Char}
    (member : c ∈ word) : c ∈ name ∧ isSeparator c = false := by
  fun_induction words name generalizing word with
  | case1 => cases isWord
  | case2 first rest isSeparator inductionHypothesis =>
    obtain ⟨inRest, notSeparator⟩ := inductionHypothesis isWord member
    exact ⟨List.mem_cons_of_mem first inRest, notSeparator⟩
  | case3 first notSeparator =>
    rw [List.mem_singleton] at isWord
    rw [isWord, List.mem_singleton] at member
    rw [member]
    exact ⟨List.mem_cons_self, by simpa using notSeparator⟩
  | case4 first notSeparator next later breaks inductionHypothesis =>
    rcases List.mem_cons.mp isWord with rfl | inRest
    · rw [List.mem_singleton] at member
      rw [member]
      exact ⟨List.mem_cons_self, by simpa using notSeparator⟩
    · obtain ⟨inside, separatorFree⟩ := inductionHypothesis inRest member
      exact ⟨List.mem_cons_of_mem first inside, separatorFree⟩
  | case5 first notSeparator next later continues inductionHypothesis =>
    have fromRest {other : List Char} (isOther : other ∈ words (next :: later))
        (inside : c ∈ other) : c ∈ first :: next :: later ∧ isSeparator c = false := by
      obtain ⟨inRest, separatorFree⟩ := inductionHypothesis isOther inside
      exact ⟨List.mem_cons_of_mem first inRest, separatorFree⟩
    cases given : words (next :: later) with
    | nil =>
      rw [given] at isWord
      cases isWord
    | cons head others =>
      rw [given, List.modifyHead_cons] at isWord
      rcases List.mem_cons.mp isWord with rfl | isOther
      · rcases List.mem_cons.mp member with rfl | inHead
        · exact ⟨List.mem_cons_self, by simpa using notSeparator⟩
        · exact fromRest (given ▸ List.mem_cons_self) inHead
      · exact fromRest (given ▸ List.mem_cons_of_mem head isOther) member

theorem mem_of_mem_pascal {d : Char} (caseless : Caseless d) {name : List Char}
    (member : d ∈ pascal name) : d ∈ name ∧ isSeparator d = false := by
  obtain ⟨word, isWord, inside⟩ := List.mem_flatMap.mp member
  exact mem_of_mem_words isWord (caseless.mem_of_mem_capitalize inside)

theorem mem_of_mem_separated {d separator : Char} (caseless : Caseless d) (other : d ≠ separator)
    {name : List Char} (member : d ∈ separated separator name) :
    d ∈ name ∧ isSeparator d = false := by
  rcases mem_join member with inSeparator | ⟨piece, isPiece, inside⟩
  · exact absurd (List.mem_singleton.mp inSeparator) other
  · obtain ⟨word, isWord, rfl⟩ := List.mem_map.mp isPiece
    exact mem_of_mem_words isWord (caseless.mem_of_mem_lowercaseAfter inside)

/-! ### Two parts with a separator between them -/

theorem words_of_separator {c : Char} (separates : isSeparator c = true) (rest : List Char) :
    words (c :: rest) = words rest := by
  rw [words.eq_def]
  exact if_pos separates

theorem words_singleton {c : Char} (inWord : isSeparator c = false) : words [c] = [[c]] := by
  rw [words.eq_def]
  exact if_neg (by simp [inWord])

theorem words_cons_cons {c : Char} (inWord : isSeparator c = false) (next : Char)
    (later : List Char) :
    words (c :: next :: later) =
      if isSeparator next || startsWord c next later then [c] :: words (next :: later)
      else (words (next :: later)).modifyHead (c :: ·) := by
  rw [words.eq_def]
  exact if_neg (by simp [inWord])

theorem words_ne_nil {c : Char} (inWord : isSeparator c = false) (rest : List Char) :
    words (c :: rest) ≠ [] := by
  induction rest generalizing c with
  | nil =>
    rw [words_singleton inWord]
    exact List.cons_ne_nil _ _
  | cons next later inductionHypothesis =>
    rw [words_cons_cons inWord]
    by_cases breaks : (isSeparator next || startsWord c next later) = true
    · rw [if_pos breaks]
      exact List.cons_ne_nil _ _
    · rw [if_neg breaks]
      rw [Bool.or_eq_true, not_or, Bool.not_eq_true] at breaks
      obtain ⟨first, others, given⟩ := List.exists_cons_of_ne_nil (inductionHypothesis breaks.1)
      rw [given]
      exact List.cons_ne_nil _ _

/-- A separator belongs to no word, and no word reaches over it. -/
theorem words_append_separator {separator : Char} (separates : isSeparator separator = true)
    (notLower : isLower separator = false) (left right : List Char) :
    words (left ++ separator :: right) = words left ++ words right := by
  have startsSame (c next : Char) (later : List Char) :
      startsWord c next (later ++ separator :: right) = startsWord c next later := by
    cases later <;> simp [startsWord, startsLower, notLower]
  fun_induction words left with
  | case1 => exact words_of_separator separates right
  | case2 c rest leading inductionHypothesis =>
    rw [List.cons_append, words_of_separator leading, inductionHypothesis]
  | case3 c inWord =>
    show words (c :: separator :: right) = _
    rw [words_cons_cons (by simpa using inWord), separates, Bool.true_or, if_pos rfl,
      words_of_separator separates]
    rfl
  | case4 c inWord next later breaks inductionHypothesis =>
    rw [List.cons_append, List.cons_append, words_cons_cons (by simpa using inWord), startsSame,
      if_pos breaks, ← List.cons_append, inductionHypothesis, List.cons_append]
  | case5 c inWord next later continues inductionHypothesis =>
    rw [List.cons_append, List.cons_append, words_cons_cons (by simpa using inWord), startsSame,
      if_neg continues, ← List.cons_append, inductionHypothesis]
    rw [Bool.or_eq_true, not_or, Bool.not_eq_true] at continues
    obtain ⟨first, others, given⟩ := List.exists_cons_of_ne_nil (words_ne_nil continues.1 later)
    rw [given]
    rfl

theorem words_append_dash (left right : List Char) :
    words (left ++ '-' :: right) = words left ++ words right :=
  words_append_separator rfl (by decide +kernel) left right

end Naming

namespace NamingConvention

/-- A caseless character other than `_` and `-` stands in a converted name only if it stands in the
name and separates no words there. -/
theorem mem_of_mem_apply {d : Char} (caseless : Caseless d) (notLow : d ≠ '_') (notDash : d ≠ '-')
    {convention : NamingConvention} {name : List Char} (member : d ∈ convention.apply name) :
    d ∈ name ∧ Naming.isSeparator d = false := by
  cases convention with
  | camel => exact Naming.mem_of_mem_pascal caseless (caseless.mem_of_mem_uncapitalize member)
  | pascal => exact Naming.mem_of_mem_pascal caseless member
  | snake => exact Naming.mem_of_mem_separated caseless notLow member
  | kebab => exact Naming.mem_of_mem_separated caseless notDash member

theorem not_dot_mem_apply (convention : NamingConvention) (name : List Char) :
    '.' ∉ convention.apply name := by
  intro member
  have separatorFree := (mem_of_mem_apply caseless_dot (by decide) (by decide) member).2
  simp [Naming.isSeparator] at separatorFree

theorem not_slash_mem_apply (convention : NamingConvention) {name : List Char}
    (absent : '/' ∉ name) : '/' ∉ convention.apply name := by
  intro member
  exact absent (mem_of_mem_apply caseless_slash (by decide) (by decide) member).1

/-! ### What a suffix adds -/

/-- How the words after the first are written. -/
def onward : NamingConvention → NamingConvention
  | .camel => .pascal
  | convention => convention

theorem exists_separated_append_dash (separator : Char) (left right : List Char) :
    ∃ front, (∀ c ∈ front, c ∈ Naming.separated separator left ∨ c = separator) ∧
      Naming.separated separator (left ++ '-' :: right) =
        front ++ Naming.separated separator right := by
  unfold Naming.separated
  rw [Naming.words_append_dash, List.map_append]
  by_cases noMore : (Naming.words right).map lowercase = []
  · exact ⟨join [separator] ((Naming.words left).map lowercase), fun c => .inl, by simp [noMore]⟩
  · by_cases noWords : (Naming.words left).map lowercase = []
    · exact ⟨[], nofun, by rw [noWords]; rfl⟩
    · refine ⟨join [separator] ((Naming.words left).map lowercase) ++ [separator], ?_,
        join_append [separator] noWords noMore⟩
      intro c member
      exact (List.mem_append.mp member).imp_right List.mem_singleton.mp

/-- A name with a suffix ends as the suffix alone is written; only the case of its first letter may
differ, if nothing of the name comes before it. -/
theorem exists_front (convention : NamingConvention) {left : List Char} (slashFree : '/' ∉ left)
    (right : List Char) :
    ∃ front, '/' ∉ front ∧
      (convention.apply (left ++ '-' :: right) = front ++ convention.onward.apply right ∨
        convention.apply (left ++ '-' :: right) =
          uncapitalize (convention.onward.apply right)) := by
  have pascal : Naming.pascal (left ++ '-' :: right) =
      Naming.pascal left ++ Naming.pascal right := by
    rw [Naming.pascal, Naming.words_append_dash, List.flatMap_append]
    rfl
  have separated (separator : Char) (other : '/' ≠ separator)
      (absent : '/' ∉ Naming.separated separator left) :
      ∃ front, '/' ∉ front ∧ Naming.separated separator (left ++ '-' :: right) =
        front ++ Naming.separated separator right := by
    obtain ⟨front, inFront, same⟩ := exists_separated_append_dash separator left right
    exact ⟨front, fun inside => (inFront '/' inside).elim absent other, same⟩
  cases convention with
  | camel =>
    show ∃ front, '/' ∉ front ∧ (uncapitalize (Naming.pascal _) = _ ∨ uncapitalize _ = _)
    rw [pascal]
    by_cases nothing : Naming.pascal left = []
    · exact ⟨[], by simp, .inr (by rw [nothing]; rfl)⟩
    · obtain ⟨first, rest, given⟩ := List.exists_cons_of_ne_nil nothing
      refine ⟨uncapitalize (Naming.pascal left), not_slash_mem_apply .camel slashFree, .inl ?_⟩
      rw [given]
      exact (List.append_assoc (lowerOf first) rest (Naming.pascal right)).symm
  | pascal => exact ⟨Naming.pascal left, not_slash_mem_apply .pascal slashFree, .inl pascal⟩
  | snake =>
    obtain ⟨front, absent, same⟩ := separated '_' (by decide) (not_slash_mem_apply .snake slashFree)
    exact ⟨front, absent, .inl same⟩
  | kebab =>
    obtain ⟨front, absent, same⟩ := separated '-' (by decide) (not_slash_mem_apply .kebab slashFree)
    exact ⟨front, absent, .inl same⟩

/-- A name with a suffix that starts with a slash once it is converted is nothing but the suffix. -/
theorem apply_eq_of_slash (convention : NamingConvention) {left right : List Char}
    (slashFree : '/' ∉ left)
    (atRoot : (convention.apply (left ++ '-' :: right)).head? = some '/') :
    convention.apply (left ++ '-' :: right) = convention.onward.apply right := by
  obtain ⟨front, absent, same | same⟩ := convention.exists_front slashFree right
  · cases front with
    | nil => exact same
    | cons first rest =>
      rw [same] at atRoot
      obtain rfl : first = '/' := Option.some.inj atRoot
      exact absurd List.mem_cons_self absent
  · rw [same] at atRoot
    rw [same, uncapitalize_of_slash (head?_of_uncapitalize atRoot)]

/-- With such a suffix every other converted name has it at its end. -/
theorem exists_front_of_slash (convention : NamingConvention) {left right : List Char}
    (slashFree : '/' ∉ left) (atRoot : (convention.onward.apply right).head? = some '/') :
    ∃ front, '/' ∉ front ∧
      convention.apply (left ++ '-' :: right) = front ++ convention.onward.apply right := by
  obtain ⟨front, absent, same | same⟩ := convention.exists_front slashFree right
  · exact ⟨front, absent, same⟩
  · exact ⟨[], by simp, by rw [same, uncapitalize_of_slash atRoot]; rfl⟩

end NamingConvention

end SharpTypes

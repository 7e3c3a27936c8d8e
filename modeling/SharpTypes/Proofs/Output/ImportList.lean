/-
The imports of a file as a table from specifiers to names. Adding a name puts exactly that name
under that specifier, and keeps the specifiers and the names under each of them increasing. What is
collected therefore depends only on which names are asked for, not on their order, and lists every
name once.
-/

import Mathlib.Data.Char
import Mathlib.Data.List.Lex
import Mathlib.Data.List.Nodup
import Mathlib.Tactic.Common
import SharpTypes.Output.Unit

namespace SharpTypes

/-- The indexed path of a name, as far as the file at `path` has to import it from there. -/
def Index.outside? (index : Index) (path : FilePath) (name : List Char) : Option FilePath :=
  (index.get? name).filter fun target => !target.same path

theorem Index.outside?_eq_some {index : Index} {path target : FilePath} {name : List Char} :
    index.outside? path name = some target ↔
      index.get? name = some target ∧ target.same path = false := by
  rw [outside?, Option.filter_eq_some_iff, Bool.not_eq_true']

namespace Import

/-- The imports name the name under the specifier. -/
def Lists (imports : List Import) (specifier name : List Char) : Prop :=
  ∃ statement ∈ imports, statement.specifier = specifier ∧ name ∈ statement.names

/-- The specifiers increase, and so do the names of each import, of which there is one at least. -/
structure Ordered (imports : List Import) : Prop where
  specifiers : imports.Pairwise fun earlier later => earlier.specifier < later.specifier
  names : ∀ statement ∈ imports, statement.names ≠ [] ∧ statement.names.Pairwise (· < ·)

theorem ordered_nil : Ordered [] := ⟨.nil, nofun⟩

theorem not_lists_nil (specifier name : List Char) : ¬ Lists [] specifier name := by
  rintro ⟨_, member, _⟩
  cases member

theorem lists_cons (first : Import) (rest : List Import) (specifier name : List Char) :
    Lists (first :: rest) specifier name ↔
      (first.specifier = specifier ∧ name ∈ first.names) ∨ Lists rest specifier name := by
  unfold Lists
  rw [List.exists_mem_cons_iff]

/-! ### Adding a text -/

theorem mem_insertText (text other : List Char) (texts : List (List Char)) :
    other ∈ insertText text texts ↔ other = text ∨ other ∈ texts := by
  induction texts with
  | nil => rw [insertText, List.mem_cons]
  | cons first rest inductionHypothesis =>
    rw [insertText]
    split
    · rw [List.mem_cons]
    · split
      case isTrue same =>
        subst same
        rw [List.mem_cons]
        exact ⟨.inr, fun found => found.elim .inl id⟩
      case isFalse _ =>
        rw [List.mem_cons, inductionHypothesis, List.mem_cons]
        exact or_left_comm

theorem insertText_ne_nil (text : List Char) (texts : List (List Char)) :
    insertText text texts ≠ [] :=
  List.ne_nil_of_mem ((mem_insertText text text texts).mpr (.inl rfl))

theorem pairwise_insertText {texts : List (List Char)} (text : List Char)
    (increasing : texts.Pairwise (· < ·)) : (insertText text texts).Pairwise (· < ·) := by
  induction texts with
  | nil => exact List.pairwise_singleton _ _
  | cons first rest inductionHypothesis =>
    obtain ⟨least, others⟩ := List.pairwise_cons.mp increasing
    rw [insertText]
    split
    case isTrue before =>
      refine List.pairwise_cons.mpr ⟨?_, increasing⟩
      intro other member
      rcases List.mem_cons.mp member with rfl | member
      · exact before
      · exact before.trans (least other member)
    case isFalse notBefore =>
      split
      · exact increasing
      case isFalse different =>
        have after : first < text :=
          lt_of_le_of_ne (not_lt.mp notBefore) (Ne.symm different)
        refine List.pairwise_cons.mpr ⟨?_, inductionHypothesis others⟩
        intro other member
        rcases (mem_insertText text other rest).mp member with rfl | member
        · exact after
        · exact least other member

/-! ### Adding a name under a specifier -/

theorem lists_insert (specifier name : List Char) (imports : List Import)
    (other otherName : List Char) :
    Lists (insert specifier name imports) other otherName ↔
      (other = specifier ∧ otherName = name) ∨ Lists imports other otherName := by
  induction imports with
  | nil =>
    rw [insert, lists_cons, List.mem_singleton, eq_comm]
  | cons first rest inductionHypothesis =>
    rw [insert]
    split
    · rw [lists_cons, List.mem_singleton, @eq_comm _ specifier]
    · split
      case isTrue same =>
        rw [lists_cons, lists_cons, mem_insertText, ← same, @eq_comm _ specifier, and_or_left,
          or_assoc]
      case isFalse _ =>
        rw [lists_cons, inductionHypothesis, lists_cons]
        exact or_left_comm

theorem specifier_of_mem_insert {specifier name : List Char} {imports : List Import}
    {statement : Import} (member : statement ∈ insert specifier name imports) :
    statement.specifier = specifier ∨
      ∃ earlier ∈ imports, statement.specifier = earlier.specifier := by
  induction imports with
  | nil =>
    rw [insert, List.mem_singleton] at member
    exact .inl (congrArg Import.specifier member)
  | cons first rest inductionHypothesis =>
    rw [insert] at member
    split at member
    · rcases List.mem_cons.mp member with rfl | member
      · exact .inl rfl
      · exact .inr ⟨statement, member, rfl⟩
    · split at member
      case isTrue same =>
        rcases List.mem_cons.mp member with rfl | member
        · exact .inl same.symm
        · exact .inr ⟨statement, List.mem_cons_of_mem _ member, rfl⟩
      case isFalse _ =>
        rcases List.mem_cons.mp member with rfl | member
        · exact .inr ⟨statement, List.mem_cons_self, rfl⟩
        · exact (inductionHypothesis member).imp_right fun ⟨earlier, isEarlier, same⟩ =>
            ⟨earlier, List.mem_cons_of_mem _ isEarlier, same⟩

theorem Ordered.insert {imports : List Import} (ordered : Ordered imports)
    (specifier name : List Char) : Ordered (insert specifier name imports) := by
  have single : [name] ≠ [] ∧ [name].Pairwise (· < ·) :=
    ⟨List.cons_ne_nil _ _, List.pairwise_singleton _ _⟩
  induction imports with
  | nil =>
    refine ⟨List.pairwise_singleton _ _, ?_⟩
    rintro statement member
    obtain rfl := List.mem_singleton.mp member
    exact single
  | cons first rest inductionHypothesis =>
    obtain ⟨least, others⟩ := List.pairwise_cons.mp ordered.specifiers
    obtain ⟨ofFirst, ofRest⟩ := List.forall_mem_cons.mp ordered.names
    rw [Import.insert]
    split
    case isTrue before =>
      refine ⟨List.pairwise_cons.mpr ⟨?_, ordered.specifiers⟩,
        List.forall_mem_cons.mpr ⟨single, ordered.names⟩⟩
      intro statement member
      rcases List.mem_cons.mp member with rfl | member
      · exact before
      · exact before.trans (least statement member)
    case isFalse notBefore =>
      split
      · exact ⟨List.pairwise_cons.mpr ⟨least, others⟩, List.forall_mem_cons.mpr
          ⟨⟨insertText_ne_nil _ _, pairwise_insertText name ofFirst.2⟩, ofRest⟩⟩
      case isFalse different =>
        have after : first.specifier < specifier :=
          lt_of_le_of_ne (not_lt.mp notBefore) (Ne.symm different)
        have inRest := inductionHypothesis ⟨others, ofRest⟩
        refine ⟨List.pairwise_cons.mpr ⟨?_, inRest.specifiers⟩,
          List.forall_mem_cons.mpr ⟨ofFirst, inRest.names⟩⟩
        intro statement member
        rcases specifier_of_mem_insert member with same | ⟨earlier, isEarlier, same⟩
        · rw [same]
          exact after
        · rw [same]
          exact least earlier isEarlier

/-! ### All names of a file -/

/-- The names for which `collect` adds an import, one after the other, are those held outside. -/
theorem collect_eq (index : Index) (path : FilePath) (names : List (List Char)) :
    collect index path names =
      names.foldl
        (fun imports name =>
          match index.outside? path name with
          | some target => insert (ModuleSpecifier.between path target) name imports
          | none => imports)
        [] := by
  unfold collect Index.outside?
  congr 1
  funext imports name
  cases index.get? name with
  | none => rfl
  | some target =>
    cases same : target.same path <;> simp [Option.filter_some, same]

theorem lists_collect (index : Index) (path : FilePath) (names : List (List Char))
    (specifier name : List Char) :
    Lists (collect index path names) specifier name ↔
      name ∈ names ∧ ∃ target, index.outside? path name = some target ∧
        specifier = ModuleSpecifier.between path target := by
  rw [collect_eq]
  -- What is listed after a fold is what was listed before and what the folded names ask for.
  suffices after : ∀ imports, Lists (names.foldl (fun imports name =>
      match index.outside? path name with
      | some target => insert (ModuleSpecifier.between path target) name imports
      | none => imports) imports) specifier name ↔
        Lists imports specifier name ∨ (name ∈ names ∧ ∃ target,
          index.outside? path name = some target ∧
            specifier = ModuleSpecifier.between path target) by
    rw [after, or_iff_right (not_lists_nil _ _)]
  induction names with
  | nil => simp
  | cons first rest inductionHypothesis =>
    intro imports
    rw [List.foldl_cons, inductionHypothesis, List.mem_cons]
    by_cases same : name = first
    · subst same
      cases held : index.outside? path name with
      | none => simp
      | some target =>
        rw [lists_insert]
        simp only [and_true, true_or, true_and, Option.some.injEq, exists_eq_left']
        tauto
    · rw [or_iff_right same]
      cases index.outside? path first with
      | none => rfl
      | some target =>
        refine or_congr_left ?_
        rw [lists_insert]
        exact or_iff_right fun both => same both.2

theorem ordered_collect (index : Index) (path : FilePath) (names : List (List Char)) :
    Ordered (collect index path names) := by
  rw [collect_eq]
  refine List.foldlRecOn names _ ordered_nil ?_
  intro imports ordered name _
  cases index.outside? path name with
  | none => exact ordered
  | some target => exact ordered.insert _ _

/-- The imports in order that list every name under one specifier at most list it once. -/
theorem nodup_names {imports : List Import} (ordered : Ordered imports)
    (functional : ∀ specifier other name,
      Lists imports specifier name → Lists imports other name → specifier = other) :
    (imports.flatMap Import.names).Nodup := by
  rw [List.nodup_flatMap]
  refine ⟨fun statement member => (ordered.names statement member).2.imp ne_of_lt, ?_⟩
  refine ordered.specifiers.imp_of_mem ?_
  intro earlier later isEarlier isLater before
  refine List.disjoint_left.mpr fun name inEarlier inLater => ?_
  exact ne_of_lt before
    (functional _ _ name ⟨earlier, isEarlier, rfl, inEarlier⟩ ⟨later, isLater, rfl, inLater⟩)

theorem nodup_names_collect (index : Index) (path : FilePath) (names : List (List Char)) :
    ((collect index path names).flatMap Import.names).Nodup := by
  refine nodup_names (ordered_collect index path names) ?_
  intro specifier other name listed listedToo
  obtain ⟨_, target, held, rfl⟩ := (lists_collect ..).mp listed
  obtain ⟨_, again, heldToo, rfl⟩ := (lists_collect ..).mp listedToo
  rw [held] at heldToo
  rw [Option.some.inj heldToo]

end Import

end SharpTypes

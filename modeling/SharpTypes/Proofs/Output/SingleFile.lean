/-
One file or many. The declarations of a batch are written the same whether they go into one file or
each source file gets its own: the one file holds, in the order of the batch, what the many hold
together. Where the one file is sorted, it holds the only arrangement of the declarations that is in
order and leaves those in place that neither kind nor name tells apart. If there are none of these,
the order of the batch is of no account.
-/

import Mathlib.Data.Char
import Mathlib.Data.List.Lex
import Mathlib.Data.List.Nodup
import Mathlib.Tactic.Common
import SharpTypes.Proofs.Output.Assembly

namespace SharpTypes

open Text

/-! ### Arrangements of declarations -/

namespace Declaration

/-- What sorting looks at: the kind and the name. -/
def heading (declaration : Declaration) : Bool × List Char :=
  (declaration.isEnumeration, declaration.name)

/-- Enumerations stand before classes, and names do not decrease within a kind. -/
def MayPrecede (left right : Declaration) : Prop :=
  (left.isEnumeration = true ∧ right.isEnumeration = false) ∨
    (left.isEnumeration = right.isEnumeration ∧ left.name ≤ right.name)

theorem MayPrecede.trans {first second third : Declaration} (firstBefore : MayPrecede first second)
    (secondBefore : MayPrecede second third) : MayPrecede first third := by
  rcases firstBefore with ⟨isFirst, notSecond⟩ | ⟨sameLeft, leftLe⟩
  · rcases secondBefore with ⟨isSecond, _⟩ | ⟨sameRight, _⟩
    · rw [notSecond] at isSecond
      cases isSecond
    · exact .inl ⟨isFirst, sameRight ▸ notSecond⟩
  · rcases secondBefore with ⟨isSecond, notThird⟩ | ⟨sameRight, rightLe⟩
    · exact .inl ⟨sameLeft ▸ isSecond, notThird⟩
    · exact .inr ⟨sameLeft.trans sameRight, leftLe.trans rightLe⟩

theorem MayPrecede.total (left right : Declaration) :
    MayPrecede left right ∨ MayPrecede right left := by
  by_cases same : left.isEnumeration = right.isEnumeration
  · rcases le_total left.name right.name with before | after
    · exact .inl (.inr ⟨same, before⟩)
    · exact .inr (.inr ⟨same.symm, after⟩)
  · cases isLeft : left.isEnumeration with
    | true =>
      rw [isLeft, eq_comm, Bool.not_eq_true] at same
      exact .inl (.inl ⟨isLeft, same⟩)
    | false =>
      rw [isLeft, eq_comm, Bool.not_eq_false] at same
      exact .inr (.inl ⟨same, isLeft⟩)

/-- Declarations that may stand in either order are not told apart by their headings. -/
theorem MayPrecede.heading_eq {left right : Declaration} (before : MayPrecede left right)
    (after : MayPrecede right left) : left.heading = right.heading := by
  rcases before with ⟨isLeft, notRight⟩ | ⟨same, leftLe⟩
  · rcases after with ⟨isRight, _⟩ | ⟨sameToo, _⟩
    · rw [notRight] at isRight
      cases isRight
    · rw [notRight, isLeft] at sameToo
      cases sameToo
  · rcases after with ⟨isRight, notLeft⟩ | ⟨_, rightLe⟩
    · rw [same, isRight] at notLeft
      cases notLeft
    · exact Prod.ext same (le_antisymm leftLe rightLe)

theorem mayPrecede_of_heading_eq {left right : Declaration} (same : left.heading = right.heading) :
    MayPrecede left right :=
  .inr ⟨congrArg Prod.fst same, le_of_eq (congrArg Prod.snd same)⟩

/-- The same declarations in order, with those of one heading left in the order they had. -/
structure IsArrangement (declarations arranged : List Declaration) : Prop where
  permutation : arranged.Perm declarations
  ordered : arranged.Pairwise MayPrecede
  stable : ∀ heading : Bool × List Char,
    (arranged.filter fun declaration => declaration.heading = heading) =
      declarations.filter fun declaration => declaration.heading = heading

/-- Two lists in order are equal if they have the same declarations of each heading. -/
theorem eq_of_ordered {left right : List Declaration} (orderedLeft : left.Pairwise MayPrecede)
    (orderedRight : right.Pairwise MayPrecede)
    (same : ∀ heading : Bool × List Char,
      (left.filter fun declaration => declaration.heading = heading) =
        right.filter fun declaration => declaration.heading = heading) :
    left = right := by
  have member {declaration : Declaration} : declaration ∈ left ↔ declaration ∈ right := by
    have both := congrArg (declaration ∈ ·) (same declaration.heading)
    simpa [List.mem_filter] using both
  induction left generalizing right with
  | nil =>
    cases right with
    | nil => rfl
    | cons second _ => cases member.mpr (List.mem_cons_self (a := second))
  | cons first others inductionHypothesis =>
    cases right with
    | nil => cases member.mp (List.mem_cons_self (a := first))
    | cons second more =>
      obtain ⟨leastLeft, orderedOthers⟩ := List.pairwise_cons.mp orderedLeft
      obtain ⟨leastRight, orderedMore⟩ := List.pairwise_cons.mp orderedRight
      -- Each of the two heads is in the other list, so neither may stand behind the other.
      have sameHeading : first.heading = second.heading := by
        rcases List.mem_cons.mp (member.mp List.mem_cons_self) with rfl | inMore
        · rfl
        rcases List.mem_cons.mp (member.mpr List.mem_cons_self) with rfl | inOthers
        · rfl
        exact (leastLeft second inOthers).heading_eq (leastRight first inMore)
      have heads := same second.heading
      rw [List.filter_cons_of_pos (by simpa using sameHeading),
        List.filter_cons_of_pos (by simp)] at heads
      obtain rfl := (List.cons.inj heads).1
      have tails (heading : Bool × List Char) :
          (others.filter fun declaration => declaration.heading = heading) =
            more.filter fun declaration => declaration.heading = heading := by
        have whole := same heading
        rw [List.filter_cons, List.filter_cons] at whole
        split at whole
        · exact (List.cons.inj whole).2
        · exact whole
      have memberTails {declaration : Declaration} : declaration ∈ others ↔ declaration ∈ more := by
        have both := congrArg (declaration ∈ ·) (tails declaration.heading)
        simpa [List.mem_filter] using both
      rw [inductionHypothesis orderedOthers orderedMore tails memberTails]

/-- There is one arrangement at most. -/
theorem IsArrangement.unique {declarations left right : List Declaration}
    (isLeft : IsArrangement declarations left) (isRight : IsArrangement declarations right) :
    left = right :=
  eq_of_ordered isLeft.ordered isRight.ordered fun heading =>
    (isLeft.stable heading).trans (isRight.stable heading).symm

/-- If no two declarations share a heading, the order that they came in is of no account. -/
theorem IsArrangement.eq_of_perm {declarations others left right : List Declaration}
    (distinct : (declarations.map heading).Nodup) (permutation : others.Perm declarations)
    (isLeft : IsArrangement declarations left) (isRight : IsArrangement others right) :
    left = right := by
  have permutationRight := isRight.permutation.trans permutation
  refine (isLeft.permutation.trans permutationRight.symm).eq_of_pairwise ?_ isLeft.ordered
    isRight.ordered
  intro first second isFirst isSecond before after
  exact List.inj_on_of_nodup_map distinct (isLeft.permutation.mem_iff.mp isFirst)
    (permutationRight.mem_iff.mp isSecond) (before.heading_eq after)

end Declaration

/-! ### Sorting -/

namespace OutputUnit

theorem inOrder_iff {left right : Declaration} :
    inOrder left right = true ↔ left.MayPrecede right := by
  unfold inOrder Declaration.MayPrecede
  cases left.isEnumeration <;> cases right.isEnumeration <;> simp

/-- Sorting arranges. -/
theorem isArrangement_mergeSort (declarations : List Declaration) :
    Declaration.IsArrangement declarations (declarations.mergeSort inOrder) := by
  have trans (first second third : Declaration) (firstBefore : inOrder first second = true)
      (secondBefore : inOrder second third = true) : inOrder first third = true :=
    inOrder_iff.mpr ((inOrder_iff.mp firstBefore).trans (inOrder_iff.mp secondBefore))
  have total (left right : Declaration) : (inOrder left right || inOrder right left) = true := by
    rw [Bool.or_eq_true, inOrder_iff, inOrder_iff]
    exact Declaration.MayPrecede.total left right
  have permutation := List.mergeSort_perm declarations inOrder
  refine ⟨permutation, ?_, fun heading => ?_⟩
  · exact (List.pairwise_mergeSort trans total declarations).imp fun ordered =>
      inOrder_iff.mp ordered
  · let chosen (declaration : Declaration) : Bool := declaration.heading = heading
    -- Declarations of one heading are in order as they come, so sorting keeps them so.
    have ordered : (declarations.filter chosen).Pairwise fun left right =>
        inOrder left right = true := by
      refine List.pairwise_of_forall_mem_list fun left isLeft right isRight => ?_
      have ofLeft : left.heading = heading := by simpa [chosen] using (List.mem_filter.mp isLeft).2
      have ofRight : right.heading = heading := by
        simpa [chosen] using (List.mem_filter.mp isRight).2
      exact inOrder_iff.mpr (Declaration.mayPrecede_of_heading_eq (ofLeft.trans ofRight.symm))
    have kept := (List.sublist_mergeSort trans total ordered List.filter_sublist).filter chosen
    simp only [List.filter_filter, Bool.and_self] at kept
    exact (kept.eq_of_length (permutation.filter chosen).length_eq.symm).symm

/-- The one file holds what the source files declare, sorted or not. -/
theorem singleFileDeclarations_perm (settings : Settings) (files : List ParsedFile) :
    (singleFileDeclarations settings files).Perm (files.flatMap ParsedFile.declarations) := by
  unfold singleFileDeclarations
  dsimp only
  split
  · exact List.mergeSort_perm _ _
  · exact .refl _

/-! ### The texts of generated files -/

/-- The block of imports with the blank line behind it; nothing if there are no imports. -/
def importBlock (imports : List Import) : List Char :=
  if imports.isEmpty then [] else join ['\n'] (imports.map Import.render) ++ "\n\n".toList

/-- The text of a file: the header, a block in front of the declarations, and the declarations as
they are written, with a blank line between neighbours. -/
def textOf (settings : Settings) (time : Timestamp) (block : List Char)
    (declarations : List Declaration) : List Char :=
  fileHeader time ++ "\n\n".toList ++ block ++
    join "\n\n".toList (declarations.map (Declaration.render settings.memberNaming)) ++ ['\n']

theorem contents_single (settings : Settings) (time : Timestamp) (files : List ParsedFile) :
    (single settings time files).contents =
      textOf settings time [] (singleFileDeclarations settings files) := by
  rw [textOf, List.append_nil]
  show layOut _ [] _ = _
  rw [layOut, List.isEmpty_nil, if_pos rfl, List.append_nil]

theorem contents_ofFile (settings : Settings) (index : Index) (time : Timestamp)
    (file : ParsedFile) :
    (ofFile settings index time file).contents =
      textOf settings time (importBlock (importsOf (Layout.of settings) index file))
        file.declarations :=
  rfl

section

variable {settings : Settings} {files : List ParsedFile} (time : Timestamp)

theorem isEmpty_declaring (someDeclare : ∃ file ∈ files, file.declarations ≠ []) :
    (files.filter fun file => !file.declarations.isEmpty).isEmpty = false := by
  obtain ⟨file, isFile, declares⟩ := someDeclare
  rw [List.isEmpty_eq_false_iff_exists_mem]
  exact ⟨file, List.mem_filter.mpr ⟨isFile, by simpa using declares⟩⟩

theorem assemble_together (together : settings.singleFile = true)
    (someDeclare : ∃ file ∈ files, file.declarations ≠ []) :
    assemble settings time files = [single settings time files] := by
  rw [assemble, isEmpty_declaring someDeclare, if_neg Bool.false_ne_true, if_pos together]

theorem assemble_apart (apart : settings.singleFile = false)
    (someDeclare : ∃ file ∈ files, file.declarations ≠ []) :
    assemble settings time files = (files.filter fun file => !file.declarations.isEmpty).map
      (ofFile settings (Index.build (Layout.of settings) files) time) := by
  rw [assemble, isEmpty_declaring someDeclare, if_neg Bool.false_ne_true, apart,
    if_neg Bool.false_ne_true]

end

end OutputUnit

/-! ### Batches -/

namespace ParsedFile

/-- The same source files, perhaps in another order and each with its declarations in another order.
-/
def Rearranged (files rearranged : List ParsedFile) : Prop :=
  ∃ moved : List ParsedFile, moved.Perm files ∧
    List.Forall₂ (fun file other => other.sourcePath = file.sourcePath ∧
      other.relativePath = file.relativePath ∧ other.declarations.Perm file.declarations)
      moved rearranged

theorem Rearranged.declarations_perm {files rearranged : List ParsedFile}
    (isRearranged : Rearranged files rearranged) :
    (rearranged.flatMap declarations).Perm (files.flatMap declarations) := by
  obtain ⟨moved, permutation, alike⟩ := isRearranged
  refine List.Perm.trans ?_ (permutation.flatMap_right declarations)
  clear permutation
  induction alike with
  | nil => exact .nil
  | cons first _ inductionHypothesis =>
    rw [List.flatMap_cons, List.flatMap_cons]
    exact first.2.2.append inductionHypothesis

theorem Rearranged.exists_declaring {files rearranged : List ParsedFile}
    (isRearranged : Rearranged files rearranged)
    (someDeclare : ∃ file ∈ files, file.declarations ≠ []) :
    ∃ file ∈ rearranged, file.declarations ≠ [] := by
  obtain ⟨file, isFile, declares⟩ := someDeclare
  obtain ⟨declaration, isDeclaration⟩ := List.exists_mem_of_ne_nil _ declares
  have inBatch : declaration ∈ rearranged.flatMap declarations :=
    isRearranged.declarations_perm.mem_iff.mpr (List.mem_flatMap.mpr ⟨file, isFile, isDeclaration⟩)
  obtain ⟨other, isOther, inOther⟩ := List.mem_flatMap.mp inBatch
  exact ⟨other, isOther, List.ne_nil_of_mem inOther⟩

/-- Files without declarations add nothing. -/
theorem flatMap_declarations_filter (files : List ParsedFile) :
    (files.filter fun file => !file.declarations.isEmpty).flatMap declarations =
      files.flatMap declarations := by
  induction files with
  | nil => rfl
  | cons file rest inductionHypothesis =>
    rw [List.filter_cons, List.flatMap_cons]
    split
    · rw [List.flatMap_cons, inductionHypothesis]
    · next declaresNone =>
      have nothing : file.declarations = [] := by simpa using declaresNone
      rw [inductionHypothesis, nothing, List.nil_append]

end ParsedFile

/-! ### One file against many -/

namespace OutputUnit

/-- The one file holds the declarations of the many, in the order of the batch and with no imports
in front; sorted, it holds their arrangement, which the order of the batch does not matter for
unless two declarations share kind and name. -/
theorem single_file_agrees (settings : Settings) (time : Timestamp) (files : List ParsedFile)
    (someDeclare : ∃ file ∈ files, file.declarations ≠ []) :
    let apart := { settings with singleFile := false }
    let together := { settings with singleFile := true, sortDeclarations := false }
    let sorted := { settings with singleFile := true, sortDeclarations := true }
    let declaring := files.filter fun file => !file.declarations.isEmpty
    let index := Index.build (Layout.of apart) files
    ((assemble apart time files).map contents = declaring.map fun file =>
        textOf settings time (importBlock (importsOf (Layout.of apart) index file))
          file.declarations) ∧
      (assemble together time files).map contents =
        [textOf settings time [] (declaring.flatMap ParsedFile.declarations)] ∧
      declaring.flatMap ParsedFile.declarations = files.flatMap ParsedFile.declarations ∧
      (∃ arranged, Declaration.IsArrangement (files.flatMap ParsedFile.declarations) arranged ∧
        (∀ other, Declaration.IsArrangement (files.flatMap ParsedFile.declarations) other →
          other = arranged) ∧
        (assemble sorted time files).map contents = [textOf settings time [] arranged]) ∧
      (((files.flatMap ParsedFile.declarations).map Declaration.heading).Nodup →
        ∀ rearranged, ParsedFile.Rearranged files rearranged →
          (assemble sorted time rearranged).map contents =
            (assemble sorted time files).map contents) := by
  intro apart together sorted declaring index
  have flat : declaring.flatMap ParsedFile.declarations = files.flatMap ParsedFile.declarations :=
    ParsedFile.flatMap_declarations_filter files
  -- In a sorted file stands the arrangement that sorting gives, for this batch and any other.
  have inOneFile {batch : List ParsedFile} (declares : ∃ file ∈ batch, file.declarations ≠ []) :
      (assemble sorted time batch).map contents =
        [textOf settings time [] ((batch.flatMap ParsedFile.declarations).mergeSort inOrder)] := by
    rw [assemble_together time rfl declares, List.map_singleton, contents_single]
    rfl
  have arranged := isArrangement_mergeSort (files.flatMap ParsedFile.declarations)
  refine ⟨?_, ?_, flat, ⟨_, arranged, fun other isOther => isOther.unique arranged,
    inOneFile someDeclare⟩, fun distinct rearranged isRearranged => ?_⟩
  · rw [assemble_apart time rfl someDeclare, List.map_map]
    exact List.map_congr_left fun file _ => contents_ofFile apart index time file
  · rw [assemble_together time rfl someDeclare, List.map_singleton, contents_single, flat]
    rfl
  · have arrangedToo := isArrangement_mergeSort (rearranged.flatMap ParsedFile.declarations)
    rw [inOneFile someDeclare, inOneFile (isRearranged.exists_declaring someDeclare),
      arranged.eq_of_perm distinct isRearranged.declarations_perm arrangedToo]

/-- The two sources of the small run, sorted into one file from either order. -/
theorem single_file_agrees_for_order :
    (∃ file ∈ [orderSource, userSource ⟨"User.cs".toList⟩], file.declarations ≠ []) ∧
      (([orderSource, userSource ⟨"User.cs".toList⟩].flatMap ParsedFile.declarations).map
        Declaration.heading).Nodup ∧
      ParsedFile.Rearranged [orderSource, userSource ⟨"User.cs".toList⟩]
        [userSource ⟨"User.cs".toList⟩, orderSource] ∧
      (assemble { intoOut with singleFile := true, sortDeclarations := true } ⟨0, 0⟩
          [userSource ⟨"User.cs".toList⟩, orderSource]).map contents =
        (assemble { intoOut with singleFile := true, sortDeclarations := true } ⟨0, 0⟩
          [orderSource, userSource ⟨"User.cs".toList⟩]).map contents := by
  have someDeclare :
      ∃ file ∈ [orderSource, userSource ⟨"User.cs".toList⟩], file.declarations ≠ [] :=
    ⟨orderSource, List.mem_cons_self, List.cons_ne_nil _ _⟩
  have distinct : (([orderSource, userSource ⟨"User.cs".toList⟩].flatMap
      ParsedFile.declarations).map Declaration.heading).Nodup := by
    decide
  have swapped : ParsedFile.Rearranged [orderSource, userSource ⟨"User.cs".toList⟩]
      [userSource ⟨"User.cs".toList⟩, orderSource] :=
    ⟨_, List.Perm.swap .., .cons ⟨rfl, rfl, .refl _⟩ (.cons ⟨rfl, rfl, .refl _⟩ .nil)⟩
  obtain ⟨_, _, _, _, free⟩ := single_file_agrees intoOut ⟨0, 0⟩ _ someDeclare
  exact ⟨someDeclare, distinct, swapped, free distinct _ swapped⟩

end OutputUnit

end SharpTypes

/-
Resolving any text, whether it is a type expression or not. The texts inside a layer stand in order
behind the name of the layer and are together shorter than the text around them. So the recursion is
no deeper than the text is long, the type that it ends with has no more nodes than the text has
bytes, and the names that the type refers to stand in the text in the order of the references. Each
is the trimmed end of something in front of the first angle bracket, behind the last dot.
-/

import Mathlib.Tactic.Common
import SharpTypes.Proofs.Checked.TypeText
import SharpTypes.Proofs.Source.WrittenName
import SharpTypes.Proofs.Text.InOrder

namespace SharpTypes

open Text

/-! ### The parts of a type -/

namespace TargetType

mutual

/-- The number of types that a type is made of, itself included. -/
def nodeCount : TargetType → Nat
  | .primitive _ => 1
  | .reference _ arguments => nodeCountOfAll arguments + 1
  | .record _ value => nodeCountOf value + 1

/-- The number of types in a type with its mark. -/
def nodeCountOf : Resolved → Nat
  | ⟨type, _⟩ => nodeCount type

/-- The number of types in a list of arguments. -/
def nodeCountOfAll : List Resolved → Nat
  | [] => 0
  | argument :: rest => nodeCountOf argument + nodeCountOfAll rest

end

theorem nodeCountOf_eq (resolved : Resolved) : nodeCountOf resolved = resolved.type.nodeCount := by
  rw [nodeCountOf]

/-- If what each text comes to has no more types than the text has bytes, neither have they all
together. -/
theorem nodeCountOfAll_map_le {pieces : List (List Char)} {inside : List Char → Resolved}
    (each : ∀ piece ∈ pieces, (inside piece).type.nodeCount ≤ byteSize piece) :
    nodeCountOfAll (pieces.map inside) ≤ byteSize pieces.flatten := by
  induction pieces with
  | nil => exact Nat.le_refl 0
  | cons first rest inductionHypothesis =>
    obtain ⟨ofFirst, ofRest⟩ := List.forall_mem_cons.mp each
    rw [List.map_cons, nodeCountOfAll, nodeCountOf_eq, List.flatten_cons, byteSize_append]
    exact Nat.add_le_add ofFirst (inductionHypothesis ofRest)

theorem referencesOfAll_eq (arguments : List Resolved) :
    referencesOfAll arguments = arguments.flatMap fun argument => argument.type.references := by
  induction arguments with
  | nil => rfl
  | cons first rest inductionHypothesis =>
    rw [referencesOfAll, referencesOf_eq, inductionHypothesis, List.flatMap_cons]

end TargetType

namespace Source

/-! ### Names -/

theorem infix_trim (text : List Char) : trim text <:+: text :=
  (standsIn_trim text).isInfix

theorem infix_lastSegment (name : List Char) : lastSegment name <:+: name :=
  (infix_trim _).trans (afterLast_suffix '.' name).isInfix

/-- A name of a type as it is referred to: trimmed, without namespace and without arguments. -/
structure IsBareName (name : List Char) : Prop where
  trimmed : trim name = name
  dotFree : '.' ∉ name
  angleFree : '<' ∉ name

theorem isBareName_lastSegment {name : List Char} (absent : '<' ∉ name) :
    IsBareName (lastSegment name) where
  trimmed := trim_trim _
  dotFree member := not_mem_afterLast '.' name (mem_of_mem_trim member)
  angleFree member := absent ((infix_lastSegment name).subset member)

/-! ### One layer -/

/-- A generic application in two halves, before the first angle bracket and from there on. The name
is in the first one, and the interior is in the second one and shorter. -/
theorem GenericText.exists_halves {text : List Char} {generic : GenericText}
    (found : GenericText.of? text = some generic) :
    ∃ before behind, text = before ++ behind ∧ '<' ∉ before ∧ 0 < byteSize behind ∧
      generic.name = trim before ∧ ∀ interior, generic.interior = some interior →
        interior <:+: behind ∧ byteSize interior < byteSize behind := by
  unfold GenericText.of? at found
  split at found
  · cases found
  · next opened filled =>
    obtain rfl := Option.some.inj found
    refine ⟨beforeFirst '<' text, text.dropWhile (· ≠ '<'),
      List.takeWhile_append_dropWhile.symm, fun member => ?_, ?_, rfl, fun interior inside => ?_⟩
    · simpa using List.mem_takeWhile_imp member
    · obtain ⟨c, rest, same⟩ := List.exists_cons_of_ne_nil filled
      rw [same, byteSize_cons]
      exact Nat.add_pos_left c.utf8Size_pos _
    · obtain ⟨⟨_, rest⟩, enclosed, rfl⟩ := Option.map_eq_some_iff.mp inside
      rw [Bracket.eq_of_enclosed? enclosed]
      refine ⟨⟨['<'], '>' :: rest, rfl⟩, ?_⟩
      simp only [List.cons_append, byteSize_cons, byteSize_append]
      have positive := Bracket.angle.opening.utf8Size_pos
      omega

theorem GenericText.not_mem_of_none {text : List Char} (notGeneric : GenericText.of? text = none) :
    '<' ∉ text := by
  intro member
  unfold GenericText.of? at notGeneric
  split at notGeneric
  · next all => simpa using List.dropWhile_eq_nil_iff.mp all '<' member
  · cases notGeneric

theorem standInOrder_typeArguments (text : List Char) :
    StandInOrder (typeArguments text) text := by
  unfold typeArguments Bracket.split
  split
  · exact .none text
  · have slices := standInOrder_join [','] (Bracket.angle.slices ',' 0 text)
    rw [join_slices] at slices
    have trimmed := slices.flatMap fun slice _ => StandInOrder.singleton (infix_trim slice)
    rwa [← List.map_eq_flatMap] at trimmed

namespace TypeShape

/-- The texts inside of a generic application, if there are any, stand in its interior in order. -/
theorem inner_ofGeneric (generic : GenericText) : (ofGeneric generic).inner = [] ∨
    ∃ interior, generic.interior = some interior ∧
      StandInOrder (ofGeneric generic).inner interior := by
  have ofArguments : (generic.interior.map typeArguments).getD [] = [] ∨
      ∃ interior, generic.interior = some interior ∧
        StandInOrder ((generic.interior.map typeArguments).getD []) interior := by
    cases inside : generic.interior with
    | none => exact .inl rfl
    | some interior => exact .inr ⟨interior, rfl, standInOrder_typeArguments interior⟩
  unfold ofGeneric
  dsimp only
  split_ifs
  · exact ofArguments
  · exact ofArguments
  · split
    · next interior inside => exact .inr ⟨interior, inside, .singleton (List.infix_refl _)⟩
    · exact .inl rfl
  · rcases ofArguments with noArguments | ⟨interior, inside, inOrder⟩
    · exact .inl (by rw [noArguments]; rfl)
    · exact .inr ⟨interior, inside, inOrder.sublist List.filter_sublist⟩

theorem name?_ofGeneric (generic : GenericText) :
    (ofGeneric generic).name? = none ∨
      (ofGeneric generic).name? = some (lastSegment generic.name) := by
  unfold ofGeneric
  dsimp only
  split_ifs
  · exact .inl rfl
  · exact .inl rfl
  · split
    · exact .inl rfl
    · exact .inr rfl
  · exact .inr rfl

/-- The arguments of a generic type are not empty. -/
theorem ne_nil_of_ofGeneric {generic : GenericText} {name : List Char}
    {arguments : List (List Char)} (same : ofGeneric generic = .generic name arguments) :
    ∀ argument ∈ arguments, argument ≠ [] := by
  unfold ofGeneric at same
  dsimp only at same
  split_ifs at same
  · split at same
    · cases same
    · obtain ⟨_, rfl⟩ := TypeShape.generic.inj same
      exact List.forall_mem_nil _
  · obtain ⟨_, rfl⟩ := TypeShape.generic.inj same
    intro argument member
    simpa using (List.mem_filter.mp member).2

/-- A dictionary type has a name. -/
theorem name_ne_nil_of_ofGeneric {generic : GenericText} {arguments : List (List Char)}
    (same : ofGeneric generic = .dictionary arguments) : generic.name ≠ [] := by
  intro empty
  unfold ofGeneric at same
  dsimp only at same
  rw [empty] at same
  split_ifs at same with isDictionary
  · exact absurd isDictionary (by decide)
  · split at same <;> cases same

/-- A bare text taken apart: the texts inside stand in order in a shorter part of it, and all of
them behind the name of the layer if there is one. -/
theorem standInOrder_of (bare : List Char) :
    StandInOrder ((of bare).name?.toList ++ (of bare).inner) bare ∧
      ((of bare).inner = [] ∨
        ∃ part, byteSize part < byteSize bare ∧ StandInOrder (of bare).inner part) := by
  unfold of
  split
  · next element found =>
    obtain rfl := dropEnd?_eq_some_iff.mp found
    refine ⟨.singleton (List.prefix_append _ _).isInfix,
      .inr ⟨element, ?_, .singleton (List.infix_refl _)⟩⟩
    rw [byteSize_append]
    exact Nat.lt_add_of_pos_right (by decide)
  · split
    · next generic found =>
      obtain ⟨before, behind, rfl, _, _, named, inside⟩ := GenericText.exists_halves found
      have front : StandInOrder (ofGeneric generic).name?.toList before := by
        rcases name?_ofGeneric generic with nameless | nameOf
        · rw [nameless]
          exact .none before
        · rw [nameOf, named]
          exact .singleton ((infix_lastSegment _).trans (infix_trim before))
      rcases inner_ofGeneric generic with empty | ⟨interior, isInterior, inOrder⟩
      · exact ⟨front.append (empty ▸ .none behind), .inl empty⟩
      · obtain ⟨isInfix, shorter⟩ := inside interior isInterior
        refine ⟨front.append (inOrder.within isInfix), .inr ⟨interior, ?_, inOrder⟩⟩
        rw [byteSize_append]
        omega
    · exact ⟨.singleton (infix_lastSegment bare), .inl rfl⟩

theorem byteSize_bareType_le (text : List Char) : byteSize (bareType text) ≤ byteSize text :=
  byteSize_le_of_isInfix (standsIn_bareType text).isInfix

theorem standInOrder_layer (text : List Char) :
    StandInOrder ((of (bareType text)).name?.toList ++ (of (bareType text)).inner) text :=
  (standInOrder_of _).1.within (standsIn_bareType text).isInfix

theorem isBareName_of_name? {bare name : List Char} (named : (of bare).name? = some name) :
    IsBareName name := by
  unfold of at named
  split at named
  · cases named
  · split at named
    · next generic found =>
      obtain ⟨before, behind, -, absent, -, same, -⟩ := GenericText.exists_halves found
      have trimmed : '<' ∉ trim before := fun member => absent (mem_of_mem_trim member)
      rcases name?_ofGeneric generic with nameless | nameOf
      · rw [nameless] at named
        cases named
      · rw [nameOf, same] at named
        obtain rfl := Option.some.inj named
        exact isBareName_lastSegment trimmed
    · next notGeneric =>
      obtain rfl := Option.some.inj named
      exact isBareName_lastSegment (GenericText.not_mem_of_none notGeneric)

/-! ### The size of a layer -/

/-- A layer that fits in a text of the given size: the texts inside are together shorter, none of
the arguments of a generic type is empty, and a dictionary has a name and a bracket at least. -/
structure Fits (shape : TypeShape) (size : Nat) : Prop where
  bounded : shape.inner = [] ∨ byteSize shape.inner.flatten < size
  filled : ∀ name arguments, shape = .generic name arguments → ∀ argument ∈ arguments, argument ≠ []
  dictionary : ∀ arguments, shape = .dictionary arguments → 2 ≤ size

theorem byteSize_pos {text : List Char} (notEmpty : text ≠ []) : 0 < byteSize text := by
  obtain ⟨c, rest, rfl⟩ := List.exists_cons_of_ne_nil notEmpty
  exact Nat.add_pos_left c.utf8Size_pos _

theorem fits (text : List Char) : (of (bareType text)).Fits (byteSize text) where
  bounded := by
    have atMost := byteSize_bareType_le text
    refine (standInOrder_of _).2.imp_right fun ⟨part, shorter, inOrder⟩ => ?_
    exact Nat.lt_of_le_of_lt inOrder.byteSize_flatten_le (Nat.lt_of_lt_of_le shorter atMost)
  filled name arguments same := by
    unfold of at same
    split at same
    · cases same
    · split at same
      · exact ne_nil_of_ofGeneric same
      · cases same
  dictionary arguments same := by
    refine Nat.le_trans ?_ (byteSize_bareType_le text)
    unfold of at same
    split at same
    · cases same
    · split at same
      · next generic found =>
        obtain ⟨before, behind, whole, -, opened, named, -⟩ := GenericText.exists_halves found
        have notEmpty : before ≠ [] := by
          rintro rfl
          exact name_ne_nil_of_ofGeneric same named
        have size := byteSize_pos notEmpty
        rw [whole, byteSize_append]
        omega
      · cases same

namespace Fits

variable {shape : TypeShape} {size : Nat}

theorem lt_of_mem (fits : shape.Fits size) {piece : List Char} (isInside : piece ∈ shape.inner) :
    byteSize piece < size := by
  rcases fits.bounded with empty | shorter
  · rw [empty] at isInside
    cases isInside
  · have atMost := byteSize_le_of_isInfix (List.infix_of_mem_flatten isInside)
    exact Nat.lt_of_le_of_lt atMost shorter

/-- If what is inside has no more types than bytes, neither has the whole. -/
theorem nodeCount_combine_le (fits : shape.Fits size) {inside : List Char → Resolved}
    (each : ∀ piece ∈ shape.inner, (inside piece).type.nodeCount ≤ max 1 (byteSize piece)) :
    (shape.combine inside).type.nodeCount ≤ max 1 size := by
  have passed {piece : List Char} (isInside : piece ∈ shape.inner) :
      (inside piece).type.nodeCount ≤ max 1 size := by
    have bound := each piece isInside
    have shorter := fits.lt_of_mem isInside
    omega
  have anyRecord_le {arguments : List (List Char)} (same : shape = .dictionary arguments) :
      anyRecord.type.nodeCount ≤ max 1 size :=
    Nat.le_trans (fits.dictionary arguments same) (Nat.le_max_right 1 size)
  unfold combine
  split
  case h_1 element => exact passed (List.mem_singleton_self _)
  case h_2 key value =>
    split
    · exact anyRecord_le rfl
    · next filled =>
      rw [Bool.or_eq_true, not_or, List.isEmpty_iff, List.isEmpty_iff] at filled
      have isInside : value ∈ (TypeShape.dictionary [key, value]).inner :=
        List.mem_cons_of_mem key (List.mem_singleton_self value)
      have bound := each value isInside
      have shorter := fits.lt_of_mem isInside
      have positive := byteSize_pos filled.2
      show TargetType.nodeCountOf (inside value) + 1 ≤ max 1 size
      rw [TargetType.nodeCountOf_eq]
      omega
  case h_3 => exact anyRecord_le rfl
  case h_4 element =>
    split
    · exact Nat.le_max_left 1 size
    · exact passed (List.mem_singleton_self _)
  case h_5 => exact Nat.le_max_left 1 size
  case h_6 inner => exact passed (List.mem_singleton_self _)
  case h_7 name arguments =>
    show TargetType.nodeCountOfAll (arguments.map inside) + 1 ≤ max 1 size
    -- No argument is empty, so each has at least one byte for each of its types.
    have together : TargetType.nodeCountOfAll (arguments.map inside) ≤
        byteSize arguments.flatten := by
      refine TargetType.nodeCountOfAll_map_le fun argument isArgument => ?_
      have bound := each argument isArgument
      have positive := byteSize_pos (fits.filled name arguments rfl argument isArgument)
      omega
    rcases fits.bounded with empty | shorter
    · obtain rfl : arguments = [] := empty
      exact Nat.le_max_left 1 size
    · have bounded : byteSize arguments.flatten < size := shorter
      exact Nat.le_trans (Nat.lt_of_le_of_lt together bounded) (Nat.le_max_right 1 size)
  case h_8 name =>
    refine Nat.le_trans ?_ (Nat.le_max_left 1 size)
    unfold namedType
    split <;> exact Nat.le_refl 1

end Fits

/-! ### The references of a layer -/

/-- What a layer comes to refers to its name and to what the texts inside refer to, in this order;
some may be left out. -/
theorem references_combine_sublist (inside : List Char → Resolved) (shape : TypeShape) :
    (shape.combine inside).type.references.Sublist
      (shape.name?.toList ++ shape.inner.flatMap fun piece => (inside piece).type.references) := by
  unfold combine
  split
  case h_1 element => simp [name?, inner]
  case h_2 key value =>
    split
    · exact List.nil_sublist _
    · show (TargetType.referencesOf (inside value)).Sublist _
      rw [TargetType.referencesOf_eq]
      simp [name?, inner]
  case h_3 => exact List.nil_sublist _
  case h_4 element =>
    split
    · exact List.nil_sublist _
    · simp [name?, inner]
  case h_5 => exact List.nil_sublist _
  case h_6 inner => simp [name?, TypeShape.inner]
  case h_7 name arguments =>
    show (name :: TargetType.referencesOfAll (arguments.map inside)).Sublist _
    rw [TargetType.referencesOfAll_eq, List.flatMap_map]
    exact List.Sublist.refl _
  case h_8 name =>
    unfold namedType
    split
    · exact List.nil_sublist _
    · exact List.Sublist.refl _

end TypeShape

/-! ### Whole texts -/

/-- What a text comes to has no more types than the text has bytes, or a single one. -/
theorem nodeCount_resolve_le (text : List Char) :
    (resolve text).type.nodeCount ≤ max 1 (byteSize text) := by
  rw [resolve_eq]
  exact (TypeShape.fits text).nodeCount_combine_le fun piece isInside => nodeCount_resolve_le piece
termination_by text.length
decreasing_by exact TypeShape.length_lt_of_mem_inner isInside

theorem isBareName_of_mem_references {text name : List Char}
    (member : name ∈ (resolve text).type.references) : IsBareName name := by
  rw [resolve_eq] at member
  have ofLayer := (TypeShape.references_combine_sublist resolve _).subset member
  rcases List.mem_append.mp ofLayer with named | inside
  · exact TypeShape.isBareName_of_name? (Option.mem_toList.mp named)
  · obtain ⟨piece, isInside, mentioned⟩ := List.mem_flatMap.mp inside
    have shorter := TypeShape.length_lt_of_mem_inner isInside
    exact isBareName_of_mem_references mentioned
termination_by text.length

/-- The names that a text comes to refer to stand in it, in the order of the references. -/
theorem standInOrder_references (text : List Char) :
    StandInOrder (resolve text).type.references text := by
  rw [resolve_eq]
  exact ((TypeShape.standInOrder_layer text).append_flatMap fun piece isInside =>
    standInOrder_references piece).sublist (TypeShape.references_combine_sublist resolve _)
termination_by text.length
decreasing_by exact TypeShape.length_lt_of_mem_inner isInside

end Source

namespace Checked

/-- What a type expression comes to, if the recursion may go no deeper than the given number of
calls. -/
def resolveWithin : Nat → List Char → Except Fault Resolved
  | 0, _ => .error .stuck
  | depth + 1, text => do combine (resolveWithin depth) (← shape (Source.bareType text))

/-- The texts that are resolved inside of a text are shorter, so the recursion is no deeper than the
text is long. -/
theorem resolveWithin_eq {depth : Nat} {text : List Char} (deep : text.length < depth) :
    resolveWithin depth text = .ok (Source.resolve text) := by
  induction depth generalizing text with
  | zero => cases deep
  | succ depth inductionHypothesis =>
    rw [resolveWithin, shape_eq, ok_bind, Source.resolve_eq]
    refine combine_eq _ fun piece isInside => inductionHypothesis ?_
    have shorter := Source.TypeShape.length_lt_of_mem_inner isInside
    omega

end Checked

namespace Source

/-- Every text can be resolved, whatever it is. What is resolved inside of it is shorter, so the
recursion ends; the type has no more nodes than the text has bytes, or a single one; and the names
that it refers to are trimmed, without dots and angle brackets, and stand in the text one behind the
other. -/
theorem resolution_bounded (text : List Char) :
    (∀ piece ∈ (TypeShape.of (bareType text)).inner,
      piece.length < text.length ∧ byteSize piece < byteSize text) ∧
      Checked.resolveWithin (text.length + 1) text = .ok (resolve text) ∧
      (resolve text).type.nodeCount ≤ max 1 (byteSize text) ∧
      (∀ name ∈ (resolve text).type.references,
        trim name = name ∧ '.' ∉ name ∧ '<' ∉ name) ∧
      StandInOrder (resolve text).type.references text := by
  refine ⟨fun piece isInside => ⟨TypeShape.length_lt_of_mem_inner isInside,
    (TypeShape.fits text).lt_of_mem isInside⟩, Checked.resolveWithin_eq (Nat.lt_succ_self _),
    nodeCount_resolve_le text, fun name member => ?_, standInOrder_references text⟩
  have bare := isBareName_of_mem_references member
  exact ⟨bare.trimmed, bare.dotFree, bare.angleFree⟩

end Source

end SharpTypes

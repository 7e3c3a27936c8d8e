/-
Paths by their components. The text of a path matters only through its components, and the
operations on paths act on them as one expects: going one name further adds components at the end,
the parent drops the last one, and taking off an extension changes the last one alone.
-/

import Mathlib.Data.Char
import Mathlib.Data.List.DropRight
import Mathlib.Data.List.Infix
import Mathlib.Data.List.Lex
import Mathlib.Data.Prod.Lex
import Mathlib.Tactic.Common
import SharpTypes.FilePath
import SharpTypes.Proofs.Text.Separator

namespace SharpTypes.FilePath

open Text

/-! ### Cutting and joining -/

theorem parts_of_slash (rest : List Char) :
    parts ⟨'/' :: rest⟩ = ⟨.root, splitOn '/' rest⟩ := rfl

theorem parts_of_current {text : List Char} {pieces : List (List Char)}
    (relative : text.head? ≠ some '/') (split : splitOn '/' text = ['.'] :: pieces) :
    parts ⟨text⟩ = ⟨.current, pieces⟩ := by
  unfold parts
  split
  · next rest same =>
    obtain rfl : text = '/' :: rest := same
    exact absurd rfl relative
  · rw [split]
    rfl

theorem parts_of_free {text : List Char} (relative : text.head? ≠ some '/')
    (notCurrent : (splitOn '/' text).head? ≠ some ['.']) :
    parts ⟨text⟩ = ⟨.free, splitOn '/' text⟩ := by
  unfold parts
  split
  · next rest same =>
    obtain rfl : text = '/' :: rest := same
    exact absurd rfl relative
  · split
    · next pieces split =>
      rw [split] at notCurrent
      exact absurd rfl notCurrent
    · rfl

theorem parts_piece {piece : List Char} (slashFree : '/' ∉ piece) (notCurrent : piece ≠ ['.']) :
    parts ⟨piece⟩ = ⟨.free, [piece]⟩ := by
  have alone := splitOn_of_not_mem slashFree
  have relative : piece.head? ≠ some '/' := fun slash => slashFree (List.mem_of_mem_head? slash)
  rw [parts_of_free relative (by rw [alone]; simpa using notCurrent), alone]

theorem isRelative_iff {path : FilePath} :
    path.isRelative = true ↔ path.text.head? ≠ some '/' := by
  obtain ⟨text⟩ := path
  rw [isRelative, decide_eq_true_iff, not_iff_not]
  constructor
  · intro atRoot
    unfold parts at atRoot
    split at atRoot
    · next rest same =>
      obtain rfl : text = '/' :: rest := same
      rfl
    · split at atRoot <;> cases atRoot
  · intro slash
    obtain ⟨rest, rfl⟩ := List.head?_eq_some_iff.mp slash
    rfl

/-- A path whose last piece is empty ends in a slash, unless it is empty. -/
theorem eq_nil_or_getLast?_of_parts {path : FilePath} {front : List (List Char)}
    (pieces : path.parts.pieces = front ++ [[]]) :
    path.text = [] ∨ path.text.getLast? = some '/' := by
  obtain ⟨text⟩ := path
  by_cases atRoot : text.head? = some '/'
  · obtain ⟨rest, rfl⟩ := List.head?_eq_some_iff.mp atRoot
    rw [parts_of_slash] at pieces
    rcases eq_nil_or_getLast?_of_splitOn pieces with rfl | ending
    · exact .inr rfl
    · rw [List.getLast?_cons, ending]
      exact .inr rfl
  · obtain ⟨first, others, split⟩ := List.exists_cons_of_ne_nil (splitOn_ne_nil '/' text)
    by_cases current : first = ['.']
    · subst current
      rw [parts_of_current atRoot split] at pieces
      rw [show others = front ++ [[]] from pieces, ← List.cons_append] at split
      exact eq_nil_or_getLast?_of_splitOn split
    · rw [parts_of_free atRoot (by rw [split]; simpa using current)] at pieces
      exact eq_nil_or_getLast?_of_splitOn pieces

/-- What cutting a path gives: no piece holds a slash, and where the path starts nowhere in
particular, its first piece is not `.`, and is empty only if it is all there is. -/
structure Parts.WellFormed (cut : Parts) : Prop where
  slashFree : ∀ piece ∈ cut.pieces, '/' ∉ piece
  headFree : cut.anchor = .free → ∀ first ∈ cut.pieces.head?,
    first ≠ ['.'] ∧ (first = [] → cut.pieces = [[]])

theorem wellFormed_parts (path : FilePath) : path.parts.WellFormed := by
  obtain ⟨text⟩ := path
  by_cases atRoot : text.head? = some '/'
  · obtain ⟨rest, rfl⟩ : ∃ rest, text = '/' :: rest := List.head?_eq_some_iff.mp atRoot
    rw [parts_of_slash]
    exact ⟨fun piece member => not_mem_of_mem_splitOn member, nofun⟩
  obtain ⟨first, pieces, split⟩ := List.exists_cons_of_ne_nil (splitOn_ne_nil '/' text)
  have slashFree : ∀ piece ∈ first :: pieces, '/' ∉ piece := by
    intro piece member
    exact not_mem_of_mem_splitOn (split ▸ member)
  by_cases current : first = ['.']
  · rw [current] at split
    rw [parts_of_current atRoot split]
    exact ⟨fun piece member => slashFree piece (List.mem_cons_of_mem first member), nofun⟩
  · rw [parts_of_free atRoot (by rw [split]; simpa using current), split]
    refine ⟨slashFree, fun _ piece isFirst => ?_⟩
    obtain rfl : first = piece := Option.some.inj isFirst
    refine ⟨current, fun empty => ?_⟩
    -- An empty first piece has a slash behind it, unless the text is empty.
    have whole := join_splitOn '/' text
    rw [split, empty] at whole
    cases pieces with
    | nil => rw [empty]
    | cons second rest =>
      rw [join_cons_cons] at whole
      rw [← whole] at atRoot
      exact absurd rfl atRoot

/-- Pieces without a slash are put together to no text that starts with one, unless the first is
empty with others behind it. -/
theorem head?_join_ne_slash {first : List Char} {rest : List (List Char)}
    (slashFree : ∀ piece ∈ first :: rest, '/' ∉ piece)
    (alone : first = [] → first :: rest = [[]]) :
    (Text.join ['/'] (first :: rest)).head? ≠ some '/' := by
  intro atRoot
  by_cases empty : first = []
  · rw [alone empty] at atRoot
    cases atRoot
  · obtain ⟨c, more, rfl⟩ := List.exists_cons_of_ne_nil empty
    have absent := slashFree (c :: more) List.mem_cons_self
    cases rest with
    | nil =>
      obtain rfl : c = '/' := by simpa using atRoot
      exact absent List.mem_cons_self
    | cons second others =>
      obtain rfl : c = '/' := by simpa [join_cons_cons] using atRoot
      exact absent List.mem_cons_self

/-- A path put together from its parts has these parts, but that there is at least one piece unless
it starts at the current directory. -/
theorem parts_ofParts {cut : Parts} (wellFormed : cut.WellFormed) :
    (ofParts cut).parts = cut ∨ cut.pieces = [] ∧ (ofParts cut).parts = ⟨cut.anchor, [[]]⟩ := by
  obtain ⟨anchor, pieces⟩ := cut
  obtain ⟨slashFree, headFree⟩ := wellFormed
  cases anchor with
  | root =>
    rw [ofParts, parts_of_slash]
    cases pieces with
    | nil => exact .inr ⟨rfl, rfl⟩
    | cons first rest => exact .inl (by rw [splitOn_join slashFree (by simp)])
  | current =>
    cases pieces with
    | nil => exact .inl rfl
    | cons first rest =>
      have split : splitOn '/' ('.' :: '/' :: Text.join ['/'] (first :: rest)) =
          ['.'] :: (first :: rest) := by
        rw [show '.' :: '/' :: Text.join ['/'] (first :: rest) =
          ['.'] ++ '/' :: Text.join ['/'] (first :: rest) from rfl, splitOn_append_separator,
          splitOn_join slashFree (by simp)]
        rfl
      exact .inl (by rw [ofParts, parts_of_current (by simp) split])
  | free =>
    cases pieces with
    | nil => exact .inr ⟨rfl, rfl⟩
    | cons first rest =>
      have split := splitOn_join slashFree (List.cons_ne_nil first rest)
      obtain ⟨notCurrent, alone⟩ := headFree rfl first rfl
      have relative := head?_join_ne_slash slashFree alone
      exact .inl (by
        rw [ofParts, parts_of_free relative (by rw [split]; simpa using notCurrent), split])

/-- A path is put together again from its parts. -/
theorem ofParts_parts (path : FilePath) : ofParts path.parts = path := by
  obtain ⟨text⟩ := path
  have whole := join_splitOn '/' text
  by_cases atRoot : text.head? = some '/'
  · obtain ⟨rest, rfl⟩ := List.head?_eq_some_iff.mp atRoot
    rw [parts_of_slash, ofParts, join_splitOn]
  obtain ⟨first, pieces, split⟩ := List.exists_cons_of_ne_nil (splitOn_ne_nil '/' text)
  rw [split] at whole
  by_cases current : first = ['.']
  · rw [current] at split whole
    rw [parts_of_current atRoot split, ← whole]
    cases pieces with
    | nil => rfl
    | cons second rest =>
      rw [join_cons_cons]
      rfl
  · rw [parts_of_free atRoot (by rw [split]; simpa using current), ofParts, split, whole]

theorem componentOf?_eq_none_iff {piece : List Char} :
    componentOf? piece = none ↔ isIdle piece = true := by
  unfold componentOf?
  split_ifs with idle up
  · simp [idle]
  · simp [idle]
  · simp [idle]

/-- A piece that means something stands for the step up or for the name it spells. -/
theorem eq_or_eq_of_componentOf? {piece : List Char} {component : Component}
    (given : componentOf? piece = some component) :
    component = .parent ∨ component = .name piece := by
  unfold componentOf? at given
  split_ifs at given with idle up
  · exact .inl (Option.some.inj given).symm
  · exact .inr (Option.some.inj given).symm

theorem componentOf?_eq_name_iff {piece name : List Char} :
    componentOf? piece = some (.name name) ↔
      isIdle piece = false ∧ piece ≠ ['.', '.'] ∧ piece = name := by
  unfold componentOf?
  split_ifs with idle up
  · simp [idle]
  · simp [eq_of_beq up]
  · simpa [idle] using fun _ => ne_of_beq_false (Bool.eq_false_iff.mpr up)

theorem filterMap_componentOf?_cons (piece : List Char) (rest : List (List Char)) :
    (piece :: rest).filterMap componentOf? =
      (componentOf? piece).toList ++ rest.filterMap componentOf? := by
  cases given : componentOf? piece with
  | none => rw [List.filterMap_cons_none given]; rfl
  | some component => rw [List.filterMap_cons_some given]; rfl

/-- Only the empty path has no components. -/
theorem components_eq_nil_iff {path : FilePath} : path.components = [] ↔ path.text = [] := by
  constructor
  · intro noComponents
    obtain ⟨anchor, noNames⟩ := List.append_eq_nil_iff.mp noComponents
    have whole := ofParts_parts path
    have headFree := (wellFormed_parts path).headFree
    generalize path.parts = cut at anchor noNames whole headFree
    obtain ⟨start, pieces⟩ := cut
    cases start with
    | root => cases anchor
    | current => cases anchor
    | free =>
      cases pieces with
      | nil => rw [← whole]; rfl
      | cons first rest =>
        obtain ⟨notCurrent, alone⟩ := headFree rfl first rfl
        have idle : isIdle first = true :=
          componentOf?_eq_none_iff.mp
            (List.filterMap_eq_nil_iff.mp noNames first List.mem_cons_self)
        have empty : first = [] := by simpa [isIdle, notCurrent] using idle
        rw [show first :: rest = [[]] from alone empty] at whole
        rw [← whole]
        rfl
  · intro empty
    obtain ⟨text⟩ := path
    obtain rfl : text = [] := empty
    rfl

theorem components_ofParts {cut : Parts} (wellFormed : cut.WellFormed) :
    (ofParts cut).components = cut.anchor.components ++ cut.pieces.filterMap componentOf? := by
  rw [components]
  rcases parts_ofParts wellFormed with same | ⟨noPieces, same⟩
  · rw [same]
  · rw [same, noPieces]
    rfl

/-! ### One name further -/

theorem parts_append_slash {text : List Char} (filled : text ≠ []) (further : List Char) :
    parts ⟨text ++ '/' :: further⟩ =
      ⟨(parts ⟨text⟩).anchor, (parts ⟨text⟩).pieces ++ splitOn '/' further⟩ := by
  obtain ⟨c, rest, rfl⟩ := List.exists_cons_of_ne_nil filled
  by_cases atRoot : c = '/'
  · rw [atRoot, List.cons_append, parts_of_slash, parts_of_slash, splitOn_append_separator]
  · have relative : (c :: rest).head? ≠ some '/' := by simpa using atRoot
    have relativeBoth : (c :: rest ++ '/' :: further).head? ≠ some '/' := relative
    have split := splitOn_append_separator '/' (c :: rest) further
    obtain ⟨first, pieces, given⟩ := List.exists_cons_of_ne_nil (splitOn_ne_nil '/' (c :: rest))
    rw [given] at split
    by_cases current : first = ['.']
    · rw [current] at split given
      have splitBoth : splitOn '/' (c :: rest ++ '/' :: further) =
          ['.'] :: (pieces ++ splitOn '/' further) := split
      rw [parts_of_current relativeBoth splitBoth, parts_of_current relative given]
    · have notCurrent : (splitOn '/' (c :: rest)).head? ≠ some ['.'] := by
        rw [given]
        simpa using current
      have notCurrentBoth :
          (splitOn '/' (c :: rest ++ '/' :: further)).head? ≠ some ['.'] := by
        rw [split]
        simpa using current
      rw [parts_of_free relativeBoth notCurrentBoth, parts_of_free relative notCurrent, split,
        given]

theorem components_append_slash {text : List Char} (filled : text ≠ []) (further : List Char) :
    components ⟨text ++ '/' :: further⟩ =
      components ⟨text⟩ ++ (splitOn '/' further).filterMap componentOf? := by
  rw [components, components, parts_append_slash filled, List.filterMap_append, List.append_assoc]

/-- One piece behind a path comes behind its pieces, in place of an empty one at their end if the
path ends in a slash. -/
theorem exists_parts_child {base : FilePath} {piece : List Char} (filled : base.text ≠ [])
    (slashFree : '/' ∉ piece) :
    ∃ front, (base.child piece).parts = ⟨base.parts.anchor, front ++ [piece]⟩ ∧
      (base.parts.pieces = front ∨ base.parts.pieces = front ++ [[]]) := by
  obtain ⟨text⟩ := base
  have relative : isRelative ⟨piece⟩ = true :=
    isRelative_iff.mpr fun slash => slashFree (List.mem_of_mem_head? slash)
  have alone := splitOn_of_not_mem slashFree
  rw [child, join, if_pos relative]
  split
  · next ending =>
    obtain ⟨before, last, rfl⟩ := (List.eq_nil_or_concat text).resolve_left filled
    rw [List.concat_eq_append] at ending ⊢
    obtain rfl : last = '/' := by simpa using ending
    rw [List.append_assoc, List.singleton_append]
    cases before with
    | nil =>
      refine ⟨[], ?_, .inr rfl⟩
      rw [List.nil_append, parts_of_slash, alone]
      rfl
    | cons first rest =>
      refine ⟨(parts ⟨first :: rest⟩).pieces, ?_, .inr ?_⟩
      · rw [parts_append_slash (List.cons_ne_nil first rest),
          parts_append_slash (List.cons_ne_nil first rest), alone]
      · rw [parts_append_slash (List.cons_ne_nil first rest)]
        rfl
  · refine ⟨(parts ⟨text⟩).pieces, ?_, .inl rfl⟩
    rw [parts_append_slash filled, alone]

theorem components_child_piece {base : FilePath} {piece : List Char} (filled : base.text ≠ [])
    (slashFree : '/' ∉ piece) :
    (base.child piece).components = base.components ++ (componentOf? piece).toList := by
  obtain ⟨front, whole, before⟩ := exists_parts_child filled slashFree
  have kept : base.parts.pieces.filterMap componentOf? = front.filterMap componentOf? := by
    rcases before with same | same
    · rw [same]
    · rw [same, List.filterMap_append]
      exact List.append_nil _
  rw [components, components, whole, kept, List.filterMap_append, filterMap_componentOf?_cons,
    List.append_assoc]
  exact congrArg _ (congrArg _ (List.append_nil _))

/-- The pieces of a relative path stand for the components that its text stands for. -/
theorem filterMap_splitOn_of_relative {text : List Char} (relative : text.head? ≠ some '/') :
    (splitOn '/' text).filterMap componentOf? =
      (parts ⟨text⟩).pieces.filterMap componentOf? := by
  obtain ⟨first, pieces, split⟩ := List.exists_cons_of_ne_nil (splitOn_ne_nil '/' text)
  by_cases current : first = ['.']
  · rw [current] at split
    rw [parts_of_current relative split, split]
    rfl
  · rw [parts_of_free relative (by rw [split]; simpa using current)]

/-- A relative path behind another one adds its components, but for where it starts. -/
theorem components_join {base path : FilePath} (filled : base.text ≠ [])
    (relative : path.isRelative = true) :
    (base.join path).components =
      base.components ++ path.parts.pieces.filterMap componentOf? := by
  obtain ⟨text⟩ := base
  obtain ⟨further⟩ := path
  rw [join, if_pos relative, ← filterMap_splitOn_of_relative (isRelative_iff.mp relative)]
  split
  · next ending =>
    obtain ⟨before, last, rfl⟩ := (List.eq_nil_or_concat text).resolve_left filled
    rw [List.concat_eq_append] at ending ⊢
    obtain rfl : last = '/' := by simpa using ending
    rw [List.append_assoc, List.singleton_append]
    cases before with
    | nil => rfl
    | cons first rest =>
      rw [components_append_slash (List.cons_ne_nil first rest),
        components_append_slash (List.cons_ne_nil first rest) []]
      simp [splitOn, componentOf?, isIdle]
  · exact components_append_slash filled further

/-- A relative text behind a path adds the components of its pieces. -/
theorem components_child (base : FilePath) {name : List Char} (relative : name.head? ≠ some '/')
    (notCurrent : (splitOn '/' name).head? ≠ some ['.']) :
    (base.child name).components =
      base.components ++ (splitOn '/' name).filterMap componentOf? := by
  have isRelative : isRelative ⟨name⟩ = true := isRelative_iff.mpr relative
  rw [child]
  by_cases filled : base.text = []
  · obtain ⟨text⟩ := base
    obtain rfl : text = [] := filled
    rw [join, if_pos isRelative]
    show components ⟨name⟩ = _
    rw [components, parts_of_free relative notCurrent]
    rfl
  · rw [components_join filled isRelative, filterMap_splitOn_of_relative relative]

theorem components_child_of_slash (base : FilePath) (rest : List Char) :
    (base.child ('/' :: rest)).components =
      .root :: (splitOn '/' rest).filterMap componentOf? := by
  have absolute : isRelative ⟨'/' :: rest⟩ = false := rfl
  rw [child, join, if_neg (by rw [absolute]; simp)]
  rfl

/-- Whether a text stands for itself among the components of a path. -/
structure IsSegment (name : List Char) : Prop where
  slashFree : '/' ∉ name
  named : componentOf? name = some (.name name)

theorem components_child_segment (base : FilePath) {name : List Char} (segment : IsSegment name) :
    (base.child name).components = base.components ++ [.name name] := by
  have alone := splitOn_of_not_mem segment.slashFree
  have relative : name.head? ≠ some '/' := fun slash =>
    segment.slashFree (List.mem_of_mem_head? slash)
  rw [components_child base relative, alone, List.filterMap_cons_some segment.named]
  · rfl
  · rw [alone]
    intro current
    obtain rfl : name = ['.'] := Option.some.inj current
    cases segment.named

/-! ### The last component -/

/-- A path whose last component is a name has that name as a piece, with nothing but idle pieces
behind it. -/
theorem exists_pieces_of_components {path : FilePath} {before : List Component} {name : List Char}
    (given : path.components = before ++ [.name name]) :
    ∃ front idle, path.parts.pieces = front ++ name :: idle ∧
      componentOf? name = some (.name name) ∧ (∀ piece ∈ idle, isIdle piece = true) ∧
      before = path.parts.anchor.components ++ front.filterMap componentOf? := by
  rcases List.eq_nil_or_concat (path.parts.pieces.filterMap componentOf?) with
    noNames | ⟨firsts, last, named⟩
  · rw [components, noNames, List.append_nil] at given
    cases anchor : path.parts.anchor <;> rw [anchor] at given <;>
      cases before <;> simp [Anchor.components] at given
  rw [List.concat_eq_append] at named
  rw [components, named, ← List.append_assoc] at given
  obtain ⟨firstsSame, lastSame⟩ := List.append_inj' given rfl
  obtain rfl : last = .name name := by simpa using lastSame
  obtain ⟨front, rest, piecesSame, frontSame, restSame⟩ := List.filterMap_eq_append_iff.mp named
  obtain ⟨idleBefore, piece, idle, rfl, noneBefore, here, noneBehind⟩ :=
    List.filterMap_eq_cons_iff.mp restSame
  obtain ⟨_, _, rfl⟩ := componentOf?_eq_name_iff.mp here
  have allIdle (pieces : List (List Char)) (noNames : pieces.filterMap componentOf? = []) :
      ∀ piece ∈ pieces, isIdle piece = true := fun piece member =>
    componentOf?_eq_none_iff.mp (List.filterMap_eq_nil_iff.mp noNames piece member)
  refine ⟨front ++ idleBefore, idle, ?_, here, allIdle idle noneBehind, ?_⟩
  · rw [piecesSame, List.append_assoc]
  · rw [List.filterMap_append, List.filterMap_eq_nil_iff.mpr noneBefore, List.append_nil, frontSame]
    exact firstsSame.symm

theorem isIdle_of_componentOf? {piece : List Char} {component : Component}
    (given : componentOf? piece = some component) : isIdle piece = false := by
  unfold componentOf? at given
  split at given
  · cases given
  · next notIdle => simpa using notIdle

theorem filterMap_of_idle {pieces : List (List Char)}
    (idle : ∀ piece ∈ pieces, isIdle piece = true) : pieces.filterMap componentOf? = [] := by
  rw [List.filterMap_eq_nil_iff]
  exact fun piece member => componentOf?_eq_none_iff.mpr (idle piece member)

theorem filterMap_withoutIdleEnd (pieces : List (List Char)) :
    (withoutIdleEnd pieces).filterMap componentOf? = pieces.filterMap componentOf? := by
  have cut : withoutIdleEnd pieces ++ pieces.rtakeWhile isIdle = pieces :=
    List.rdropWhile_append_rtakeWhile
  have idle : ∀ piece ∈ pieces.rtakeWhile isIdle, isIdle piece = true :=
    fun piece member => List.mem_rtakeWhile_imp member
  conv_rhs => rw [← cut]
  rw [List.filterMap_append, filterMap_of_idle idle, List.append_nil]

theorem dropWhile_reverse_of_idle {front idle : List (List Char)} {name : List Char}
    (notIdle : isIdle name = false) (allIdle : ∀ piece ∈ idle, isIdle piece = true) :
    (front ++ name :: idle).reverse.dropWhile isIdle = name :: front.reverse := by
  rw [List.reverse_append, List.reverse_cons, List.append_assoc, List.dropWhile_append_of_pos]
  · rw [List.singleton_append, List.dropWhile_cons_of_neg (by simp [notIdle])]
  · exact fun piece member => allIdle piece (List.mem_reverse.mp member)

/-- Pieces in front of others are those of a path if all of them are. -/
theorem Parts.WellFormed.front {anchor : Anchor} {pieces foremost : List (List Char)}
    (wellFormed : Parts.WellFormed ⟨anchor, pieces⟩) (front : foremost <+: pieces) :
    Parts.WellFormed ⟨anchor, foremost⟩ := by
  obtain ⟨slashFree, headFree⟩ := wellFormed
  refine ⟨fun piece member => slashFree piece (front.subset member), ?_⟩
  intro free first isFirst
  obtain ⟨others, rfl⟩ := List.head?_eq_some_iff.mp isFirst
  obtain ⟨behind, rfl⟩ := front
  obtain ⟨notCurrent, alone⟩ := headFree free first rfl
  refine ⟨notCurrent, fun empty => ?_⟩
  have nothing := (List.cons.inj (alone empty)).2
  rw [empty, (List.append_eq_nil_iff.mp nothing).1]

/-- The parent of a path that ends with a name has the first of its pieces, which stand for the
components before the name. -/
theorem exists_front_of_parent? {path : FilePath} {before : List Component} {name : List Char}
    (given : path.components = before ++ [.name name]) :
    ∃ front behind, path.parts.pieces = front ++ behind ∧
      Parts.WellFormed ⟨path.parts.anchor, front⟩ ∧
      path.parent? = some (ofParts ⟨path.parts.anchor, front⟩) ∧
      path.parts.anchor.components ++ front.filterMap componentOf? = before := by
  obtain ⟨front, idle, pieces, named, allIdle, rfl⟩ := exists_pieces_of_components given
  have parent : path.parent? =
      some (ofParts ⟨path.parts.anchor, withoutIdleEnd front⟩) := by
    unfold parent?
    simp only [pieces, dropWhile_reverse_of_idle (isIdle_of_componentOf? named) allIdle]
    rfl
  have kept : withoutIdleEnd front <+: path.parts.pieces := by
    rw [pieces]
    exact (List.rdropWhile_prefix isIdle front).trans (List.prefix_append front _)
  obtain ⟨behind, whole⟩ := kept
  exact ⟨withoutIdleEnd front, behind, whole.symm,
    (wellFormed_parts path).front ⟨behind, whole⟩, parent, by rw [filterMap_withoutIdleEnd]⟩

/-- The parent of a path that ends with a name has the components before it. -/
theorem components_parent? {path : FilePath} {before : List Component} {name : List Char}
    (given : path.components = before ++ [.name name]) :
    path.parent?.map components = some before := by
  obtain ⟨front, _, _, wellFormed, parent, same⟩ := exists_front_of_parent? given
  rw [parent, Option.map_some, components_ofParts wellFormed, same]

theorem fileName?_of_components {path : FilePath} {before : List Component} {name : List Char}
    (given : path.components = before ++ [.name name]) : path.fileName? = some name := by
  rw [fileName?, given, List.getLast?_concat]

/-- The last name and the idle pieces behind it may make way for another name. -/
theorem Parts.WellFormed.setLast {cut : Parts} {front idle : List (List Char)}
    {name stem : List Char} (wellFormed : cut.WellFormed)
    (pieces : cut.pieces = front ++ name :: idle) (slashFree : '/' ∉ stem)
    (named : componentOf? stem = some (.name stem)) :
    Parts.WellFormed ⟨cut.anchor, front ++ [stem]⟩ := by
  refine ⟨?_, ?_⟩
  · intro piece member
    rcases List.mem_append.mp member with inFront | last
    · exact wellFormed.slashFree piece (pieces ▸ List.mem_append_left _ inFront)
    · rwa [List.mem_singleton.mp last]
  · intro free first isFirst
    cases front with
    | nil =>
      obtain rfl : stem = first := Option.some.inj isFirst
      have notIdle := isIdle_of_componentOf? named
      refine ⟨?_, ?_⟩
      · rintro rfl
        cases notIdle
      · rintro rfl
        cases notIdle
    | cons head rest =>
      obtain rfl : head = first := Option.some.inj isFirst
      obtain ⟨notCurrent, alone⟩ := wellFormed.headFree free head (by rw [pieces]; rfl)
      refine ⟨notCurrent, fun empty => ?_⟩
      -- An empty first piece would stand alone, and here the name stands behind it.
      have whole := alone empty
      rw [pieces] at whole
      simp at whole

/-- A path that ends with a name ends with that name's stem once its extension is taken off. -/
theorem components_withoutExtension {path : FilePath} {before : List Component}
    {name stem : List Char} (given : path.components = before ++ [.name name])
    (cut : (splitExtension name).1 = stem) (named : componentOf? stem = some (.name stem))
    (slashFree : '/' ∉ stem) : path.withoutExtension.components = before ++ [.name stem] := by
  obtain ⟨front, idle, pieces, nameNamed, allIdle, rfl⟩ := exists_pieces_of_components given
  have ending : withoutIdleEnd path.parts.pieces = front ++ [name] := by
    rw [withoutIdleEnd, pieces,
      dropWhile_reverse_of_idle (isIdle_of_componentOf? nameNamed) allIdle,
      List.reverse_cons, List.reverse_reverse]
  have stemWellFormed : Parts.WellFormed ⟨path.parts.anchor, front ++ [stem]⟩ :=
    (wellFormed_parts path).setLast pieces slashFree named
  rw [withoutExtension, fileName?_of_components given]
  show (ofParts ⟨path.parts.anchor, (withoutIdleEnd path.parts.pieces).dropLast ++
    [(splitExtension name).1]⟩).components = _
  rw [ending, List.dropLast_concat, cut, components_ofParts stemWellFormed, List.filterMap_append,
    ← List.append_assoc]
  simp only [List.filterMap_cons, named, List.filterMap_nil]

/-! ### Extensions -/

theorem splitExtension_append {stem extension : List Char} (notEmpty : stem ≠ [])
    (dotFree : '.' ∉ extension) :
    splitExtension (stem ++ '.' :: extension) = (stem, some extension) := by
  have dropped : (stem ++ '.' :: extension).reverse.dropWhile (fun c => decide (c ≠ '.')) =
      '.' :: stem.reverse := by
    rw [List.reverse_append, List.reverse_cons, List.append_assoc, List.singleton_append]
    exact dropWhile_ne_append (fun member => dotFree (List.mem_reverse.mp member)) _
  have filled : stem.reverse.isEmpty = false := by
    rw [List.isEmpty_eq_false_iff]
    simpa using notEmpty
  unfold splitExtension
  rw [dropped]
  simp only [filled, Bool.false_eq_true, if_false, List.reverse_reverse,
    afterLast_append stem dotFree]

/-- A name with nothing before its only dot has no extension. -/
theorem splitExtension_dot {extension : List Char} (dotFree : '.' ∉ extension) :
    splitExtension ('.' :: extension) = ('.' :: extension, none) := by
  have dropped : ('.' :: extension).reverse.dropWhile (fun c => decide (c ≠ '.')) = ['.'] := by
    rw [List.reverse_cons]
    exact dropWhile_ne_append (fun member => dotFree (List.mem_reverse.mp member)) []
  unfold splitExtension
  rw [dropped]
  rfl

/-! ### Comparing -/

theorem same_iff {left right : FilePath} :
    left.same right = true ↔ left.components = right.components := by
  rw [same, beq_iff_eq]

/-! ### What a path adds to another -/

theorem filterMap_dropWhile_isIdle (pieces : List (List Char)) :
    (pieces.dropWhile isIdle).filterMap componentOf? = pieces.filterMap componentOf? := by
  have idle : ∀ piece ∈ pieces.takeWhile isIdle, isIdle piece = true :=
    fun piece member => List.mem_takeWhile_imp member
  conv_rhs => rw [← List.takeWhile_append_dropWhile (p := isIdle) (l := pieces)]
  rw [List.filterMap_append, filterMap_of_idle idle, List.nil_append]

theorem filterMap_piecesAfter (count : Nat) (pieces : List (List Char)) :
    (piecesAfter count pieces).filterMap componentOf? =
      (pieces.filterMap componentOf?).drop count := by
  fun_induction piecesAfter count pieces with
  | case1 => rfl
  | case2 => rfl
  | case3 count piece rest idle inductionHypothesis =>
    rw [inductionHypothesis, filterMap_componentOf?_cons, componentOf?_eq_none_iff.mpr idle]
    rfl
  | case4 count piece rest notIdle inductionHypothesis =>
    obtain ⟨component, isComponent⟩ := Option.ne_none_iff_exists'.mp
      (mt componentOf?_eq_none_iff.mp notIdle)
    rw [inductionHypothesis, filterMap_componentOf?_cons, isComponent]
    rfl

/-- Pieces that start with a meaning are those of a path that starts nowhere in particular. -/
theorem wellFormed_dropWhile_isIdle {pieces : List (List Char)}
    (slashFree : ∀ piece ∈ pieces, '/' ∉ piece) :
    Parts.WellFormed ⟨.free, pieces.dropWhile isIdle⟩ := by
  refine ⟨fun piece member => slashFree piece ((List.dropWhile_sublist isIdle).subset member),
    fun _ first isFirst => ?_⟩
  have notIdle := List.head?_dropWhile_not isIdle pieces
  rw [Option.mem_def.mp isFirst] at notIdle
  refine ⟨?_, ?_⟩
  · rintro rfl
    cases notIdle
  · rintro rfl
    cases notIdle

theorem piecesAfter_suffix (count : Nat) (pieces : List (List Char)) :
    piecesAfter count pieces <:+ pieces := by
  fun_induction piecesAfter count pieces with
  | case1 pieces => exact List.suffix_refl pieces
  | case2 count => exact List.suffix_refl []
  | case3 count piece rest idle inductionHypothesis =>
    exact inductionHypothesis.trans (List.suffix_cons piece rest)
  | case4 count piece rest notIdle inductionHypothesis =>
    exact inductionHypothesis.trans (List.suffix_cons piece rest)

theorem prefix_withoutIdleEnd (pieces : List (List Char)) : withoutIdleEnd pieces <+: pieces :=
  List.rdropWhile_prefix isIdle pieces

theorem length_components_le_one (anchor : Anchor) : anchor.components.length ≤ 1 := by
  cases anchor <;> decide

/-- A path that goes on behind another one adds what comes behind. -/
theorem relativeTo?_of_components {path base : FilePath} {rest : List Component}
    (filled : base.text ≠ []) (whole : path.components = base.components ++ rest) :
    ∃ relative, path.relativeTo? base = some relative ∧ relative.components = rest := by
  have notZero : base.components.length ≠ 0 :=
    mt (components_eq_nil_iff.mp <| List.length_eq_zero_iff.mp ·) filled
  have short : path.parts.anchor.components.length ≤ base.components.length :=
    (length_components_le_one _).trans (Nat.one_le_iff_ne_zero.mpr notZero)
  have slashFree (count : Nat) : ∀ piece ∈ piecesAfter count path.parts.pieces, '/' ∉ piece :=
    fun piece member =>
      (wellFormed_parts path).slashFree piece ((piecesAfter_suffix count _).subset member)
  have cut : path.components =
      path.parts.anchor.components ++ path.parts.pieces.filterMap componentOf? := rfl
  have behind := congrArg (List.drop base.components.length) whole
  rw [List.drop_left, cut, List.drop_append, List.drop_of_length_le short] at behind
  unfold relativeTo?
  rw [if_pos (List.isPrefixOf_iff_prefix.mpr ⟨rest, whole.symm⟩)]
  dsimp only
  rw [if_neg notZero]
  refine ⟨_, rfl, ?_⟩
  rw [components_ofParts ((wellFormed_dropWhile_isIdle (slashFree _)).front
      (prefix_withoutIdleEnd _)),
    filterMap_withoutIdleEnd, filterMap_dropWhile_isIdle, filterMap_piecesAfter]
  exact behind

theorem relativeTo?_eq_none {path base : FilePath}
    (elsewhere : ¬ base.components <+: path.components) : path.relativeTo? base = none := by
  unfold relativeTo?
  rw [if_neg (mt List.isPrefixOf_iff_prefix.mp elsewhere)]

/-! ### Order -/

/-- Where a component stands: by its kind, and names by their characters. -/
def Component.key (component : Component) : ℕ ×ₗ List Char :=
  match component with
  | .name text => toLex (component.rank, text)
  | _ => toLex (component.rank, [])

theorem Component.key_injective : Function.Injective Component.key := by
  intro left right same
  have same := congrArg ofLex same
  cases left <;> cases right <;> first | rfl | simp [key, rank] at same
  rw [same]

theorem Component.before_iff {left right : Component} :
    left.before right = true ↔ left.key < right.key := by
  rw [Prod.Lex.lt_iff]
  cases left <;> cases right <;> simp [Component.before, Component.key, Component.rank]

theorem componentsBefore_iff {lefts rights : List Component} :
    componentsBefore lefts rights = true ↔ lefts.map Component.key < rights.map Component.key := by
  induction lefts generalizing rights with
  | nil => cases rights <;> simp [componentsBefore]
  | cons left lefts inductionHypothesis =>
    cases rights with
    | nil => simp [componentsBefore]
    | cons right rights =>
      rw [componentsBefore, List.map_cons, List.map_cons, List.cons_lt_cons_iff,
        ← inductionHypothesis, ← Component.before_iff, Component.key_injective.eq_iff]
      simp

/-- Where a path stands: by its components in turn. -/
def key (path : FilePath) : List (ℕ ×ₗ List Char) :=
  path.components.map Component.key

theorem before_iff {left right : FilePath} : left.before right = true ↔ left.key < right.key :=
  componentsBefore_iff

instance : Std.Irrefl fun left right : FilePath => left.before right = true :=
  ⟨fun path before => lt_irrefl path.key (before_iff.mp before)⟩

instance : Std.Antisymm fun left right : FilePath => left.before right = true :=
  ⟨fun left _ before after =>
    absurd ((before_iff.mp before).trans (before_iff.mp after)) (lt_irrefl left.key)⟩

theorem key_eq_iff {left right : FilePath} :
    left.key = right.key ↔ left.components = right.components :=
  (List.map_injective_iff.mpr Component.key_injective).eq_iff

end SharpTypes.FilePath

/-
Names that are declared again. The index has the path of the last declaration of a name, and every
declaration but the first is reported with the path of the one before it. So the reports on a name
lead from where it is declared first to where the index has it, each going on where the last one
ended, and all reports together are as many as the declarations without a name of their own.
-/

import Mathlib.Data.Finset.Card
import Mathlib.Data.List.Chain
import Mathlib.Tactic.Common
import SharpTypes.Proofs.Output.Assembly

namespace SharpTypes

/-- A report on a name that is declared again: where it was, where it is now, and the source file
that declares it there. -/
structure Redeclaration where
  previous : FilePath
  current : FilePath
  source : FilePath
  deriving DecidableEq, Repr

namespace Event

/-- What an event reports on a name. -/
def redeclaration? (name : List Char) : Event → Option Redeclaration
  | .duplicateName other previous current source =>
    if other = name then some ⟨previous, current, source⟩ else none
  | _ => none

end Event

namespace Index

variable {layout : Layout} {files : List ParsedFile} {name : List Char}

/-! ### Reports on one name -/

/-- The reports on a name among some events, in order. -/
def reportsOn (name : List Char) (events : List Event) : List Redeclaration :=
  events.filterMap (Event.redeclaration? name)

/-- Where a file declares a name, once for every declaration: the output path and the source. -/
def placesIn (layout : Layout) (name : List Char) (file : ParsedFile) :
    List (FilePath × FilePath) :=
  (file.declarations.filter fun declaration => declaration.name == name).map fun _ =>
    (layout.unitPath file.relativePath, file.sourcePath)

/-- Where a name is declared, declaration by declaration. -/
def placesOf (layout : Layout) (name : List Char) (files : List ParsedFile) :
    List (FilePath × FilePath) :=
  files.flatMap (placesIn layout name)

/-- The report on a place, if there was a path before it. -/
def reportAt (previous : Option FilePath) (place : FilePath × FilePath) : List Redeclaration :=
  (previous.map fun path => ⟨path, place.1, place.2⟩).toList

/-- The reports on places in turn, each with the path before it. -/
def reportsAfter : Option FilePath → List (FilePath × FilePath) → List Redeclaration
  | _, [] => []
  | previous, place :: rest => reportAt previous place ++ reportsAfter (some place.1) rest

/-- The path that stands after some places: the last one among them, or the one before. -/
def standing (previous : Option FilePath) (places : List (FilePath × FilePath)) :
    Option FilePath :=
  (places.getLast?.map Prod.fst).or previous

theorem standing_cons (previous : Option FilePath) (place : FilePath × FilePath)
    (rest : List (FilePath × FilePath)) :
    standing previous (place :: rest) = standing (some place.1) rest := by
  rw [standing, standing, List.getLast?_cons]
  cases rest.getLast? <;> rfl

theorem standing_append (previous : Option FilePath) (places others : List (FilePath × FilePath)) :
    standing previous (places ++ others) = standing (standing previous places) others := by
  unfold standing
  rw [List.getLast?_append, Option.map_or, Option.or_assoc]

theorem reportsAfter_append (previous : Option FilePath)
    (places others : List (FilePath × FilePath)) :
    reportsAfter previous (places ++ others) =
      reportsAfter previous places ++ reportsAfter (standing previous places) others := by
  induction places generalizing previous with
  | nil => rfl
  | cons place rest inductionHypothesis =>
    rw [standing_cons, List.cons_append, reportsAfter, reportsAfter, inductionHypothesis,
      List.append_assoc]

theorem reportsOn_append (name : List Char) (events others : List Event) :
    reportsOn name (events ++ others) = reportsOn name events ++ reportsOn name others :=
  List.filterMap_append

/-- The event of a declaration, if its name has a path already. -/
def eventsAt (path source : FilePath) (earlier : List (List Char × FilePath))
    (declaration : Declaration) : List Event :=
  ((lastPath? declaration.name earlier).map fun previous =>
    .duplicateName declaration.name previous path source).toList

theorem duplicatesIn_cons (path source : FilePath) (earlier : List (List Char × FilePath))
    (declaration : Declaration) (rest : List Declaration) :
    duplicatesIn path source earlier (declaration :: rest) =
      eventsAt path source earlier declaration ++
        duplicatesIn path source (earlier ++ [(declaration.name, path)]) rest := by
  rw [duplicatesIn, eventsAt]
  cases lastPath? declaration.name earlier <;> rfl

theorem reportsOn_eventsAt (name : List Char) (path source : FilePath)
    (earlier : List (List Char × FilePath)) (declaration : Declaration) :
    reportsOn name (eventsAt path source earlier declaration) =
      if declaration.name = name then reportAt (lastPath? name earlier) (path, source) else [] := by
  unfold eventsAt reportAt reportsOn
  split
  case isTrue same =>
    subst same
    cases lastPath? declaration.name earlier <;> simp [Event.redeclaration?]
  case isFalse differs =>
    cases lastPath? declaration.name earlier <;> simp [Event.redeclaration?, differs]

/-- The reports on a name in one file go on from the path that was listed before. -/
theorem reportsOn_duplicatesIn (name : List Char) (path source : FilePath)
    (earlier : List (List Char × FilePath)) (declarations : List Declaration) :
    reportsOn name (duplicatesIn path source earlier declarations) =
      reportsAfter (lastPath? name earlier)
        ((declarations.filter fun declaration => declaration.name == name).map
          fun _ => (path, source)) := by
  induction declarations generalizing earlier with
  | nil => rfl
  | cons declaration rest inductionHypothesis =>
    rw [duplicatesIn_cons, reportsOn_append, reportsOn_eventsAt, inductionHypothesis,
      lastPath?_append, lastPath?, lastPath?]
    by_cases same : declaration.name = name
    · rw [if_pos same, if_pos same, Option.some_or, List.filter_cons_of_pos (by simpa using same),
        List.map_cons, reportsAfter]
    · rw [if_neg same, if_neg same, Option.none_or, List.filter_cons_of_neg (by simpa using same)]
      rfl

theorem placesIn_eq_nil_iff {file : ParsedFile} :
    placesIn layout name file = [] ↔ file.declares name = false := by
  rw [placesIn, List.map_eq_nil_iff, List.filter_eq_nil_iff, ParsedFile.declares,
    List.any_eq_false]

/-- Where a file declares a name at all, it does so at one place, as often as it is declared. -/
theorem exists_placesIn_eq_replicate (layout : Layout) {file : ParsedFile}
    (declares : file.declares name = true) :
    ∃ count, placesIn layout name file =
      List.replicate (count + 1) (layout.unitPath file.relativePath, file.sourcePath) := by
  have alike : placesIn layout name file = List.replicate _ _ := List.map_const' ..
  have declaredOnce :
      (file.declarations.filter fun declaration => declaration.name == name).length ≠ 0 := by
    intro never
    rw [never, List.replicate_zero, placesIn_eq_nil_iff, declares] at alike
    cases alike
  obtain ⟨count, length⟩ := Nat.exists_eq_succ_of_ne_zero declaredOnce
  exact ⟨count, by rw [alike, length]⟩

/-- The last path that is listed is the last one at which the name is declared. -/
theorem lastPath?_append_entriesOf (name : List Char) (earlier : List (List Char × FilePath))
    (file : ParsedFile) :
    lastPath? name (earlier ++ entriesOf layout file) =
      standing (lastPath? name earlier) (placesIn layout name file) := by
  rw [lastPath?_append, lastPath?_entriesOf, standing]
  split
  case isTrue declares =>
    obtain ⟨count, alike⟩ := exists_placesIn_eq_replicate layout declares
    rw [alike, List.getLast?_replicate, if_neg (Nat.succ_ne_zero count)]
    rfl
  case isFalse undeclared =>
    rw [placesIn_eq_nil_iff.mpr (Bool.eq_false_iff.mpr undeclared)]
    rfl

theorem placesOf_cons (layout : Layout) (name : List Char) (file : ParsedFile)
    (rest : List ParsedFile) :
    placesOf layout name (file :: rest) = placesIn layout name file ++ placesOf layout name rest :=
  List.flatMap_cons

/-- The reports on a name pass on the paths at which it is declared. -/
theorem reportsOn_duplicatesAfter (layout : Layout) (name : List Char)
    (earlier : List (List Char × FilePath)) (files : List ParsedFile) :
    reportsOn name (duplicatesAfter layout earlier files) =
      reportsAfter (lastPath? name earlier) (placesOf layout name files) := by
  induction files generalizing earlier with
  | nil => rfl
  | cons file rest inductionHypothesis =>
    rw [duplicatesAfter, reportsOn_append, reportsOn_duplicatesIn, inductionHypothesis,
      lastPath?_append_entriesOf, placesOf_cons, reportsAfter_append]
    rfl

theorem lastPath?_append_flatMap (name : List Char) (earlier : List (List Char × FilePath))
    (files : List ParsedFile) :
    lastPath? name (earlier ++ files.flatMap (entriesOf layout)) =
      standing (lastPath? name earlier) (placesOf layout name files) := by
  induction files generalizing earlier with
  | nil => rw [List.flatMap_nil, List.append_nil]; rfl
  | cons file rest inductionHypothesis =>
    rw [List.flatMap_cons, ← List.append_assoc, inductionHypothesis, lastPath?_append_entriesOf,
      placesOf_cons, standing_append]

theorem get?_build_eq_standing (layout : Layout) (name : List Char) (files : List ParsedFile) :
    (build layout files).get? name = standing none (placesOf layout name files) :=
  lastPath?_append_flatMap name [] files

/-! ### The chain of reports -/

section

variable {previous : FilePath} {places : List (FilePath × FilePath)} {report : Redeclaration}

/-- Each place behind a path is reported, in order. -/
theorem map_reportsAfter (previous : FilePath) (places : List (FilePath × FilePath)) :
    (reportsAfter (some previous) places).map
      (fun report => (report.current, report.source)) = places := by
  induction places generalizing previous with
  | nil => rfl
  | cons place rest inductionHypothesis =>
    exact congrArg (place :: ·) (inductionHypothesis place.1)

theorem previous_of_mem_head? (isFirst : report ∈ (reportsAfter (some previous) places).head?) :
    report.previous = previous := by
  cases places with
  | nil => cases isFirst
  | cons place rest =>
    obtain rfl := Option.some.inj isFirst
    rfl

theorem isChain_reportsAfter (previous : FilePath) (places : List (FilePath × FilePath)) :
    (reportsAfter (some previous) places).IsChain
      fun earlier later => later.previous = earlier.current := by
  induction places generalizing previous with
  | nil => exact .nil
  | cons place rest inductionHypothesis =>
    exact List.isChain_cons.mpr
      ⟨fun _ isNext => previous_of_mem_head? isNext, inductionHypothesis place.1⟩

theorem standing_of_mem_getLast?
    (isLast : report ∈ (reportsAfter (some previous) places).getLast?) :
    standing (some previous) places = some report.current := by
  rw [standing, ← map_reportsAfter previous places, List.getLast?_map, Option.mem_def.mp isLast]
  rfl

/-- The reports on a name start at its first place. -/
theorem reportsOn_eq_nil_or (layout : Layout) (name : List Char) (files : List ParsedFile) :
    placesOf layout name files = [] ∧ reportsOn name (duplicates layout files) = [] ∨
      ∃ place rest, placesOf layout name files = place :: rest ∧
        reportsOn name (duplicates layout files) = reportsAfter (some place.1) rest := by
  rw [duplicates, reportsOn_duplicatesAfter]
  cases placesOf layout name files with
  | nil => exact .inl ⟨rfl, rfl⟩
  | cons place rest => exact .inr ⟨place, rest, rfl, rfl⟩

end

/-! ### Counting -/

/-- The names of all declarations, in order. -/
def declaredNames (files : List ParsedFile) : List (List Char) :=
  files.flatMap fun file => file.declarations.map Declaration.name

theorem declaredNames_cons (file : ParsedFile) (rest : List ParsedFile) :
    declaredNames (file :: rest) = file.declarations.map Declaration.name ++ declaredNames rest :=
  List.flatMap_cons

theorem length_placesOf (layout : Layout) (name : List Char) (files : List ParsedFile) :
    (placesOf layout name files).length = (declaredNames files).count name := by
  induction files with
  | nil => rfl
  | cons file rest inductionHypothesis =>
    rw [placesOf_cons, List.length_append, inductionHypothesis, declaredNames_cons,
      List.count_append, placesIn, List.length_map, ← List.countP_eq_length_filter, List.count,
      List.countP_map]
    rfl

theorem head?_placesOf (layout : Layout) (name : List Char) (files : List ParsedFile) :
    (placesOf layout name files).head? = (files.filter (·.declares name)).head?.map fun file =>
      (layout.unitPath file.relativePath, file.sourcePath) := by
  induction files with
  | nil => rfl
  | cons file rest inductionHypothesis =>
    rw [placesOf_cons, List.head?_append, inductionHypothesis, List.filter_cons]
    cases declares : file.declares name with
    | false =>
      rw [placesIn_eq_nil_iff.mpr declares]
      rfl
    | true =>
      obtain ⟨count, alike⟩ := exists_placesIn_eq_replicate layout declares
      rw [alike, List.replicate_succ]
      rfl

theorem isSome_lastPath?_iff {entries : List (List Char × FilePath)} :
    (lastPath? name entries).isSome = true ↔ name ∈ entries.map Prod.fst := by
  induction entries with
  | nil => simp [lastPath?]
  | cons entry rest inductionHypothesis =>
    rw [lastPath?, List.map_cons, List.mem_cons, ← inductionHypothesis]
    cases lastPath? name rest with
    | some path => simp
    | none =>
      by_cases same : entry.1 = name
      · simp [same]
      · simp [same, Ne.symm same]

/-- A declaration is reported, or its name is a new one. -/
theorem length_eventsAt (path source : FilePath) (earlier : List (List Char × FilePath))
    (declaration : Declaration) :
    (eventsAt path source earlier declaration).length +
        (earlier.map Prod.fst ++ [declaration.name]).toFinset.card =
      1 + (earlier.map Prod.fst).toFinset.card := by
  have known : (lastPath? declaration.name earlier).isSome = true ↔
      declaration.name ∈ (earlier.map Prod.fst).toFinset :=
    isSome_lastPath?_iff.trans List.mem_toFinset.symm
  rw [List.toFinset_append, List.toFinset_cons, List.toFinset_nil, Finset.union_comm,
    Finset.insert_union, Finset.empty_union, Finset.card_insert_eq_ite, eventsAt]
  cases listed : lastPath? declaration.name earlier with
  | none =>
    rw [listed] at known
    rw [if_neg fun member => absurd (known.mpr member) Bool.false_ne_true]
    exact (Nat.zero_add _).trans (Nat.add_comm _ _)
  | some previous =>
    rw [listed] at known
    rw [if_pos (known.mp rfl)]
    rfl

theorem length_duplicatesIn (path source : FilePath) (earlier : List (List Char × FilePath))
    (declarations : List Declaration) :
    (duplicatesIn path source earlier declarations).length +
        (earlier.map Prod.fst ++ declarations.map Declaration.name).toFinset.card =
      declarations.length + (earlier.map Prod.fst).toFinset.card := by
  induction declarations generalizing earlier with
  | nil => simp [duplicatesIn]
  | cons declaration rest inductionHypothesis =>
    have first := length_eventsAt path source earlier declaration
    have others := inductionHypothesis (earlier ++ [(declaration.name, path)])
    rw [List.map_append, List.append_assoc] at others
    rw [duplicatesIn_cons, List.length_append, List.length_cons]
    simp only [List.map_cons, List.map_nil, List.singleton_append] at others first ⊢
    omega

theorem length_duplicatesAfter (layout : Layout) (earlier : List (List Char × FilePath))
    (files : List ParsedFile) :
    (duplicatesAfter layout earlier files).length +
        (earlier.map Prod.fst ++ declaredNames files).toFinset.card =
      (declaredNames files).length + (earlier.map Prod.fst).toFinset.card := by
  induction files generalizing earlier with
  | nil => simp [duplicatesAfter, declaredNames]
  | cons file rest inductionHypothesis =>
    have first := length_duplicatesIn (layout.unitPath file.relativePath) file.sourcePath earlier
      file.declarations
    have others := inductionHypothesis (earlier ++ entriesOf layout file)
    have names : (entriesOf layout file).map Prod.fst = file.declarations.map Declaration.name :=
      List.map_map ..
    rw [List.map_append, names, List.append_assoc] at others
    rw [duplicatesAfter, List.length_append, declaredNames_cons, List.length_append,
      List.length_map]
    omega

/-! ### Index and reports -/

theorem exists_of_mem_duplicatesIn {event : Event} {path source : FilePath}
    {earlier : List (List Char × FilePath)} {declarations : List Declaration}
    (member : event ∈ duplicatesIn path source earlier declarations) :
    ∃ declaration ∈ declarations, ∃ previous,
      event = .duplicateName declaration.name previous path source := by
  induction declarations generalizing earlier with
  | nil => cases member
  | cons declaration rest inductionHypothesis =>
    rw [duplicatesIn_cons] at member
    rcases List.mem_append.mp member with here | later
    · obtain ⟨previous, _, rfl⟩ := Option.map_eq_some_iff.mp (Option.mem_toList.mp here)
      exact ⟨declaration, List.mem_cons_self, previous, rfl⟩
    · obtain ⟨other, isOther, report⟩ := inductionHypothesis later
      exact ⟨other, List.mem_cons_of_mem _ isOther, report⟩

/-- Every event reports a declaration of a file, with the paths of that file. -/
theorem exists_of_mem_duplicatesAfter {event : Event} {earlier : List (List Char × FilePath)}
    (member : event ∈ duplicatesAfter layout earlier files) :
    ∃ file ∈ files, ∃ declaration ∈ file.declarations, ∃ previous, event =
      .duplicateName declaration.name previous (layout.unitPath file.relativePath)
        file.sourcePath := by
  induction files generalizing earlier with
  | nil => cases member
  | cons file rest inductionHypothesis =>
    rcases List.mem_append.mp member with here | later
    · exact ⟨file, List.mem_cons_self, exists_of_mem_duplicatesIn here⟩
    · obtain ⟨other, isOther, report⟩ := inductionHypothesis later
      exact ⟨other, List.mem_cons_of_mem _ isOther, report⟩

theorem mem_declaredNames_iff :
    name ∈ declaredNames files ↔ ∃ file ∈ files, file.declares name = true := by
  simp only [declaredNames, ParsedFile.declares, List.mem_flatMap, List.mem_map, List.any_eq_true,
    beq_iff_eq]

/-- The index has the path of the last file that declares a name, and no other names. -/
structure HasLast (layout : Layout) (files : List ParsedFile) (index : Index) : Prop where
  last : ∀ name, index.get? name = (files.filter (·.declares name)).getLast?.map fun file =>
    layout.unitPath file.relativePath
  undeclared : ∀ name, index.get? name = none ↔ name ∉ declaredNames files

/-- The reports on a name, one for every declaration of it but the first, lead from the path of the
first file that declares it to the path in the index, each from where the one before it ended. -/
structure LeadToIndex (layout : Layout) (files : List ParsedFile) (index : Index)
    (name : List Char) (reports : List Redeclaration) : Prop where
  count : reports.length = (declaredNames files).count name - 1
  start : ∀ report ∈ reports.head?, (files.filter (·.declares name)).head?.map
    (fun file => layout.unitPath file.relativePath) = some report.previous
  linked : reports.IsChain fun earlier later => later.previous = earlier.current
  finish : ∀ report ∈ reports.getLast?, index.get? name = some report.current

/-- The events report the declarations whose names were declared before: every event is about a
declaration of a file and has the paths of that, there is one for every declaration beyond the
distinct names, and those on one name lead to the path in the index. -/
structure AreReports (layout : Layout) (files : List ParsedFile) (index : Index)
    (events : List Event) : Prop where
  origin : ∀ event ∈ events, ∃ file ∈ files, ∃ declaration ∈ file.declarations, ∃ previous,
    event = .duplicateName declaration.name previous (layout.unitPath file.relativePath)
      file.sourcePath
  total : events.length + (declaredNames files).toFinset.card = (declaredNames files).length
  chained : ∀ name, LeadToIndex layout files index name (reportsOn name events)

theorem hasLast_build (layout : Layout) (files : List ParsedFile) :
    HasLast layout files (build layout files) := by
  have last (name : List Char) : (build layout files).get? name =
      (files.filter (·.declares name)).getLast?.map fun file =>
        layout.unitPath file.relativePath := by
    rw [get?_build, List.getLast?_filter]
  refine ⟨last, fun name => ?_⟩
  rw [last, Option.map_eq_none_iff, List.getLast?_eq_none_iff, List.filter_eq_nil_iff,
    mem_declaredNames_iff]
  simp

theorem leadToIndex_reportsOn (layout : Layout) (files : List ParsedFile) (name : List Char) :
    LeadToIndex layout files (build layout files) name
      (reportsOn name (duplicates layout files)) := by
  have count := length_placesOf layout name files
  have first := head?_placesOf layout name files
  rcases reportsOn_eq_nil_or layout name files with
    ⟨undeclared, silent⟩ | ⟨place, rest, declared, reports⟩
  · rw [silent]
    refine ⟨?_, nofun, .nil, nofun⟩
    rw [← count, undeclared]
    rfl
  · rw [declared] at first count
    rw [reports]
    refine ⟨?_, fun report isFirst => ?_, isChain_reportsAfter place.1 rest,
      fun report isLast => ?_⟩
    · have length := congrArg List.length (map_reportsAfter place.1 rest)
      rw [List.length_map] at length
      rw [length, ← count]
      rfl
    · have path := congrArg (Option.map Prod.fst) first
      rw [Option.map_map] at path
      rw [previous_of_mem_head? isFirst]
      exact path.symm
    · rw [get?_build_eq_standing, declared, standing_cons]
      exact standing_of_mem_getLast? isLast

/-- The last declaration of a name wins, and every declaration whose name was declared before is
reported. -/
theorem redeclarations_form_chain (layout : Layout) (files : List ParsedFile) :
    HasLast layout files (build layout files) ∧
      AreReports layout files (build layout files) (duplicates layout files) :=
  ⟨hasLast_build layout files, fun _ => exists_of_mem_duplicatesAfter,
    length_duplicatesAfter layout [] files, leadToIndex_reportsOn layout files⟩

/-- A name that is declared in one file and twice in another is reported twice. -/
example :
    let layout : Layout := ⟨⟨"out".toList⟩, .uniform .kebab, none⟩
    let widget : Declaration := ⟨"Widget".toList, .enumeration []⟩
    let first : ParsedFile := ⟨⟨"App/A.cs".toList⟩, ⟨"A.cs".toList⟩, [widget]⟩
    let second : ParsedFile := ⟨⟨"App/B.cs".toList⟩, ⟨"B.cs".toList⟩, [widget, widget]⟩
    reportsOn "Widget".toList (duplicates layout [first, second]) =
      [⟨⟨"out/a.ts".toList⟩, ⟨"out/b.ts".toList⟩, ⟨"App/B.cs".toList⟩⟩,
        ⟨⟨"out/b.ts".toList⟩, ⟨"out/b.ts".toList⟩, ⟨"App/B.cs".toList⟩⟩] := by
  decide +kernel

end Index

end SharpTypes

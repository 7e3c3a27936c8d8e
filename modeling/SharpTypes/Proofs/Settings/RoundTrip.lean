/-
Settings survive a round trip. An object that settings are written as may be rearranged, and further
members may stand among its own: as long as each field is given once and by its right value, the
fields read so far determine the draft, whatever their order was. So the settings that are read are
those that were written, from the values as well as from the text.
-/

import Mathlib.Data.List.Nodup
import Mathlib.Tactic.Common
import SharpTypes.Proofs.Settings.WrittenReading
import SharpTypes.Settings.Printer

namespace SharpTypes

/-! ### Conventions -/

theorem Settings.decodeConvention_toJson (filler : Settings.Filler)
    (convention : NamingConvention) :
    Settings.decodeConvention filler convention.toJson = .ok convention := by
  show Settings.decodeConventionName convention.name = _
  rw [Settings.decodeConventionName, NamingConvention.ofName?_name]

/-- The value is one that the conventions for files and directories may be written as. Where they
are an object, its two members may come in any order and among others. -/
inductive PathNaming.IsWritten : PathNaming → Json → Prop where
  | uniform (convention : NamingConvention) : IsWritten (.uniform convention) convention.toJson
  | split (file directory : NamingConvention) {members unknown : List (List Char × Json)}
    (arranged : members.Perm
      ([("file".toList, file.toJson), ("dir".toList, directory.toJson)] ++ unknown))
    (others : ∀ entry ∈ unknown, entry.1 ≠ "file".toList ∧ entry.1 ≠ "dir".toList ∧
      entry.2.IsPlain (Settings.innerDepth - 1)) :
    IsWritten (.split file directory) (.object members)

theorem PathNaming.isWritten_toJson (naming : PathNaming) : naming.IsWritten naming.toJson := by
  cases naming with
  | uniform convention => exact .uniform convention
  | split file directory => exact .split file directory (List.Perm.refl _) nofun

namespace Settings

/-- The values of a name keep their number when members are rearranged. -/
theorem valuesOf_eq_singleton_of_perm {name : List Char} {value : Json}
    {members members' : List (List Char × Json)} (arranged : members.Perm members')
    (given : valuesOf name members' = [value]) : valuesOf name members = [value] := by
  have values : (valuesOf name members).Perm (valuesOf name members') :=
    (arranged.filter _).map _
  rw [given] at values
  exact List.perm_singleton.mp values

theorem valuesOf_append_of_absent {name : List Char} {members unknown : List (List Char × Json)}
    (absent : ∀ entry ∈ unknown, entry.1 ≠ name) :
    valuesOf name (members ++ unknown) = valuesOf name members := by
  have noValues : unknown.filter (fun entry => entry.1 == name) = [] :=
    List.filter_eq_nil_iff.mpr fun entry member => by simpa using absent entry member
  unfold valuesOf
  rw [List.filter_append, noValues, List.append_nil]

theorem decodePathNaming_of_isWritten {naming : PathNaming} {value : Json}
    (written : naming.IsWritten value) : decodePathNaming value = .ok naming := by
  cases written with
  | uniform convention =>
    unfold decodePathNaming
    rw [decodeConvention_toJson]
    rfl
  | @split file directory members unknown arranged others =>
    have fileValue : valuesOf "file".toList members = [file.toJson] :=
      valuesOf_eq_singleton_of_perm arranged
        (valuesOf_append_of_absent fun entry member => (others entry member).1)
    have directoryValue : valuesOf "dir".toList members = [directory.toJson] :=
      valuesOf_eq_singleton_of_perm arranged
        (valuesOf_append_of_absent fun entry member => (others entry member).2.1)
    -- Two members at least are too many for the name of one convention.
    have notName : decodeConvention .null (.object members) = .error .notSingleton := by
      have length := arranged.length_eq
      match members with
      | [] => rfl
      | [_] => simp at length
      | _ :: _ :: _ => rfl
    rw [decodePathNaming, notName]
    simp only [splitConvention?, fileValue, directoryValue, decodeConvention_toJson]
    rfl

theorem isPlain_of_isWritten {naming : PathNaming} {value : Json}
    (written : naming.IsWritten value) : value.IsPlain innerDepth := by
  cases written with
  | uniform convention => exact .string _ _
  | @split file directory members unknown arranged others =>
    refine @Json.IsPlain.object (innerDepth - 1) _ fun entry member => ?_
    rcases List.mem_append.mp (arranged.mem_iff.mp member) with own | other
    · simp only [List.mem_cons, List.not_mem_nil, or_false] at own
      rcases own with rfl | rfl <;> exact .string _ _
    · exact (others entry other).2.2

/-! ### Drafts -/

/-- The draft to which settings have given some of their fields. -/
def Draft.of (settings : Settings) (given : List Field) : Draft where
  outputPath := if .outputPath ∈ given then some settings.outputPath else none
  marker := if .marker ∈ given then some settings.marker else none
  singleFile := if .singleFile ∈ given then some settings.singleFile else none
  memberNaming := if .memberNaming ∈ given then some settings.memberNaming else none
  pathNaming := if .pathNaming ∈ given then some settings.pathNaming else none
  fileSuffix := if .fileSuffix ∈ given then some settings.fileSuffix else none
  sortDeclarations := if .sortDeclarations ∈ given then some settings.sortDeclarations else none

/-- The value is the right one for a field of the settings. -/
def Holds (settings : Settings) : Field → Json → Prop
  | .outputPath, value => value = .string settings.outputPath.text
  | .marker, value => value = .string settings.marker
  | .singleFile, value => value = .boolean settings.singleFile
  | .memberNaming, value => value = settings.memberNaming.toJson
  | .pathNaming, value => settings.pathNaming.IsWritten value
  | .fileSuffix, value => ∃ suffix, settings.fileSuffix = some suffix ∧ value = .string suffix
  | .sortDeclarations, value => value = .boolean settings.sortDeclarations

section Decoding

variable {settings : Settings} {filler : Filler}

theorem Draft.has_of {given : List Field} {field : Field} :
    (Draft.of settings given).has field = true ↔ field ∈ given := by
  cases field <;> simp [Draft.has, Draft.of]

/-- The right value of a field adds the field to those that have been given. -/
theorem Draft.decode_of_holds {given : List Field} {field : Field} {value : Json}
    (holds : settings.Holds field value) :
    (Draft.of settings given).decode filler value field =
      .ok (Draft.of settings (field :: given)) := by
  cases field with
  | outputPath =>
    obtain rfl := holds
    simp [Draft.of, Draft.decode, decodeText]
  | marker =>
    obtain rfl := holds
    simp [Draft.of, Draft.decode, decodeText]
  | singleFile =>
    obtain rfl := holds
    simp [Draft.of, Draft.decode, decodeBoolean]
  | memberNaming =>
    obtain rfl := holds
    simp [Draft.of, Draft.decode, decodeConvention_toJson, Draft.withMemberNaming]
  | pathNaming => simp [Draft.of, Draft.decode, decodePathNaming_of_isWritten holds]
  | fileSuffix =>
    obtain ⟨suffix, there, rfl⟩ := holds
    have decoded : decodeOptionalText (.string suffix) = .ok (some suffix) := rfl
    simp [Draft.of, Draft.decode, decoded, there]
  | sortDeclarations =>
    obtain rfl := holds
    simp [Draft.of, Draft.decode, decodeBoolean]

/-- Only a suffix that is absent need not be given. -/
theorem Draft.finish_of {given : List Field}
    (complete : ∀ field, (field = .fileSuffix → settings.fileSuffix ≠ none) → field ∈ given) :
    (Draft.of settings given).finish = .ok settings := by
  have there (field : Field) (always : field ≠ .fileSuffix) : field ∈ given :=
    complete field fun same => absurd same always
  have suffix : (Draft.of settings given).fileSuffix.getD none = settings.fileSuffix := by
    by_cases given' : .fileSuffix ∈ given
    · simp [Draft.of, given']
    · have absent : settings.fileSuffix = none :=
        by_contra fun present => given' (complete _ fun _ => present)
      simp [Draft.of, given', absent]
  have path : (Draft.of settings given).outputPath = some settings.outputPath :=
    if_pos (there .outputPath nofun)
  have whole : (Draft.of settings given).complete settings.outputPath = settings := by
    simp only [Draft.complete, forOutput, suffix]
    simp [Draft.of, there]
  rw [Draft.finish, path]
  exact congrArg _ whole

/-- The fields that the members name. -/
def knownFields (members : List (List Char × Json)) : List Field :=
  members.filterMap fun entry => Field.ofName? entry.1

/-- Whatever order the members have, they give the fields that they name. -/
theorem foldlM_decodeMember {members : List (List Char × Json)} {given : List Field}
    (holds : ∀ entry ∈ members, ∀ field, Field.ofName? entry.1 = some field →
      settings.Holds field entry.2)
    (once : ((knownFields members).reverse ++ given).Nodup) :
    members.foldlM (decodeMember filler) (Draft.of settings given) =
      .ok (Draft.of settings ((knownFields members).reverse ++ given)) := by
  induction members generalizing given with
  | nil => rfl
  | cons entry rest inductionHypothesis =>
    obtain ⟨holdsFirst, holdsRest⟩ := List.forall_mem_cons.mp holds
    rw [List.foldlM_cons]
    cases known : Field.ofName? entry.1 with
    | none =>
      have passed : decodeMember filler (Draft.of settings given) entry =
          .ok (Draft.of settings given) := by
        rw [decodeMember, known]
      have fields : knownFields (entry :: rest) = knownFields rest :=
        List.filterMap_cons_none known
      rw [fields] at once
      rw [passed, fields]
      exact inductionHypothesis holdsRest once
    | some field =>
      have fields : knownFields (entry :: rest) = field :: knownFields rest :=
        List.filterMap_cons_some known
      rw [fields, List.reverse_cons, List.append_assoc, List.singleton_append] at once
      have fresh : (Draft.of settings given).refuseTwice field = .ok () := by
        refine if_neg fun twice => ?_
        exact (List.nodup_cons.mp (List.nodup_append.mp once).2.1).1 (Draft.has_of.mp twice)
      have added : decodeMember filler (Draft.of settings given) entry =
          .ok (Draft.of settings (field :: given)) := by
        rw [decodeMember, known]
        show ((Draft.of settings given).refuseTwice field).bind _ = _
        rw [fresh]
        exact Draft.decode_of_holds (holdsFirst field known)
      rw [added, fields, List.reverse_cons, List.append_assoc, List.singleton_append]
      exact inductionHypothesis holdsRest once

/-! ### Rearranged members -/

/-- The members give settings: each field that they name has its right value and is named once, and
no field is left out, but for an absent suffix. -/
structure IsGivenBy (settings : Settings) (members : List (List Char × Json)) : Prop where
  holds : ∀ entry ∈ members, ∀ field, Field.ofName? entry.1 = some field →
    settings.Holds field entry.2
  once : (knownFields members).Nodup
  complete : ∀ field, (field = .fileSuffix → settings.fileSuffix ≠ none) →
    field ∈ knownFields members

theorem IsGivenBy.of_perm {members members' : List (List Char × Json)}
    (arranged : members.Perm members') (gives : settings.IsGivenBy members') :
    settings.IsGivenBy members where
  holds entry member := gives.holds entry (arranged.mem_iff.mp member)
  once := (arranged.filterMap _).nodup_iff.mpr gives.once
  complete field given := (arranged.filterMap _).mem_iff.mpr (gives.complete field given)

theorem IsGivenBy.append_unknown {members unknown : List (List Char × Json)}
    (gives : settings.IsGivenBy members)
    (others : ∀ entry ∈ unknown, Field.ofName? entry.1 = none) :
    settings.IsGivenBy (members ++ unknown) := by
  have fields : knownFields (members ++ unknown) = knownFields members := by
    unfold knownFields
    rw [List.filterMap_append, List.filterMap_eq_nil_iff.mpr others, List.append_nil]
  refine ⟨fun entry member field known => ?_, fields ▸ gives.once, fields ▸ gives.complete⟩
  rcases List.mem_append.mp member with own | other
  · exact gives.holds entry own field known
  · rw [others entry other] at known
    cases known

/-- The settings are decoded from members that give them. -/
theorem IsGivenBy.ofMembers_eq {members : List (List Char × Json)}
    (gives : settings.IsGivenBy members) (filler : Filler) :
    ofMembers filler members = .ok settings := by
  have once : ((knownFields members).reverse ++ []).Nodup := by simpa using gives.once
  have decoded : members.foldlM (decodeMember filler) (Draft.of settings []) =
      .ok (Draft.of settings ((knownFields members).reverse ++ [])) :=
    foldlM_decodeMember gives.holds once
  have finished : (Draft.of settings ((knownFields members).reverse ++ [])).finish = .ok settings :=
    Draft.finish_of fun field there =>
      List.mem_append_left [] (List.mem_reverse.mpr (gives.complete field there))
  show (members.foldlM (decodeMember filler) (Draft.of settings [])).bind _ = _
  rw [decoded]
  exact finished

end Decoding

/-- The members with the value of a name replaced. -/
def withValue (name : List Char) (value : Json) (members : List (List Char × Json)) :
    List (List Char × Json) :=
  members.map fun entry => if entry.1 = name then (name, value) else entry

/-- The fields that settings are written with. -/
def writtenFields (settings : Settings) : List Field :=
  Field.all.filter fun field => field ≠ .fileSuffix ∨ settings.fileSuffix ≠ none

section Printing

variable {settings : Settings} {pathNaming : Json}

/-- Every written member has the name of a field and its right value. -/
theorem exists_field_of_mem_toMembers (written : settings.pathNaming.IsWritten pathNaming)
    {entry : List Char × Json}
    (member : entry ∈ withValue Field.pathNaming.name pathNaming settings.toMembers) :
    ∃ field : Field, entry.1 = field.name ∧ settings.Holds field entry.2 := by
  obtain ⟨own, there, rfl⟩ := List.mem_map.mp member
  unfold toMembers at there
  rcases List.mem_append.mp there with early | last
  · rcases List.mem_append.mp early with always | suffix
    · simp only [List.mem_cons, List.not_mem_nil, or_false] at always
      rcases always with rfl | rfl | rfl | rfl | rfl
      · exact ⟨.outputPath, rfl, rfl⟩
      · exact ⟨.marker, rfl, rfl⟩
      · exact ⟨.singleFile, rfl, rfl⟩
      · exact ⟨.memberNaming, rfl, rfl⟩
      · exact ⟨.pathNaming, rfl, written⟩
    · split at suffix
      · next suffix given =>
        obtain rfl := List.mem_singleton.mp suffix
        exact ⟨.fileSuffix, rfl, _, given, rfl⟩
      · exact absurd suffix List.not_mem_nil
  · obtain rfl := List.mem_singleton.mp last
    exact ⟨.sortDeclarations, rfl, rfl⟩

theorem isGivenBy_toMembers (written : settings.pathNaming.IsWritten pathNaming) :
    settings.IsGivenBy (withValue Field.pathNaming.name pathNaming settings.toMembers) := by
  have fields : knownFields (withValue Field.pathNaming.name pathNaming settings.toMembers) =
      settings.writtenFields := by
    unfold toMembers writtenFields
    cases settings.fileSuffix <;> rfl
  refine ⟨fun entry member field known => ?_, ?_, fun field there => ?_⟩
  · obtain ⟨own, named, holds⟩ := exists_field_of_mem_toMembers written member
    rw [named, Field.ofName?_name] at known
    obtain rfl := Option.some.inj known
    exact holds
  · rw [fields]
    exact List.Nodup.filter _ (by decide)
  · rw [fields]
    refine List.mem_filter.mpr ⟨by cases field <;> decide, ?_⟩
    simpa [← imp_iff_not_or] using there

theorem isPlain_of_holds {field : Field} {value : Json} (holds : settings.Holds field value) :
    value.IsPlain innerDepth := by
  cases field with
  | outputPath => exact holds ▸ .string _ _
  | marker => exact holds ▸ .string _ _
  | singleFile => exact holds ▸ .boolean _ _
  | memberNaming => exact holds ▸ .string _ _
  | pathNaming => exact isPlain_of_isWritten holds
  | fileSuffix =>
    obtain ⟨suffix, _, rfl⟩ := holds
    exact .string _ _
  | sortDeclarations => exact holds ▸ .boolean _ _

theorem isPlain_toMembers (written : settings.pathNaming.IsWritten pathNaming)
    {entry : List Char × Json}
    (member : entry ∈ withValue Field.pathNaming.name pathNaming settings.toMembers) :
    entry.2.IsPlain innerDepth := by
  obtain ⟨field, _, holds⟩ := exists_field_of_mem_toMembers written member
  exact isPlain_of_holds holds

theorem withValue_toMembers (settings : Settings) :
    withValue Field.pathNaming.name settings.pathNaming.toJson settings.toMembers =
      settings.toMembers := by
  unfold toMembers
  cases settings.fileSuffix <;> rfl

variable {members unknown : List (List Char × Json)}

/-- The written members give the settings in any order and among others. -/
theorem isGivenBy_of_perm (written : settings.pathNaming.IsWritten pathNaming)
    (arranged : members.Perm
      (withValue Field.pathNaming.name pathNaming settings.toMembers ++ unknown))
    (others : ∀ entry ∈ unknown, Field.ofName? entry.1 = none) :
    settings.IsGivenBy members :=
  ((isGivenBy_toMembers written).append_unknown others).of_perm arranged

/-- So the settings are read from them, as text and as a value. -/
theorem read_of_perm (written : settings.pathNaming.IsWritten pathNaming)
    (arranged : members.Perm
      (withValue Field.pathNaming.name pathNaming settings.toMembers ++ unknown))
    (others : ∀ entry ∈ unknown, Field.ofName? entry.1 = none ∧ entry.2.IsPlain innerDepth) :
    parse (Json.render (.object members)) = .ok settings ∧
      ofJson (.object members) = .ok settings := by
  have gives := isGivenBy_of_perm written arranged fun entry member => (others entry member).1
  have plain : ∀ entry ∈ members, entry.2.IsPlain innerDepth := by
    intro entry member
    rcases List.mem_append.mp (arranged.mem_iff.mp member) with own | other
    · exact isPlain_toMembers written own
    · exact (others entry other).2
  exact ⟨parse_render plain (gives.ofMembers_eq .null), gives.ofMembers_eq .null⟩

end Printing

end Settings

namespace ProjectSettings

open Settings

theorem decodeProjectFiles_toJson (projectFiles : ProjectFiles) :
    decodeProjectFiles projectFiles.toJson = .ok projectFiles := by
  cases projectFiles with
  | one path => rfl
  | many paths =>
    have texts : (paths.map fun path => Json.string path.text).mapM textOf? =
        some (paths.map FilePath.text) := by
      induction paths with
      | nil => rfl
      | cons path rest inductionHypothesis =>
        rw [List.map_cons, List.mapM_cons, inductionHypothesis]
        rfl
    have paths' : (paths.map FilePath.text).map FilePath.mk = paths := by
      rw [List.map_map]
      exact List.map_id paths
    rw [ProjectFiles.toJson, decodeProjectFiles, texts]
    exact congrArg (fun paths => Except.ok (ProjectFiles.many paths)) paths'

theorem isPlain_toJson (projectFiles : ProjectFiles) : projectFiles.toJson.IsPlain innerDepth := by
  cases projectFiles with
  | one path => exact .string _ _
  | many paths =>
    refine @Json.IsPlain.array (innerDepth - 1) _ fun item member => ?_
    obtain ⟨path, _, rfl⟩ := List.mem_map.mp member
    exact .string _ _

/-- No field of the settings themselves has the name of the project files. -/
theorem name_ne_projectFilesName (field : Field) : field.name ≠ projectFilesName := by
  cases field <;> decide

/-- The project files and the settings are told apart by name, in whatever order they come. -/
theorem ofMembers_of_perm {project : ProjectSettings} {pathNaming : Json}
    {members unknown : List (List Char × Json)}
    (written : project.settings.pathNaming.IsWritten pathNaming)
    (arranged : members.Perm ((projectFilesName, project.projectFiles.toJson) ::
      withValue Field.pathNaming.name pathNaming project.settings.toMembers ++ unknown))
    (others : ∀ entry ∈ unknown, entry.1 ≠ projectFilesName ∧ Field.ofName? entry.1 = none) :
    ofMembers members = .ok project := by
  have further : ∀ entry ∈
      withValue Field.pathNaming.name pathNaming project.settings.toMembers ++ unknown,
      entry.1 ≠ projectFilesName := by
    intro entry member
    rcases List.mem_append.mp member with own | other
    · obtain ⟨field, named, _⟩ := exists_field_of_mem_toMembers written own
      exact named ▸ name_ne_projectFilesName field
    · exact (others entry other).1
  have given : valuesOf projectFilesName ([(projectFilesName, project.projectFiles.toJson)] ++
      (withValue Field.pathNaming.name pathNaming project.settings.toMembers ++ unknown)) =
        [project.projectFiles.toJson] :=
    valuesOf_append_of_absent further
  have value : valuesOf projectFilesName members = [project.projectFiles.toJson] :=
    valuesOf_eq_singleton_of_perm arranged given
  have found : projectFilesOf members = .ok (some project.projectFiles) := by
    unfold projectFilesOf
    rw [value]
    show (decodeProjectFiles _).map some = _
    rw [decodeProjectFiles_toJson]
    rfl
  have kept : (withValue Field.pathNaming.name pathNaming project.settings.toMembers ++
      unknown).filter (fun entry => entry.1 != projectFilesName) = _ :=
    List.filter_eq_self.mpr fun entry member => by simpa using further entry member
  have arrangedOthers := arranged.filter fun entry => entry.1 != projectFilesName
  rw [List.cons_append, List.filter_cons_of_neg (by simp), kept] at arrangedOthers
  have gives := isGivenBy_of_perm written arrangedOthers fun entry member => (others entry member).2
  show (projectFilesOf members).bind _ = _
  rw [found]
  show (Settings.ofMembers .nullOrEmpty _).bind _ = _
  rw [gives.ofMembers_eq]
  rfl

theorem read_of_perm {project : ProjectSettings} {pathNaming : Json}
    {members unknown : List (List Char × Json)}
    (written : project.settings.pathNaming.IsWritten pathNaming)
    (arranged : members.Perm ((projectFilesName, project.projectFiles.toJson) ::
      withValue Field.pathNaming.name pathNaming project.settings.toMembers ++ unknown))
    (others : ∀ entry ∈ unknown, entry.1 ≠ projectFilesName ∧ Field.ofName? entry.1 = none ∧
      entry.2.IsPlain innerDepth) : parse (Json.render (.object members)) = .ok project := by
  have plain : ∀ entry ∈ members, entry.2.IsPlain innerDepth := by
    intro entry member
    rcases List.mem_append.mp (arranged.mem_iff.mp member) with own | other
    · rcases List.mem_cons.mp own with rfl | own
      · exact isPlain_toJson _
      · exact isPlain_toMembers written own
    · exact (others entry other).2.2
  exact parse_render plain (ofMembers_of_perm written arranged fun entry member =>
    ⟨(others entry member).1, (others entry member).2.1⟩)

end ProjectSettings

/-! ### The round trip -/

open Settings in
/-- Settings, and project settings, are read from what they are written as. The members of the
written object may be rearranged in any way, and so may those of the conventions for files and
directories; members with names of their own may stand among them, with texts, truth values, `null`,
integers of 64 bits or containers of these as values. -/
theorem Settings.round_trip :
    (∀ settings : Settings, parse (Json.render settings.toJson) = .ok settings) ∧
    (∀ project : ProjectSettings,
      ProjectSettings.parse (Json.render project.toJson) = .ok project) ∧
    (∀ (settings : Settings) (pathNaming : Json) (members unknown : List (List Char × Json)),
      settings.pathNaming.IsWritten pathNaming →
      members.Perm (withValue Field.pathNaming.name pathNaming settings.toMembers ++ unknown) →
      (∀ entry ∈ unknown, Field.ofName? entry.1 = none ∧ entry.2.IsPlain innerDepth) →
      parse (Json.render (.object members)) = .ok settings ∧
        ofJson (.object members) = .ok settings) ∧
    ∀ (project : ProjectSettings) (pathNaming : Json) (members unknown : List (List Char × Json)),
      project.settings.pathNaming.IsWritten pathNaming →
      members.Perm ((ProjectSettings.projectFilesName, project.projectFiles.toJson) ::
        withValue Field.pathNaming.name pathNaming project.settings.toMembers ++ unknown) →
      (∀ entry ∈ unknown, entry.1 ≠ ProjectSettings.projectFilesName ∧
        Field.ofName? entry.1 = none ∧ entry.2.IsPlain innerDepth) →
      ProjectSettings.parse (Json.render (.object members)) = .ok project := by
  refine ⟨fun settings => ?_, fun project => ?_, fun settings pathNaming members unknown => ?_,
    fun project pathNaming members unknown => ?_⟩
  · have same : settings.toMembers.Perm
        (withValue Field.pathNaming.name settings.pathNaming.toJson settings.toMembers ++ []) := by
      rw [withValue_toMembers, List.append_nil]
    exact (read_of_perm settings.pathNaming.isWritten_toJson same nofun).1
  · have same : ((ProjectSettings.projectFilesName, project.projectFiles.toJson) ::
        project.settings.toMembers).Perm
          ((ProjectSettings.projectFilesName, project.projectFiles.toJson) ::
            withValue Field.pathNaming.name project.settings.pathNaming.toJson
              project.settings.toMembers ++ []) := by
      rw [withValue_toMembers, List.append_nil]
    exact ProjectSettings.read_of_perm project.settings.pathNaming.isWritten_toJson same nofun
  · exact read_of_perm
  · exact ProjectSettings.read_of_perm

/-- A list of one project file, two conventions that are the same, and a suffix that is empty. -/
def appProject : ProjectSettings where
  projectFiles := .many [⟨"Ä/App.csproj".toList⟩]
  settings := { Settings.forOutput ⟨"out".toList⟩ with
    pathNaming := .split .kebab .kebab
    fileSuffix := some [] }

/-- Project settings read back from an object in which the order of all members is reversed, with
one more in front. -/
theorem Settings.round_trip_of_reversed :
    let pathNaming := Json.object [("dir".toList, NamingConvention.kebab.toJson),
      ("file".toList, NamingConvention.kebab.toJson)]
    let unknown := [("version".toList, Json.ofInt (-0x8000000000000000))]
    let members := ((ProjectSettings.projectFilesName, appProject.projectFiles.toJson) ::
      withValue Field.pathNaming.name pathNaming appProject.settings.toMembers ++ unknown).reverse
    appProject.settings.pathNaming.IsWritten pathNaming ∧
      (∀ entry ∈ unknown, entry.1 ≠ ProjectSettings.projectFilesName ∧
        Field.ofName? entry.1 = none ∧ entry.2.IsPlain innerDepth) ∧
      ProjectSettings.parse (Json.render (.object members)) = .ok appProject := by
  intro pathNaming unknown members
  have written : appProject.settings.pathNaming.IsWritten pathNaming :=
    @PathNaming.IsWritten.split .kebab .kebab _ [] (List.Perm.swap ..) nofun
  have others : ∀ entry ∈ unknown, entry.1 ≠ ProjectSettings.projectFilesName ∧
      Field.ofName? entry.1 = none ∧ entry.2.IsPlain innerDepth := by
    intro entry member
    obtain rfl := List.mem_singleton.mp member
    exact ⟨by decide, by decide, .integer _ (by decide) (by decide)⟩
  obtain ⟨_, _, _, ofProject⟩ := round_trip
  exact ⟨written, others, ofProject appProject pathNaming members unknown written
    (List.reverse_perm _) others⟩

end SharpTypes

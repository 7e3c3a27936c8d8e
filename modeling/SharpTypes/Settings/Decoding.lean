/-
Settings from values. An object gives fields by name: unknown names are passed over, a name that
comes twice is a fault, and the first fault in the order of the members is the one that counts. A
list gives the fields in their fixed order. Fields that are not given have their usual values; only
the output path has none.
-/

import SharpTypes.Settings.Basic
import SharpTypes.Settings.Field
import SharpTypes.Text.Pieces

namespace SharpTypes.Settings

open Text

/-! ### Single values -/

/-- A text. -/
def decodeText (wanted : List Char) : Json → Except Fault (List Char)
  | .string text => .ok text
  | other => .error (.wrongType other wanted)

/-- A truth value. -/
def decodeBoolean : Json → Except Fault Bool
  | .boolean value => .ok value
  | other => .error (.wrongType other "a boolean".toList)

/-- A text, or nothing. -/
def decodeOptionalText : Json → Except Fault (Option (List Char))
  | .null => .ok none
  | other => (decodeText "a string".toList other).map some

/-- The convention of a name. -/
def decodeConventionName (name : List Char) : Except Fault NamingConvention :=
  match NamingConvention.ofName? name with
  | some convention => .ok convention
  | none => .error (.unknownConvention name)

/-- What may stand beside the name of a convention where the name is the only member of an object.
-/
inductive Filler where
  /-- Nothing but `null`. -/
  | null
  /-- `null` or an object without members. -/
  | nullOrEmpty
  deriving DecidableEq, Repr

/-- Checks what stands beside the name of a convention. -/
def Filler.check : Filler → Json → Except Fault Unit
  | _, .null => .ok ()
  | .nullOrEmpty, .object [] => .ok ()
  | _, other => .error (.wrongType other "unit".toList)

/-- A naming convention: its name, or an object whose only member has that name. -/
def decodeConvention (filler : Filler) : Json → Except Fault NamingConvention
  | .string name => decodeConventionName name
  | .object [(name, value)] => do
    let convention ← decodeConventionName name
    filler.check value
    return convention
  | .object _ => .error .notSingleton
  | other => .error (.wrongType other "string or map".toList)

/-- The values of all members of a name. -/
def valuesOf (name : List Char) (members : List (List Char × Json)) : List Json :=
  (members.filter fun entry => entry.1 == name).map Prod.snd

/-- The convention that is the one value of a name, if there is one. -/
def splitConvention? (name : List Char) (members : List (List Char × Json)) :
    Option NamingConvention :=
  match valuesOf name members with
  | [value] => (decodeConvention .null value).toOption
  | _ => none

/-- The conventions for files and directories: one convention, or an object with one for each. -/
def decodePathNaming (value : Json) : Except Fault PathNaming :=
  match (decodeConvention .null value).toOption with
  | some convention => .ok (.uniform convention)
  | none =>
    match value with
    | .object members =>
      match splitConvention? "file".toList members, splitConvention? "dir".toList members with
      | some file, some directory => .ok (.split file directory)
      | _, _ => .error (.noVariant "PathNaming".toList)
    | _ => .error (.noVariant "PathNaming".toList)

/-- A text, if the value is one. -/
def textOf? : Json → Option (List Char)
  | .string text => some text
  | _ => none

/-- Project files: one path, or a list of paths. -/
def decodeProjectFiles : Json → Except Fault ProjectFiles
  | .string path => .ok (.one ⟨path⟩)
  | .array items =>
    match items.mapM textOf? with
    | some paths => .ok (.many (paths.map FilePath.mk))
    | none => .error (.noVariant "ProjectFiles".toList)
  | _ => .error (.noVariant "ProjectFiles".toList)

/-! ### Drafts -/

/-- Settings of which some fields may not have been given yet. -/
structure Draft where
  outputPath : Option FilePath := none
  marker : Option (List Char) := none
  singleFile : Option Bool := none
  memberNaming : Option NamingConvention := none
  pathNaming : Option PathNaming := none
  fileSuffix : Option (Option (List Char)) := none
  sortDeclarations : Option Bool := none
  deriving DecidableEq, Repr

namespace Draft

/-- Whether a field has been given. -/
def has (draft : Draft) : Field → Bool
  | .outputPath => draft.outputPath.isSome
  | .marker => draft.marker.isSome
  | .singleFile => draft.singleFile.isSome
  | .memberNaming => draft.memberNaming.isSome
  | .pathNaming => draft.pathNaming.isSome
  | .fileSuffix => draft.fileSuffix.isSome
  | .sortDeclarations => draft.sortDeclarations.isSome

/-- The draft with the convention for properties given. -/
def withMemberNaming (draft : Draft) (convention : NamingConvention) : Draft :=
  { draft with memberNaming := some convention }

/-- The draft with a field given by a value. -/
def decode (filler : Filler) (draft : Draft) (value : Json) : Field → Except Fault Draft
  | .outputPath => do
    let path ← decodeText "path string".toList value
    return { draft with outputPath := some ⟨path⟩ }
  | .marker => do return { draft with marker := some (← decodeText "a string".toList value) }
  | .singleFile => do return { draft with singleFile := some (← decodeBoolean value) }
  | .memberNaming => do return draft.withMemberNaming (← decodeConvention filler value)
  | .pathNaming => do return { draft with pathNaming := some (← decodePathNaming value) }
  | .fileSuffix => do return { draft with fileSuffix := some (← decodeOptionalText value) }
  | .sortDeclarations => do return { draft with sortDeclarations := some (← decodeBoolean value) }

/-- Refuses a field that has been given. -/
def refuseTwice (draft : Draft) (field : Field) : Except Fault Unit :=
  if draft.has field then .error (.duplicate field.name) else .ok ()

/-- The settings of a draft for an output directory. -/
def complete (draft : Draft) (outputPath : FilePath) : Settings :=
  let usual := forOutput outputPath
  { outputPath := outputPath
    marker := draft.marker.getD usual.marker
    singleFile := draft.singleFile.getD usual.singleFile
    memberNaming := draft.memberNaming.getD usual.memberNaming
    pathNaming := draft.pathNaming.getD usual.pathNaming
    fileSuffix := draft.fileSuffix.getD usual.fileSuffix
    sortDeclarations := draft.sortDeclarations.getD usual.sortDeclarations }

/-- The settings of a draft that gives the output path. -/
def finish (draft : Draft) : Except Fault Settings :=
  match draft.outputPath with
  | some path => .ok (draft.complete path)
  | none => .error (.missing Field.outputPath.name)

end Draft

/-! ### Whole settings -/

/-- The draft with one more member read. -/
def decodeMember (filler : Filler) (draft : Draft) (member : List Char × Json) :
    Except Fault Draft :=
  match Field.ofName? member.1 with
  | none => .ok draft
  | some field => do
    draft.refuseTwice field
    draft.decode filler member.2 field

/-- Settings from the members of an object. -/
def ofMembers (filler : Filler) (members : List (List Char × Json)) : Except Fault Settings := do
  (← members.foldlM (decodeMember filler) {}).finish

/-- The draft that a list of values gives for a list of fields. -/
def decodeItems (filler : Filler) (draft : Draft) : List Field → List Json → Except Fault Draft
  | field :: fields, value :: values => do
    decodeItems filler (← draft.decode filler value field) fields values
  | _, _ => .ok draft

/-- Settings from the values of a list. -/
def ofItems (filler : Filler) (items : List Json) : Except Fault Settings := do
  let draft ← decodeItems filler {} Field.all items
  match draft.outputPath with
  | none => .error (.tooShort 0)
  | some path =>
    if Field.all.length < items.length then .error (.tooLong items.length)
    else .ok (draft.complete path)

/-- Settings from a value. -/
def ofJson : Json → Except Fault Settings
  | .object members => ofMembers .null members
  | .array items => ofItems .null items
  | other => .error (.wrongType other "struct CodegenConfig".toList)

end SharpTypes.Settings

namespace SharpTypes.ProjectSettings

open Settings

/-- The name of the field with the project files. -/
def projectFilesName : List Char :=
  "projectFiles".toList

/-- Project settings from their project files, if given, and all other members. The project files
are looked at first. -/
def ofParts (projectFiles : Option ProjectFiles) (members : List (List Char × Json)) :
    Except Fault ProjectSettings :=
  match projectFiles with
  | none => .error (.missing projectFilesName)
  | some projectFiles => do return ⟨projectFiles, ← ofMembers .nullOrEmpty members⟩

/-- The project files among the members of an object, of which there is at most one. -/
def projectFilesOf (members : List (List Char × Json)) : Except Fault (Option ProjectFiles) :=
  match valuesOf projectFilesName members with
  | [] => .ok none
  | [value] => (decodeProjectFiles value).map some
  | value :: _ => do
    let _ ← decodeProjectFiles value
    .error (.duplicate projectFilesName)

/-- Project settings from the members of an object. -/
def ofMembers (members : List (List Char × Json)) : Except Fault ProjectSettings := do
  ofParts (← projectFilesOf members) (members.filter fun entry => entry.1 != projectFilesName)

end SharpTypes.ProjectSettings

/-
Finding and loading the settings that a command works with. A path that is given is taken as it is;
otherwise the first settings file of the current directory counts. Relative paths in a settings file
are seen from its directory. Settings are only used if they are valid and all project files are
there.
-/

import SharpTypes.Command.Failure

namespace SharpTypes.Command

/-- The settings file to use. -/
def locate (place : Workplace) (directory : FilePath) (given : Option FilePath) :
    Except Failure FilePath :=
  match given with
  | some path => .ok path
  | none =>
    let candidates := SettingsFormat.all.map fun format => directory.child format.fileName
    match candidates.find? place.hasFile with
    | some path => .ok path
    | none => .error (.noSettings directory)

/-- The settings in a file. -/
def readSettings (place : Workplace) (path : FilePath) : Except Failure ProjectSettings :=
  match place.read path with
  | .error _ => .error (.unreadableSettings path)
  | .ok text =>
    match (SettingsFormat.ofPath path).parse? text with
    | none => .error (.invalidSettings path)
    | some project =>
      match path.parent? with
      | some directory => .ok (project.relocate directory)
      | none => .ok project

/-- The extension of project files. -/
def projectExtension : List Char := "csproj".toList

/-- Checks that a path leads to a project file. -/
def checkProject (place : Workplace) (path : FilePath) : Except Failure Unit :=
  if !place.isThere path then .error (.projectNotFound path)
  else if !place.hasFile path then .error (.projectNotFile path)
  else if path.extension? ≠ some projectExtension then .error (.projectNamedOtherwise path)
  else .ok ()

/-- Checks that settings can be used. -/
def validate (place : Workplace) (project : ProjectSettings) : Except Failure Unit :=
  match project.settings.problem? with
  | some problem => .error (.unusableSettings problem)
  | none =>
    if project.projectFiles.paths.isEmpty then .error .noProjects
    else project.projectFiles.paths.forM (checkProject place)

/-- The settings to use, and the path of their file. -/
def load (place : Workplace) (given : Option FilePath) :
    Except Failure (FilePath × ProjectSettings) := do
  let path ← locate place place.currentPath given
  let project ← readSettings place path
  validate place project
  return (path, project)

end SharpTypes.Command

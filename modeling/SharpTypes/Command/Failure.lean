/-
Why a command fails. Every failure has one line of text, which names the paths it is about.
-/

import SharpTypes.FileTree.Access
import SharpTypes.Output.Unit
import SharpTypes.Settings.Format

namespace SharpTypes.Command

open Text

/-- Why a command fails. -/
inductive Failure where
  /-- No settings file is found in the directory. -/
  | noSettings (directory : FilePath)
  | unreadableSettings (path : FilePath)
  | invalidSettings (path : FilePath)
  | unusableSettings (problem : Settings.Problem)
  | noProjects
  | projectNotFound (path : FilePath)
  | projectNotFile (path : FilePath)
  /-- The name of the project file does not end as it should. -/
  | projectNamedOtherwise (path : FilePath)
  | unreadableSource (path : FilePath) (error : FileError)
  | collision (found : SharpTypes.Collision)
  /-- The directory for all output cannot be made. -/
  | noOutputDirectory (path : FilePath)
  | noDirectory (path : FilePath)
  | unwritable (path : FilePath)
  deriving DecidableEq, Repr

/-- The failure, in words. -/
def Failure.message : Failure → List Char
  | .noSettings directory =>
    "No configuration file found in ".toList ++ directory.text ++ " (expected ".toList ++
      join " or ".toList (SettingsFormat.all.map SettingsFormat.fileName) ++
      "); run `cs2ts init` to create one".toList
  | .unreadableSettings path => "Failed to read config: ".toList ++ path.text
  | .invalidSettings path => "Invalid config: ".toList ++ path.text
  | .unusableSettings problem => problem.message
  | .noProjects => "projectFiles must name at least one .csproj file".toList
  | .projectNotFound path => "Project file not found: ".toList ++ path.text
  | .projectNotFile path => "Project path is not a file: ".toList ++ path.text
  | .projectNamedOtherwise path => "Project file must be a .csproj file: ".toList ++ path.text
  | .unreadableSource path error =>
    "failed to read ".toList ++ path.text ++ ": ".toList ++ error.message
  | .collision found => found.message
  | .noOutputDirectory path => "Failed to create output directory: ".toList ++ path.text
  | .noDirectory path => "Failed to create directory: ".toList ++ path.text
  | .unwritable path => "Failed to write ".toList ++ path.text

end SharpTypes.Command

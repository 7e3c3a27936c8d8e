/-
Writing a sample of a settings file into the current directory, unless there is something of that
name.
-/

import SharpTypes.Command.Outcome

namespace SharpTypes.Command

/-- Writes a sample settings file. -/
def init (place : Workplace) (format : SettingsFormat) : Outcome :=
  let path := place.currentPath.child format.fileName
  if place.isThere path then
    .printed place.tree [format.fileName ++ " already exists, leaving it unchanged".toList]
  else
    match place.write path format.sample with
    | .error _ => .failed place.tree (.unwritable path)
    | .ok tree =>
      .printed tree
        ["Created ".toList ++ path.text, [],
          "Edit projectFiles and outputPath, then run `cs2ts generate`.".toList]

end SharpTypes.Command

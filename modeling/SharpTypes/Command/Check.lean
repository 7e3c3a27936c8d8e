/-
Checking settings without using them.
-/

import SharpTypes.Command.Loading
import SharpTypes.Command.Outcome

namespace SharpTypes.Command

/-- The lines that are printed about valid settings. -/
def summary (path : FilePath) (project : ProjectSettings) : List (List Char) :=
  ["Checking config: ".toList ++ path.text] ++
    (project.projectFiles.paths.map fun file => "✓ Project: ".toList ++ file.text) ++
    ["✓ Output: ".toList ++ project.settings.outputPath.text,
      "✓ Marker: [".toList ++ project.settings.marker ++ [']'],
      "✓ Mode: ".toList ++
        (if project.settings.singleFile then "single file".toList
          else "one file per source".toList),
      [],
      "Configuration is valid!".toList]

/-- Checks the settings. -/
def check (place : Workplace) (given : Option FilePath) : Outcome :=
  match load place given with
  | .error failure => .failed place.tree failure
  | .ok (path, project) => .printed place.tree (summary path project)

end SharpTypes.Command

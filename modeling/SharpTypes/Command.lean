/-
The program as a function: from a tree of files, the arguments and the time to what is printed, the
files afterwards and the exit status. The status is 0 if all went well, 1 after a failure, and 2 if
the arguments cannot be understood.
-/

import SharpTypes.Command.Arguments
import SharpTypes.Command.Check
import SharpTypes.Command.Generate
import SharpTypes.Command.Init

namespace SharpTypes.Command

/-- The program's name and version. -/
def versionText : List Char :=
  "cs2ts 0.3.0\n".toList

/-- How the program is used. -/
def helpText : List Char :=
  "Generate TypeScript types from annotated C# models

Usage: cs2ts [OPTIONS] [COMMAND]

Commands:
  generate  Generate TypeScript files from the configured projects
  init      Create a sample configuration file in the current directory
  check     Validate a configuration file without generating
  help      Print this message or the help of the given subcommand(s)

Options:
      --log-level <LOG_LEVEL>  Log verbosity [possible values: trace, debug, info, warn, error, off]
  -h, --help                   Print help
  -V, --version                Print version
".toList

/-- What a run of the program comes to. -/
structure Report where
  tree : FileTree
  output : List Char
  events : List Event
  /-- Why it failed, in words. -/
  error : Option (List Char)
  status : Nat

namespace Report

/-- A run that changes nothing. -/
def idle (tree : FileTree) (output : List Char) (status : Nat) : Report :=
  ⟨tree, output, [], none, status⟩

/-- The report on what came of a task. -/
def ofOutcome (outcome : Outcome) : Report where
  tree := outcome.tree
  output := outcome.output
  events := outcome.events
  error := outcome.failure.map Failure.message
  status := if outcome.failure.isSome then 1 else 0

end Report

/-- What comes of a task. -/
def perform (place : Workplace) (time : Timestamp) : Task → Outcome
  | .generate settings => generate place time settings
  | .init format => init place format
  | .check settings => check place settings

/-- Runs the program. -/
def run (place : Workplace) (time : Timestamp) (arguments : List (List Char)) : Report :=
  match Arguments.parse arguments with
  | .version => .idle place.tree versionText 0
  | .help => .idle place.tree helpText 0
  | .misuse => .idle place.tree [] 2
  | .task task _ => .ofOutcome (perform place time task)

end SharpTypes.Command

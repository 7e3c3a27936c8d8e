/-
What comes of a command: the files afterwards, the lines it prints, what is worth a note, and why it
failed if it did. Lines that were printed and files that were written before a failure stay.
-/

import SharpTypes.Command.Failure

namespace SharpTypes.Command

/-- What comes of a command. -/
structure Outcome where
  tree : FileTree
  lines : List (List Char)
  events : List Event
  failure : Option Failure

namespace Outcome

/-- What is printed. -/
def output (outcome : Outcome) : List Char :=
  outcome.lines.flatMap (· ++ ['\n'])

/-- The command fails at once. -/
def failed (tree : FileTree) (failure : Failure) : Outcome :=
  ⟨tree, [], [], some failure⟩

/-- The command changes nothing and prints lines. -/
def printed (tree : FileTree) (lines : List (List Char)) : Outcome :=
  ⟨tree, lines, [], none⟩

end Outcome

end SharpTypes.Command

/-
Text in double quotes, as it is shown in messages. What a reader could not see on the page is
written as an escape: control and format characters, unassigned code points, spaces other than the
plain one, and marks that would merge with the character before them.
-/

import SharpTypes.Text.Mark
import SharpTypes.Text.Unprintable

namespace SharpTypes.Text

/-- A character as it is shown inside double quotes. -/
def showCharacter (c : Char) : List Char :=
  match c with
  | '\x00' => "\\0".toList
  | '\t' => "\\t".toList
  | '\r' => "\\r".toList
  | '\n' => "\\n".toList
  | '\\' => "\\\\".toList
  | '"' => "\\\"".toList
  | _ =>
    if Run.cover graphemeExtenders c.toNat || Run.cover unprintable c.toNat then
      "\\u\x7b".toList ++ Nat.toDigits 16 c.toNat ++ ['}']
    else [c]

/-- A text in double quotes. -/
def showQuoted (text : List Char) : List Char :=
  '"' :: text.flatMap showCharacter ++ ['"']

end SharpTypes.Text

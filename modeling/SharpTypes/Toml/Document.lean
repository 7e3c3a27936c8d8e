/-
TOML documents. The tokens of a document are taken one by one, and each either fits or makes the
document malformed. A value that has not ended yet is kept as the row of the parts that are open,
the innermost first; at the bottom of the row is the key of the line. A line break ends a line, but
inside brackets and braces it is a blank.
-/

import SharpTypes.Toml.Scalar
import SharpTypes.Toml.Table
import SharpTypes.Toml.Token

namespace SharpTypes.Toml

/-- A part of a value that has begun. -/
inductive Frame where
  /-- A key that waits for its value. -/
  | pair (names : List (List Char))
  /-- A list with its items, the latest first. -/
  | array (items : List Json)
  /-- A table in braces. -/
  | table (entries : Entries)

/-- What a key is for. -/
inductive KeyRole where
  /-- To be given a value, inside the parts that are open. -/
  | pair (frames : List Frame)
  /-- To name a table. -/
  | table
  /-- To name one more of a row of tables. -/
  | nextTable

/-- What may come next. -/
inductive Phase where
  /-- A new line. -/
  | lineStart
  /-- The end of the line. -/
  | lineEnd
  /-- What follows the first bracket of a line. -/
  | headerStart
  /-- The second bracket that closes a header. -/
  | headerEnd (names : List (List Char))
  /-- The next name of a key. Names are listed with the latest first. -/
  | name (role : KeyRole) (names : List (List Char))
  /-- What follows a name of a key. -/
  | afterName (role : KeyRole) (names : List (List Char))
  /-- A key or the end of the innermost part, a table. -/
  | member (entries : Entries) (frames : List Frame)
  /-- A value, or the end of the innermost part if that is a list. -/
  | value (frames : List Frame)
  /-- More of a word that is a value. -/
  | word (frames : List Frame) (text : List Char)
  /-- What follows a value in a list or in a table. -/
  | next (frames : List Frame)

/-- A document of which a part has been read. -/
structure Document where
  /-- The outermost table. -/
  entries : Entries
  /-- The names of the table whose section it is. -/
  path : List (List Char)
  phase : Phase

namespace Document

/-- The document before its first token. -/
def start : Document :=
  ⟨[], [], .lineStart⟩

/-- The document with other expectations. -/
def expect (document : Document) (phase : Phase) : Option Document :=
  some { document with phase := phase }

/-- The greatest depth to which lists and tables in braces nest. -/
def greatestDepth : Nat := 79

/-- Whether a part is a list or a table. -/
def isContainer : Frame → Bool
  | .pair _ => false
  | _ => true

/-- Begins a list or a table inside the parts that are open. -/
def begin (document : Document) (frames : List Frame) (phase : Phase) : Option Document :=
  if frames.countP isContainer < greatestDepth then document.expect phase else none

/-- A value is done. -/
def finish (document : Document) (value : Json) : List Frame → Option Document
  | [.pair names] => do
    let entries ← changeAt false (define names value) document.path .header document.entries
    return { document with entries := entries, phase := .lineEnd }
  | .pair names :: .table entries :: frames => do
    document.expect (.next (.table (← define names value .header entries) :: frames))
  | .array items :: frames => document.expect (.next (.array (value :: items) :: frames))
  | _ => none

/-- Begins the section of a header. -/
def enter (document : Document) (change : List (List Char) → Change) (names : List (List Char)) :
    Option Document := do
  let entries ← change names .header document.entries
  return { entries := entries, path := names, phase := .lineEnd }

/-- A bare name. -/
def bareName? (text : List Char) : Option (List Char) :=
  let isBare (c : Char) : Bool :=
    Text.isDigit c || ('a' ≤ c && c ≤ 'z') || ('A' ≤ c && c ≤ 'Z') || c == '_' || c == '-'
  if text.all isBare then some text else none

/-- The name that a token is. -/
def nameOf? : Token → Option (List Char)
  | .word text => bareName? text
  | .string text => some text
  | _ => none

/-- A name is read, after others of the same key. -/
def named (document : Document) (role : KeyRole) (names : List (List Char)) (token : Token) :
    Option Document := do
  document.expect (.afterName role ((← nameOf? token) :: names))

/-! ### One token at a time -/

/-- The token after a name. -/
def stepAfterName (document : Document) (names : List (List Char)) :
    KeyRole → Token → Option Document
  | role, .blank => document.expect (.afterName role names)
  | role, .dot => document.expect (.name role names)
  | .pair frames, .equals => document.expect (.value (.pair names.reverse :: frames))
  | .table, .endBracket => document.enter openTable names.reverse
  | .nextTable, .endBracket => document.expect (.headerEnd names.reverse)
  | _, _ => none

/-- The token where a value may begin. -/
def stepValue (document : Document) : List Frame → Token → Option Document
  | frames, .blank => document.expect (.value frames)
  | .array items :: frames, .newline => document.expect (.value (.array items :: frames))
  | .array items :: frames, .endBracket => document.finish (.array items.reverse) frames
  | frames, .string text => document.finish (.string text) frames
  | frames, .paragraph text => document.finish (.string text) frames
  | frames, .beginBracket => document.begin frames (.value (.array [] :: frames))
  | frames, .beginBrace => document.begin frames (.member [] frames)
  | frames, .word text => document.expect (.word frames text)
  | _, _ => none

/-- The token after a value, of a line or of what it is in. -/
def stepNext (document : Document) : Phase → Token → Option Document
  | .lineEnd, .blank => some document
  | .lineEnd, .newline => document.expect .lineStart
  | .next _, .blank => some document
  | .next _, .newline => some document
  | .next (.array items :: frames), .comma => document.expect (.value (.array items :: frames))
  | .next (.array items :: frames), .endBracket => document.finish (.array items.reverse) frames
  | .next (.table entries :: frames), .comma => document.expect (.member entries frames)
  | .next (.table entries :: frames), .endBrace =>
    document.finish (.object (entriesToMembers entries)) frames
  | _, _ => none

/-- The document with one more token. -/
def step (document : Document) (token : Token) : Option Document :=
  match document.phase, token with
  | .lineStart, .blank => some document
  | .lineStart, .newline => some document
  | .lineStart, .beginBracket => document.expect .headerStart
  | .lineStart, _ => document.named (.pair []) [] token
  | .headerStart, .beginBracket => document.expect (.name .nextTable [])
  | .headerStart, .blank => document.expect (.name .table [])
  | .headerStart, _ => document.named .table [] token
  | .headerEnd names, .endBracket => document.enter openNext names
  | .headerEnd _, _ => none
  | .name _ _, .blank => some document
  | .name role names, _ => document.named role names token
  | .afterName role names, _ => document.stepAfterName names role token
  | .member _ _, .blank => some document
  | .member _ _, .newline => some document
  | .member entries frames, .endBrace => document.finish (.object (entriesToMembers entries)) frames
  | .member entries frames, _ => document.named (.pair (.table entries :: frames)) [] token
  | .value frames, _ => document.stepValue frames token
  | .word frames text, .word more => document.expect (.word frames (text ++ more))
  | .word frames text, .dot => document.expect (.word frames (text ++ ['.']))
  | .word frames text, _ => do
    let done ← document.finish (← scalar? text) frames
    done.stepNext done.phase token
  | phase, _ => document.stepNext phase token

/-- The members of the object that a finished document is. -/
def toMembers? (document : Document) : Option (List (List Char × Json)) :=
  match document.phase with
  | .lineStart => some (entriesToMembers document.entries)
  | _ => none

/-- The mark that some programs put in front of a text. -/
def byteOrderMark : Char := '\uFEFF'

/-- The members of the object that a text holds. A line break at its end does not matter. -/
def parse? (text : List Char) : Option (List (List Char × Json)) := do
  let text := if text.head? = some byteOrderMark then text.tail else text
  let document ← (tokens text ++ [Token.newline]).foldlM step start
  document.toMembers?

end Document

end SharpTypes.Toml

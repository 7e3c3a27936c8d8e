/-
Naming conventions. An identifier is cut into words at its separators and at its capitals, and the
words are put together again as the convention asks. The same conventions name properties, files and
directories.
-/

import SharpTypes.Text.CaseMap
import SharpTypes.Text.Pieces

namespace SharpTypes

open Text

/-- How the words of a name are written together. -/
inductive NamingConvention where
  /-- `orderLine` -/
  | camel
  /-- `OrderLine` -/
  | pascal
  /-- `order_line` -/
  | snake
  /-- `order-line` -/
  | kebab
  deriving DecidableEq, Repr

namespace Naming

/-- Whether the character separates words and belongs to none. -/
def isSeparator (c : Char) : Bool :=
  c == '_' || c == '-' || c == '.' || isBlank c

/-- Whether the text goes on with a lower-case character. -/
def startsLower : List Char → Bool
  | [] => false
  | c :: _ => isLower c

/-- Whether a new word starts at `next`, which follows `previous` and is followed by `later`: at a
capital after a lower-case character or a digit, and at the last capital of a row of them if a
lower-case character follows. -/
def startsWord (previous next : Char) (later : List Char) : Bool :=
  isUpper next &&
    (isLower previous || isDigit previous || (isUpper previous && startsLower later))

/-- The words of an identifier. -/
def words : List Char → List (List Char)
  | [] => []
  | c :: rest =>
    if isSeparator c then words rest
    else
      match rest with
      | [] => [[c]]
      | next :: later =>
        if isSeparator next || startsWord c next later then [c] :: words rest
        else (words rest).modifyHead (c :: ·)

/-- The words one after the other, each with a capital. -/
def pascal (name : List Char) : List Char :=
  (words name).flatMap capitalize

/-- The words one after the other, each but the first with a capital. -/
def camel (name : List Char) : List Char :=
  uncapitalize (pascal name)

/-- The words in lower case with a separator between them. -/
def separated (separator : Char) (name : List Char) : List Char :=
  join [separator] ((words name).map lowercase)

/-- The words in lower case, joined by `_`. -/
def snake (name : List Char) : List Char :=
  separated '_' name

/-- The words in lower case, joined by `-`. -/
def kebab (name : List Char) : List Char :=
  separated '-' name

end Naming

namespace NamingConvention

/-- The name in this convention. -/
def apply : NamingConvention → List Char → List Char
  | .camel => Naming.camel
  | .pascal => Naming.pascal
  | .snake => Naming.snake
  | .kebab => Naming.kebab

/-- The conventions, in the order in which they are listed to the reader. -/
def all : List NamingConvention :=
  [.camel, .pascal, .snake, .kebab]

/-- The name of a convention. -/
def name : NamingConvention → List Char
  | .camel => "camel".toList
  | .pascal => "pascal".toList
  | .snake => "snake".toList
  | .kebab => "kebab".toList

/-- The convention of a name. -/
def ofName? (text : List Char) : Option NamingConvention :=
  all.find? fun convention => convention.name == text

theorem ofName?_name (convention : NamingConvention) :
    ofName? convention.name = some convention := by
  cases convention <;> decide

end NamingConvention

end SharpTypes

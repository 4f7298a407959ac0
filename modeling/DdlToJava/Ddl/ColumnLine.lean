import DdlToJava.Text.Case
import DdlToJava.Text.Digit
import DdlToJava.Text.Keyword
import DdlToJava.Text.Word

/-!
# The line of a column

A column line is a name, white space, a type and perhaps a size in parentheses: a precision,
perhaps a comma and a scale, perhaps `BYTE` or `CHAR` after white space.  What does not fit this
form is no size, and the line ends for the reader behind the type.  A line that starts with one of
`clauseKeywords` belongs to another clause.
-/

namespace DdlToJava.Ddl

open Text

/-- the digits of a size as they are written; `scale` is empty when there is none -/
structure SizeText where
  precision : List Char := []
  scale : List Char := []
  deriving DecidableEq, Repr

/-- a column line: its name, type and size, and the text after them -/
structure ColumnLine where
  name : String
  typeName : String
  size : SizeText
  rest : List Char
  deriving DecidableEq, Repr

namespace SizeText

/-- the scale behind a comma, with the white space around it -/
def scale? (cs : List Char) : Option (List Char × List Char) := do
  let cs ← symbol? ',' cs
  let (digits, cs) ← run? isDigit (trimStart cs)
  some (digits, cs)

/-- what follows the unit of a length and its white space, if there is one -/
def skipUnit (cs : List Char) : List Char :=
  match blanks? cs with
  | none => cs
  | some rest =>
    match (keyword? "byte".toList rest).or (keyword? "char".toList rest) with
    | some rest => trimStart rest
    | none => rest

/-- a size in parentheses at the front, and what follows it -/
def read? (cs : List Char) : Option (SizeText × List Char) := do
  let cs ← symbol? '(' (trimStart cs)
  let (precision, cs) ← run? isDigit (trimStart cs)
  match scale? (trimStart cs) with
  | some (scale, cs) =>
    let cs ← symbol? ')' (skipUnit cs)
    some (⟨precision, scale⟩, cs)
  | none =>
    let cs ← symbol? ')' (skipUnit cs)
    some (⟨precision, []⟩, cs)

end SizeText

namespace ColumnLine

/-- the words that open a clause other than a column -/
def clauseKeywords : List String :=
  ["CONSTRAINT", "CREATE", "KEY", "PRIMARY", "UNIQUE", "FOREIGN", "CHECK", "INDEX",
    "REFERENCES", "USING", "TABLESPACE"]

/-- is the word one that opens a clause, in any case? -/
def isClauseKeyword (word : List Char) : Bool :=
  clauseKeywords.any fun k => k.toList = upper word

/-- does the line hold something other than a column, to judge by its front? -/
def isForeign (line : List Char) : Bool :=
  line.isEmpty || "--".toList.isPrefixOf line || isClauseKeyword (line.takeWhile isWord)

/-- the column on a line -/
def read? (cs : List Char) : Option ColumnLine := do
  let (name, cs) ← word? cs
  let cs ← blanks? cs
  let (typeName, cs) ← word? cs
  match SizeText.read? cs with
  | some (size, rest) => some ⟨String.ofList name, String.ofList typeName, size, rest⟩
  | none => some ⟨String.ofList name, String.ofList typeName, {}, cs⟩

/-- the column on a line of the body -/
def ofLine? (line : List Char) : Option ColumnLine := if isForeign line then none else read? line

theorem ofLine?_nil : ofLine? [] = none := rfl

end ColumnLine

end DdlToJava.Ddl

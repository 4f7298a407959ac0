import DdlToJava.Text.Keyword
import DdlToJava.Text.Pieces
import DdlToJava.Text.Word

/-!
# Primary keys

The key columns of a table are the names in the first `PRIMARY KEY (…)` of the text.  A column can
also be marked on its own line, by a `PRIMARY KEY` that no parenthesis follows.
-/

namespace DdlToJava.Ddl

open Text

/-- what follows `PRIMARY KEY` -/
def primaryKey? (cs : List Char) : Option (List Char) := do
  let cs ← keyword? "primary".toList cs
  let cs ← blanks? cs
  keyword? "key".toList cs

/-! ## the clause of the table -/

/-- the text between the parentheses of a key clause, which is not empty -/
def keyListAt? (cs : List Char) : Option (List Char) := do
  let cs ← primaryKey? cs
  let cs ← symbol? '(' (trimStart cs)
  let (names, cs) ← run? (· ≠ ')') cs
  let _ ← symbol? ')' cs
  some names

/-- the names of a list with commas, trimmed, without the empty ones -/
def keyNames (cs : List Char) : List String :=
  (((pieces ',' cs).map trim).filter (· ≠ [])).map String.ofList

/-- the key columns that a text names in its first key clause -/
def tableKey (cs : List Char) : List String :=
  match findFirst? keyListAt? cs with
  | some names => keyNames names
  | none => []

/-! ## the mark of a column -/

/-- is there a whole-word `PRIMARY KEY` at the front, without a list in parentheses? -/
def keyMarkAt (cs : List Char) : Bool :=
  match primaryKey? cs with
  | some rest => !(rest.head?.any isWord) && (trimStart rest).head? != some '('
  | none => false

/-- does a whole-word `PRIMARY KEY` without a list stand in the text?  `inWord` says whether a word
character stands before it. -/
def hasKeyMark (inWord : Bool) : List Char → Bool
  | [] => false
  | c :: cs => (!inWord && keyMarkAt (c :: cs)) || hasKeyMark (isWord c) cs

theorem hasKeyMark_nil (inWord : Bool) : hasKeyMark inWord [] = false := rfl

end DdlToJava.Ddl

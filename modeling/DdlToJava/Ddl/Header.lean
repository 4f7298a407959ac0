import DdlToJava.Text.Keyword
import DdlToJava.Text.Word

/-!
# The header of a statement

`CREATE TABLE`, perhaps `IF NOT EXISTS`, and the name of the table with or without its schema.  A
header with a schema counts before one without, wherever the two stand in the text.  Where
`IF NOT EXISTS` is not followed by a name, `IF` itself is taken for one.
-/

namespace DdlToJava.Ddl

open Text

/-- the schema of a table that is named without one -/
def defaultSchema : String := "dbo"

/-- the name of a table that the text does not name -/
def unknownTable : String := "Unknown"

/-- the full name of a table -/
structure TableName where
  schema : String := defaultSchema
  name : String := unknownTable
  deriving DecidableEq, Repr

namespace TableName

/-- what follows `CREATE TABLE` and its white space -/
def createTable? (cs : List Char) : Option (List Char) := do
  let cs ← keyword? "create".toList cs
  let cs ← blanks? cs
  let cs ← keyword? "table".toList cs
  blanks? cs

/-- what follows `IF NOT EXISTS` and its white space -/
def ifNotExists? (cs : List Char) : Option (List Char) := do
  let cs ← keyword? "if".toList cs
  let cs ← blanks? cs
  let cs ← keyword? "not".toList cs
  let cs ← blanks? cs
  let cs ← keyword? "exists".toList cs
  blanks? cs

/-- a schema, a point and a table -/
def dotted? (cs : List Char) : Option TableName := do
  let (schema, cs) ← word? cs
  let cs ← symbol? '.' cs
  let (name, _) ← word? cs
  some ⟨String.ofList schema, String.ofList name⟩

/-- a table alone -/
def plain? (cs : List Char) : Option TableName := do
  let (name, _) ← word? cs
  some { name := String.ofList name }

/-- the header at the front of a text, its name read by `read` -/
def headerAt? (read : List Char → Option TableName) (cs : List Char) : Option TableName := do
  let cs ← createTable? cs
  ((ifNotExists? cs).bind read).or (read cs)

/-- the table that a text declares -/
def ofText (cs : List Char) : TableName :=
  ((findFirst? (headerAt? dotted?) cs).or (findFirst? (headerAt? plain?) cs)).getD {}

end TableName

end DdlToJava.Ddl

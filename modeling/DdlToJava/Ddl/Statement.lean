import DdlToJava.Ddl.Header
import DdlToJava.Ddl.KeyClause
import DdlToJava.Ddl.Body
import DdlToJava.Ddl.ColumnLine
import DdlToJava.Table
import DdlToJava.Identifier
import DdlToJava.JavaType

/-!
# From a statement to a table

`Table.ofDdl` reads the header, the key clause and the body of a statement.  Double quotes are
dropped first.  A column that is declared again keeps its first declaration, and its name is
listed as a duplicate.  The only faults are sizes that are too long to be read or written; the
first line with one decides.
-/

namespace DdlToJava

open Text Ddl

/-- why a statement cannot be read -/
inductive DdlError where
  /-- a size with more digits than are read -/
  | longNumber (digits : Nat)
  | size (error : JavaTypeError)
  | name (error : IdentifierError)
  deriving DecidableEq, Repr

namespace Ddl

/-- how many digits of a size are read -/
def digitLimit : Nat := 4300

end Ddl

/-- the text of the fault that a statement has -/
def DdlError.message : DdlError → String
  | .longNumber n =>
    "Exceeds the limit (" ++ toString digitLimit
      ++ " digits) for integer string conversion: value has " ++ toString n
      ++ " digits; use sys.set_int_max_str_digits() to increase the limit"
  | .size e => e.message
  | .name e => e.message

namespace Ddl

/-- the number that a part of a size stands for -/
def readSize (digits : List Char) : Except DdlError Int :=
  if digits.length > digitLimit then .error (.longNumber digits.length)
  else .ok (natOfDigits digits)

/-- the column that a line declares -/
def column (rules : Rules) (line : ColumnLine) (isKey : Bool) : Except DdlError Column := do
  let precision ← readSize line.size.precision
  let scale ← readSize line.size.scale
  let type ← (rules.types.javaType line.typeName precision scale).mapError .size
  let field ← (rules.naming.fieldName line.name).mapError .name
  .ok {
    name := line.name
    fieldName := field
    accessor := accessorName field
    targetType := type.name
    constraint := type.constraint
    isKey := isKey }

/-- the first line of every name, and the names of the other lines; `seen` are the names of the
lines before -/
def splitRepeated (seen : List String) : List ColumnLine → List ColumnLine × List String
  | [] => ([], [])
  | l :: ls =>
    if seen.contains l.name then
      let (kept, repeated) := splitRepeated seen ls
      (kept, l.name :: repeated)
    else
      let (kept, repeated) := splitRepeated (l.name :: seen) ls
      (l :: kept, repeated)

theorem splitRepeated_nil (seen : List String) : splitRepeated seen [] = ([], []) := rfl

/-- does the line belong to the key, by the list or by its own mark? -/
def isKeyLine (keys : List String) (line : ColumnLine) : Bool :=
  keys.contains line.name || hasKeyMark false line.rest

/-- the lines of a text that declare columns -/
def columnLines (cs : List Char) : List ColumnLine := (Body.lines cs).filterMap ColumnLine.ofLine?

/-- the columns of a text, given its key, and the names that are declared again -/
def columns (rules : Rules) (keys : List String) (cs : List Char) :
    Except DdlError (List Column × List String) := do
  let (kept, repeated) := splitRepeated [] (columnLines cs)
  let cols ← kept.mapM fun l => column rules l (isKeyLine keys l)
  .ok (cols, repeated)

end Ddl

/-- the table that a statement declares -/
def Table.ofDdl (rules : Rules) (ddl : String) : Except DdlError Table := do
  let cs := ddl.toList.filter (· ≠ '"')
  let name := TableName.ofText cs
  let (cols, repeated) ← Ddl.columns rules (tableKey cs) cs
  let type ← (rules.naming.typeName name.name).mapError .name
  .ok {
    schema := name.schema
    name := name.name
    typeName := type
    columns := cols
    duplicates := repeated }

end DdlToJava

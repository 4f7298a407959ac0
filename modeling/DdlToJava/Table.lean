/-!
# The declared table

What a statement declares, ready to be written as Java: the table with its columns in the order of
their declaration, each with the name and type it has in Java.
-/

namespace DdlToJava

/-- a column and its Java field -/
structure Column where
  name : String
  fieldName : String
  /-- the field name as it stands after `get`, which also names the column's interface -/
  accessor : String
  targetType : String
  constraint : String := ""
  isKey : Bool := false
  deriving DecidableEq, Repr

/-- a table and its Java type -/
structure Table where
  schema : String
  name : String
  typeName : String
  columns : List Column := []
  /-- the names that were declared again -/
  duplicates : List String := []
  deriving DecidableEq, Repr

namespace Table

/-- the columns of the primary key -/
def keyColumns (t : Table) : List Column := t.columns.filter (·.isKey)

/-- does the primary key have several columns? -/
def hasCompositeKey (t : Table) : Bool := 1 < t.keyColumns.length

theorem keyColumns_nil (t : Table) (h : t.columns = []) : t.keyColumns = [] := by
  simp [keyColumns, h]

end Table

end DdlToJava

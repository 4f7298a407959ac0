import DdlToJava.Rules.Basic
import DdlToJava.Table
import DdlToJava.Text.Lines

/-!
# The entity

The entity of a table is a class with one private field per column, an `@Id` on every key column
and, where the key has several columns, an `@IdClass` of its own.  `Entity.lines` lists the lines
of the text and `Entity.text` ends each of them with a line feed.
-/

namespace DdlToJava.Entity

/-- the lines of a field -/
def fieldLines (indent : String) (c : Column) : List String :=
  (if c.isKey then [indent ++ "@Id"] else []) ++
    [indent ++ "@Column(name = \"" ++ c.name ++ "\")",
      indent ++ "private " ++ c.targetType ++ " " ++ c.fieldName ++ ";"]

/-- the lines above the fields -/
def head (indent : String) (t : Table) : List String :=
  ["/** JAVA ENTITY **/", "", "@Data", "@Entity",
    "@Table(schema = \"" ++ t.schema ++ "\", name = \"" ++ t.name ++ "\")"] ++
  (if t.hasCompositeKey then ["@IdClass(" ++ t.typeName ++ "Id.class)"] else []) ++
  ["public class " ++ t.typeName ++ " implements Serializable \x7b", "",
    indent ++ "@Serial",
    indent ++ "private static final long serialVersionUID = 1L;"]

/-- the lines of the fields, each field behind a blank line -/
def fields (indent : String) (cs : List Column) : List String :=
  cs.flatMap fun c => "" :: fieldLines indent c

/-- the lines of an entity -/
def lines (indent : String) (t : Table) : List String :=
  head indent t ++ fields indent t.columns ++ ["\x7d"]

/-- the text of an entity -/
def text (rules : Rules) (t : Table) : String := Text.ofLines (lines rules.output.indent t)

theorem fieldLines_length (indent : String) (c : Column) :
    (fieldLines indent c).length = if c.isKey then 3 else 2 := by
  cases h : c.isKey <;> simp [fieldLines, h]

theorem fields_nil (indent : String) : fields indent [] = [] := rfl

theorem fields_cons (indent : String) (c : Column) (cs : List Column) :
    fields indent (c :: cs) = "" :: fieldLines indent c ++ fields indent cs := by
  simp [fields]

theorem fields_append (indent : String) (a b : List Column) :
    fields indent (a ++ b) = fields indent a ++ fields indent b := by
  simp [fields]

end DdlToJava.Entity

import DdlToJava.Rules.Basic
import DdlToJava.Table
import DdlToJava.Text.Lines

/-!
# The transfer objects

The transfer objects of a table stand in one enumeration without constants.  Every column has an
interface with a constrained getter; the request class implements them all and holds the fields,
and the response interface extends them all.
-/

namespace DdlToJava.Dto

/-! ## the interface of a column -/

/-- the documentation stub of a getter -/
def schemaStub : String := "@Schema(description = \" \", example = \" \")"

/-- the mark that says that a value has to be there -/
def requiredMark (rules : Rules) (c : Column) : String :=
  if c.targetType = rules.types.string.targetType then rules.validation.stringMarker
  else rules.validation.otherMarker

/-- the marks on a column's getter -/
def getterMarks (rules : Rules) (c : Column) : List String :=
  (if rules.validation.enabled then
    requiredMark rules c :: (if c.constraint = "" then [] else [c.constraint])
  else []) ++
    (if rules.validation.schemaNote then [schemaStub] else [])

/-- the indent of a nested line -/
def nested (indent : String) (depth : Nat) : String := String.join (List.replicate depth indent)

/-- the lines of a column's interface -/
def interfaceLines (rules : Rules) (c : Column) : List String :=
  let ind := nested rules.output.indent
  [ind 1 ++ "protected interface " ++ c.accessor ++ " \x7b"] ++
  (getterMarks rules c).map (ind 2 ++ ·) ++
  [ind 2 ++ c.targetType ++ " get" ++ c.accessor ++ "();", ind 1 ++ "\x7d"]

/-- the lines of the interfaces, each behind a blank line -/
def interfaces (rules : Rules) (cs : List Column) : List String :=
  cs.flatMap fun c => "" :: interfaceLines rules c

theorem interfaces_nil (rules : Rules) : interfaces rules [] = [] := rfl

theorem interfaces_cons (rules : Rules) (c : Column) (cs : List Column) :
    interfaces rules (c :: cs) = "" :: interfaceLines rules c ++ interfaces rules cs := by
  simp [interfaces]

/-! ## the request and the response -/

/-- a clause that names all the interfaces: nothing when there are none -/
def clause (word : String) (t : Table) : String :=
  match String.intercalate ", " (t.columns.map (·.accessor)) with
  | "" => ""
  | names => " " ++ word ++ " " ++ names

/-- the field of a column in the request class -/
def requestField (indent : String) (c : Column) : String :=
  nested indent 3 ++ "private " ++ c.targetType ++ " " ++ c.fieldName ++ ";"

/-- the lines of the request class and its subclass -/
def requestLines (indent : String) (t : Table) : List String :=
  let ind := nested indent
  [ind 1 ++ "public enum Request \x7b;",
    ind 2 ++ "@Data",
    ind 2 ++ "public static class Base" ++ clause "implements" t ++ " \x7b"] ++
  t.columns.map (requestField indent) ++
  [ind 2 ++ "\x7d", "",
    ind 2 ++ "@Data",
    ind 2 ++ "@EqualsAndHashCode(callSuper = true)",
    ind 2 ++ "public static class Cadastro extends Base \x7b\x7d",
    ind 1 ++ "\x7d"]

/-- the lines of the response interface -/
def responseLines (indent : String) (t : Table) : List String :=
  let ind := nested indent
  [ind 1 ++ "public enum Response \x7b;",
    ind 2 ++ "public interface Buscar" ++ clause "extends" t ++ " \x7b\x7d",
    ind 1 ++ "\x7d"]

/-! ## the whole -/

/-- the lines of the transfer objects -/
def lines (rules : Rules) (t : Table) : List String :=
  ["/** JAVA DTO **/", "", "public enum " ++ t.typeName ++ "DTO \x7b;"] ++
  interfaces rules t.columns ++
  [""] ++ requestLines rules.output.indent t ++
  [""] ++ responseLines rules.output.indent t ++ ["\x7d"]

/-- the text of the transfer objects -/
def text (rules : Rules) (t : Table) : String := Text.ofLines (lines rules t)

end DdlToJava.Dto

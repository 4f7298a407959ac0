import DdlToJava.Console.Markup
import DdlToJava.Table
import DdlToJava.Path

/-!
# Notices

What a run says on the way.  A notice is a message with console markup; the path of a written file
is a part of that message as it is, every other text from outside is escaped.
-/

namespace DdlToJava

open Console

/-- something that a run says -/
inductive Notice where
  | configMissing (path : Path)
  | configInvalid (path : Path) (reason : String)
  | inputUnreadable (message : String)
  | tableFound (table : Table)
  | columnsFound (table : Table)
  | noColumns
  | duplicatesIgnored (names : List String)
  | wrote (path : Path)
  | copied
  | clipboardUnavailable (reason : String)
  deriving DecidableEq, Repr

namespace Notice

/-- a text in a style -/
def styled (style text : String) : String := "[" ++ style ++ "]" ++ text ++ "[/" ++ style ++ "]"

/-- the message of a notice -/
def message : Notice → String
  | .configMissing path =>
    styled "yellow" ("Config file " ++ Markup.escape path.toString
      ++ " not found, using built-in defaults")
  | .configInvalid path reason =>
    styled "yellow" ("Invalid config " ++ Markup.escape path.toString
      ++ ", falling back to defaults:") ++ " " ++ Markup.escape reason
  | .inputUnreadable text => styled "bold red" (Markup.escape text)
  | .tableFound t =>
    styled "bold" "Table:" ++ " " ++ t.schema ++ "." ++ t.name ++ " -> " ++ t.typeName
  | .columnsFound t =>
    "Found " ++ styled "green" (toString t.columns.length) ++ " columns, "
      ++ styled "green" (toString t.keyColumns.length) ++ " primary key column(s)"
  | .noColumns => styled "yellow" "No column definitions found in input"
  | .duplicatesIgnored names =>
    styled "yellow" "Duplicate columns ignored (first declaration kept):" ++ " "
      ++ String.intercalate ", " names
  | .wrote path => styled "bold green" "Wrote:" ++ " " ++ path.toString
  | .copied => styled "bold green" "Copied to clipboard"
  | .clipboardUnavailable reason =>
    styled "yellow" "Clipboard unavailable:" ++ " " ++ Markup.escape reason

/-- the line that a notice prints -/
def line (n : Notice) : Except Markup.Fault String := (Markup.print n.message).map (· ++ "\n")

end Notice

end DdlToJava

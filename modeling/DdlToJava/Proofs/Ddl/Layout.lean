import DdlToJava.Proofs.Ddl.Columns

/-!
# Statements and their layouts

A `Declaration` is a statement before it is written down: a table with or without its schema, its
columns, and perhaps its key.  The structures carry what makes it well formed, so every declaration
can be written, in each of three layouts:

* `trailing`   the parenthesis behind the header, and a comma behind every item but the last;
* `leading`    the parenthesis on a line of its own, and a comma in front of every item but the
               first;
* `exported`   the parenthesis in front of the first item, a comma behind every item but the last,
               and all names but those of types in double quotes.
-/

namespace DdlToJava.Ddl

open Text

/-! ## names -/

/-- an identifier: a letter, then letters, digits and underscores -/
structure Name where
  first : Char
  others : List Char
  first_letter : first.isAlpha = true
  others_word : ∀ c ∈ others, c.isAlphanum = true ∨ c = '_'

namespace Name

def chars (n : Name) : List Char := n.first :: n.others

def text (n : Name) : String := String.ofList n.chars

/-- the name between two marks -/
def within (q : List Char) (n : Name) : List Char := q ++ n.chars ++ q

end Name

/-! ## columns -/

/-- a number in a size: no text is as long -/
abbrev SizeNumber := Fin JavaType.lengthLimit

/-- the size of a column, if it has one -/
inductive Size where
  | none
  | plain (precision : SizeNumber)
  | scaled (precision scale : SizeNumber)
  | bytes (precision : SizeNumber)
  | chars (precision : SizeNumber)

namespace Size

def precision : Size → Nat
  | none => 0
  | plain p | scaled p _ | bytes p | chars p => p

def scale : Size → Nat
  | scaled _ s => s
  | _ => 0

def print : Size → List Char
  | none => []
  | plain p => '(' :: Nat.toDigits 10 p ++ [')']
  | scaled p s => '(' :: Nat.toDigits 10 p ++ ',' :: Nat.toDigits 10 s ++ [')']
  | bytes p => '(' :: Nat.toDigits 10 p ++ " BYTE)".toList
  | chars p => '(' :: Nat.toDigits 10 p ++ " CHAR)".toList

end Size

/-- what stands behind the size of a column -/
inductive Mark where
  | none
  | notNull
  | primaryKey
  deriving DecidableEq

def Mark.print : Mark → List Char
  | none => []
  | notNull => " NOT NULL".toList
  | primaryKey => " PRIMARY KEY".toList

/-- a column before it is written: its name opens no other clause, and its type is not `KEY` -/
structure ColumnDecl where
  name : Name
  typeName : Name
  size : Size
  mark : Mark
  name_free : ColumnLine.isClauseKeyword name.chars = false
  type_ne : typeName.chars.map Char.toLower ≠ "key".toList

def ColumnDecl.print (q : List Char) (c : ColumnDecl) : List Char :=
  c.name.within q ++ ' ' :: c.typeName.chars ++ c.size.print ++ c.mark.print

/-! ## keys -/

/-- the key of a table, under the name of its constraint -/
structure KeyDecl where
  label : Name
  names : List Name
  names_ne : names ≠ []

def KeyDecl.print (q : List Char) (k : KeyDecl) : List Char :=
  "CONSTRAINT ".toList ++ k.label.within q ++ " PRIMARY KEY (".toList ++
    [',', ' '].intercalate (k.names.map (·.within q)) ++ [')']

/-! ## statements -/

/-- a statement before it is written: it has columns, and their names are different -/
structure Declaration where
  schema : Option Name
  table : Name
  columns : List ColumnDecl
  key : Option KeyDecl
  columns_ne : columns ≠ []
  columns_nodup : (columns.map (·.name.text)).Nodup

namespace Declaration

/-- the names of the key -/
def keyNames (d : Declaration) : List String := (d.key.elim [] (·.names)).map (·.text)

/-- does the column belong to the key, by the list or by its own mark? -/
def isKey (d : Declaration) (c : ColumnDecl) : Bool :=
  d.keyNames.contains c.name.text || c.mark = .primaryKey

def header (q : List Char) (d : Declaration) : List Char :=
  "CREATE TABLE ".toList ++ d.schema.elim [] (fun s => s.within q ++ ['.']) ++ d.table.within q

/-- the columns and the key, each on a line -/
def items (q : List Char) (d : Declaration) : List (List Char) :=
  d.columns.map (·.print q) ++ (d.key.map (·.print q)).toList

end Declaration

/-! ## layouts -/

inductive Layout where
  | trailing
  | leading
  | exported

namespace Layout

/-- what stands around a name -/
def quote : Layout → List Char
  | exported => ['"']
  | _ => []

/-- what stands behind the header on its line -/
def behindHeader : Layout → List Char
  | trailing => [' ', '(']
  | _ => []

/-- a comma behind every item but the last -/
def commasBehind : List (List Char) → List (List Char)
  | [] => []
  | [x] => [x]
  | x :: y :: xs => (x ++ [',']) :: commasBehind (y :: xs)

/-- a comma and a blank in front of every item but the first -/
def commasInFront : List (List Char) → List (List Char)
  | [] => []
  | x :: xs => x :: xs.map (',' :: ' ' :: ·)

/-- a parenthesis and a tab in front of the first item -/
def openFirst : List (List Char) → List (List Char)
  | [] => []
  | x :: xs => ('(' :: '\t' :: x) :: xs

/-- the line of an item, with some blanks in front -/
def pad (indent : Nat) (x : List Char) : List Char := List.replicate indent ' ' ++ x

end Layout

open Layout

namespace Declaration

/-- the lines between the header and the closing parenthesis -/
def body (q : List Char) (indent : Nat) (d : Declaration) : Layout → List (List Char)
  | .trailing => (commasBehind (d.items q)).map (pad indent)
  | .leading => ['('] :: (commasInFront (d.items q)).map (pad indent)
  | .exported => (openFirst (commasBehind (d.items q))).map (pad indent)

/-- the lines of the statement, with its names between `q` -/
def lines (q : List Char) (indent : Nat) (layout : Layout) (d : Declaration) : List (List Char) :=
  (d.header q ++ layout.behindHeader) :: (d.body q indent layout ++ [[')']])

/-- the statement in a layout, its items behind so many blanks -/
def print (layout : Layout) (indent : Nat) (d : Declaration) : String :=
  written (d.lines layout.quote indent layout)

example : print .leading 2 {
    schema := none
    table := ⟨'T', [], rfl, by decide⟩
    columns := [⟨⟨'A', [], rfl, by decide⟩, ⟨'B', [], rfl, by decide⟩, .plain ⟨10, by decide⟩,
      .notNull, by decide +kernel, by decide⟩]
    key := none
    columns_ne := List.cons_ne_nil _ _
    columns_nodup := List.nodup_cons.mpr ⟨List.not_mem_nil, List.nodup_nil⟩ } =
    "CREATE TABLE T\n(\n  A B(10) NOT NULL\n)" := by
  decide +kernel

end Declaration

end DdlToJava.Ddl

import DdlToJava.Text.Ranges
import DdlToJava.Text.PrintableTable

/-!
# Quoted texts

A text in an error message stands in single quotes, or in double quotes if it holds single quotes
and no double ones.  The quote and the backslash are escaped, and so is everything that does not
print: by name where there is one, otherwise by its code point in two, four or eight hexadecimal
digits.
-/

namespace DdlToJava.Text

/-- a character that prints as it is -/
def isPrintable (c : Char) : Bool :=
  if c.toNat < 128 then 32 ≤ c.toNat && c.toNat < 127 else inRanges printableRanges c

/-- a number in hexadecimal digits, filled up with zeros to `width` digits -/
def hex (width n : Nat) : List Char :=
  let ds := Nat.toDigits 16 n
  List.replicate (width - ds.length) '0' ++ ds

/-- a character by its code point -/
def byCodePoint (c : Char) : List Char :=
  let n := c.toNat
  if n < 0x100 then '\\' :: 'x' :: hex 2 n
  else if n < 0x10000 then '\\' :: 'u' :: hex 4 n
  else '\\' :: 'U' :: hex 8 n

/-- a character between quotes `q` -/
def quotedChar (q c : Char) : List Char :=
  if c = q ∨ c = '\\' then ['\\', c]
  else if c = '\n' then ['\\', 'n']
  else if c = '\r' then ['\\', 'r']
  else if c = '\t' then ['\\', 't']
  else if isPrintable c then [c]
  else byCodePoint c

/-- the quote that a text needs the fewest escapes with -/
def quoteFor (cs : List Char) : Char :=
  if cs.contains '\x27' && !cs.contains '"' then '"' else '\x27'

/-- a text in quotes -/
def quoted (s : String) : String :=
  let q := quoteFor s.toList
  String.ofList (q :: (s.toList.flatMap (quotedChar q) ++ [q]))

theorem quotedChar_self (q : Char) : quotedChar q q = ['\\', q] := by simp [quotedChar]

end DdlToJava.Text

import DdlToJava.Json.Basic

/-!
# Writing JSON

The written form has no white space.  In a string the quote, the backslash and the control
characters are escaped; everything else stands as it is.
-/

namespace DdlToJava.Json

namespace Printer

/-- a control character by its number -/
def escaped (c : Char) : List Char :=
  ['\\', 'u', '0', '0', Nat.digitChar (c.toNat / 16), Nat.digitChar (c.toNat % 16)]

/-- a character of a string -/
def character (c : Char) : List Char :=
  if c = '"' then ['\\', '"']
  else if c = '\\' then ['\\', '\\']
  else if c.toNat < 32 then escaped c
  else [c]

/-- a string in quotes -/
def quoted (s : String) : List Char := '"' :: (s.toList.flatMap character ++ ['"'])

/-- an integer -/
def integer (n : Int) : List Char :=
  (if n < 0 then ['-'] else []) ++ Nat.toDigits 10 n.natAbs

/-- a decimal, as its digits and an exponent -/
def decimal (d : Decimal) : List Char :=
  (if d.negative then ['-'] else []) ++ Nat.toDigits 10 d.digits ++ 'e' :: integer d.exponent

mutual

/-- the characters of a value -/
def value : Json → List Char
  | .null => "null".toList
  | .bool b => if b then "true".toList else "false".toList
  | .int n => integer n
  | .decimal d => decimal d
  | .nan => "NaN".toList
  | .infinity negative => if negative then "-Infinity".toList else "Infinity".toList
  | .string s => quoted s
  | .array [] => ['[', ']']
  | .array (v :: vs) => '[' :: (value v ++ moreItems vs)
  | .object [] => ['\x7b', '\x7d']
  | .object ((k, v) :: fs) => '\x7b' :: (quoted k ++ ':' :: (value v ++ moreFields fs))

/-- the items behind the first, and the closing bracket -/
def moreItems : List Json → List Char
  | [] => [']']
  | v :: vs => ',' :: (value v ++ moreItems vs)

/-- the fields behind the first, and the closing brace -/
def moreFields : List (String × Json) → List Char
  | [] => ['\x7d']
  | (k, v) :: fs => ',' :: (quoted k ++ ':' :: (value v ++ moreFields fs))

end

end Printer

/-- the written form of a value -/
def render (v : Json) : String := String.ofList (Printer.value v)

end DdlToJava.Json

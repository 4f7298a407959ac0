import DdlToJava.Json.Token
import DdlToJava.Text.Pieces
import DdlToJava.Text.Space

/-!
# Numerals

An integer may stand in a text.  A text that writes it as JSON does is read as it is.  Any other
text is tidied first: white space around it goes, a plus sign goes, so do the zeros behind the sign
with the underscores among them, a point with nothing but zeros behind it, and underscores between
two other characters.  What is left has to write an integer as JSON does.
-/

namespace DdlToJava.Numeral

open Text Json

/-- why a text is no numeral -/
inductive Fault where
  | overlong
  | unreadable
  deriving DecidableEq, Repr

/-- the integer that a text writes as JSON does -/
def plain? (cs : List Char) : Option Int :=
  match Token.number? cs with
  | some (.int n, []) => some n
  | _ => none

/-- does a text begin with more digits than a number may have? -/
def startsOverlong (cs : List Char) : Bool :=
  let (negative, cs) := Token.sign cs
  cs.head? != some '0' && Token.isOverlong negative (cs.takeWhile Char.isDigit)

/-! ## tidying -/

/-- white space that may surround a numeral -/
def isBlank (c : Char) : Bool := isSpace c && !(28 ≤ c.toNat && c.toNat ≤ 31)

/-- the text without the white space around it -/
def dropBlanks (cs : List Char) : List Char := dropEnd isBlank (cs.dropWhile isBlank)

/-- the text without a plus sign, which no minus sign may follow -/
def dropPlus? : List Char → Option (List Char)
  | '+' :: '-' :: _ => none
  | '+' :: cs => some cs
  | cs => some cs

/-- may a value begin with this character? -/
def startsValue (c : Char) : Bool := c = '-' || c.isDigit

/-- what is left of a text behind `last`, which is a zero or an underscore, when all such characters
at its front are dropped; one stays before a point and at the end -/
def skipZeros? (last : Char) : List Char → Option (List Char)
  | [] => some [last]
  | c :: cs =>
    if c = '0' ∨ c = '_' then skipZeros? c cs
    else if c = '.' then some (last :: c :: cs)
    else if startsValue c then some (c :: cs)
    else none

/-- the text without the zeros in front of its value; nothing if no value can begin there -/
def dropZeros? : List Char → Option (List Char)
  | [] => none
  | c :: cs =>
    if c = '0' then skipZeros? c cs
    else if startsValue c then some (c :: cs)
    else none

/-- the text without a point that has zeros and nothing else behind it -/
def dropZeroFraction (cs : List Char) : List Char :=
  match cs.dropWhile (· ≠ '.') with
  | '.' :: z :: zs => if (z :: zs).all (· = '0') then cs.takeWhile (· ≠ '.') else cs
  | _ => cs

/-- the text without its underscores, if each of them stands between two other characters -/
def joinGroups (cs : List Char) : List Char :=
  if (pieces '_' cs).contains [] then cs else (pieces '_' cs).flatten

/-- the text without the zeros behind its minus sign, or at its front if it has none -/
def dropZerosSigned? : List Char → Option (List Char)
  | '-' :: cs => (dropZeros? cs).map ('-' :: ·)
  | cs => dropZeros? cs

/-- the text as it is read in the end -/
def tidy? (cs : List Char) : Option (List Char) := do
  let cs ← dropPlus? (dropBlanks cs)
  let cs ← dropZerosSigned? cs
  some (joinGroups (dropZeroFraction cs))

/-! ## reading -/

/-- the integer that a text writes -/
def read (cs : List Char) : Except Fault Int :=
  match plain? cs with
  | some n => .ok n
  | none =>
    if startsOverlong cs then .error .overlong
    else match (tidy? cs).bind plain? with
      | some n => .ok n
      | none => .error .unreadable

theorem read_of_plain {cs : List Char} {n : Int} (h : plain? cs = some n) : read cs = .ok n := by
  simp [read, h]

theorem read_nil : read [] = .error .unreadable := rfl

end DdlToJava.Numeral

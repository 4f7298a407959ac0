import DdlToJava.Text.Space

/-!
# Lines

A text is cut into lines at the line feed, the carriage return (a following line feed belongs to
it), the vertical tab, the form feed, the separators U+001C to U+001E, the next-line mark U+0085
and the line and paragraph separators U+2028 and U+2029.  A break ends a line, so a text that ends
in a break has no empty line after it.

`unifyLineEnds` is the coarser rule for reading a file: a carriage return, alone or with its line
feed, becomes a line feed.  `ofLines` writes lines, each with a line feed behind it.
-/

namespace DdlToJava.Text

/-- does a line end at this character? -/
def isLineBreak (c : Char) : Bool :=
  let n := c.toNat
  (10 ≤ n && n ≤ 13) || (28 ≤ n && n ≤ 30) || n = 0x85 || n = 0x2028 || n = 0x2029

theorem isSpace_of_isLineBreak (c : Char) (h : isLineBreak c = true) : isSpace c = true := by
  simp only [isLineBreak, isSpace, Bool.or_eq_true, Bool.and_eq_true, decide_eq_true_eq] at h ⊢
  omega

/-- put `c` in front of the first line -/
def consLine (c : Char) : List (List Char) → List (List Char)
  | [] => [[c]]
  | l :: ls => (c :: l) :: ls

/-- the lines of a text, without their breaks -/
def lines : List Char → List (List Char)
  | [] => []
  | '\r' :: '\n' :: cs => [] :: lines cs
  | c :: cs => if isLineBreak c then [] :: lines cs else consLine c (lines cs)

theorem lines_nil : lines [] = [] := rfl

theorem lines_crlf (cs : List Char) : lines ('\r' :: '\n' :: cs) = [] :: lines cs := by
  rw [lines]

/-- every line end of a file as a line feed -/
def unifyLineEnds : List Char → List Char
  | [] => []
  | '\r' :: '\n' :: cs => '\n' :: unifyLineEnds cs
  | c :: cs => (if c = '\r' then '\n' else c) :: unifyLineEnds cs

theorem unifyLineEnds_nil : unifyLineEnds [] = [] := rfl

/-! ## writing -/

/-- lines as a text, each with a line feed behind it -/
def ofLines (ls : List String) : String := String.join (ls.map (· ++ "\n"))

theorem ofLines_nil : ofLines [] = "" := rfl

end DdlToJava.Text

import DdlToJava.Text.Space
import DdlToJava.Text.Lines

/-!
# The body of a statement

`Body.lines` gives the lines on which a column can be declared: those at parenthesis depth one, or
at depth zero as long as no parenthesis has been opened.  The depth of a line counts the
parentheses at its front.  Blank lines and comment lines do not count; the line that brings the
depth back to zero is the last.
-/

namespace DdlToJava.Ddl.Body

open Text

/-- the state between two lines: how many parentheses are open, and whether any ever was -/
structure Depth where
  depth : Int := 0
  opened : Bool := false
  deriving DecidableEq, Repr

/-- how many parentheses stand at the front of a text, and what is behind them; `inFront` says
whether one has come already, so that white space belongs to the front -/
def peel (inFront : Bool) : List Char → Nat × List Char
  | [] => (0, [])
  | c :: cs =>
    if c = '(' then
      let (n, rest) := peel true cs
      (n + 1, rest)
    else if inFront && isSpace c then peel true cs
    else (0, c :: cs)

theorem peel_nil (inFront : Bool) : peel inFront [] = (0, []) := rfl

theorem peel_of_ne {c : Char} (cs : List Char) (h : c ≠ '(') :
    peel false (c :: cs) = (0, c :: cs) := by
  simp [peel, h]

/-- how much deeper the text leaves the reader than it found him -/
def balance (cs : List Char) : Int := (cs.count '(' : Int) - cs.count ')'

/-- a line that does not count: blank, or a comment -/
def isIdle (line : List Char) : Bool := line.isEmpty || "--".toList.isPrefixOf line

/-- a line as a declaration: without its leading commas -/
def declaration (cs : List Char) : List Char := trimStart (cs.dropWhile (· = ','))

/-- the declaration on a trimmed line that counts, if its depth is right for one, and the state
after the line -/
def step (s : Depth) (line : List Char) : Option (List Char) × Depth :=
  let (n, rest) := peel false line
  let before := s.depth + n
  let after := before + balance rest
  let fits := before = 1 ∨ (before = 0 ∧ s.opened = false)
  let yielded := if fits ∧ rest.head? ≠ some ')' then some (declaration rest) else none
  (yielded, ⟨after, s.opened || decide (before > 0) || decide (after > 0)⟩)

/-- has the line before closed the body? -/
def Depth.closed (s : Depth) : Bool := s.opened && s.depth ≤ 0

/-- the declarations on trimmed lines -/
def scan (s : Depth) : List (List Char) → List (List Char)
  | [] => []
  | line :: rest =>
    if isIdle line then scan s rest
    else
      let (yielded, s') := step s line
      yielded.toList ++ (if s'.closed then [] else scan s' rest)

/-- the lines of a text on which a column can be declared -/
def lines (cs : List Char) : List (List Char) := scan {} ((Text.lines cs).map trim)

theorem scan_nil (s : Depth) : scan s [] = [] := rfl

theorem scan_idle (s : Depth) (line : List Char) (rest : List (List Char))
    (h : isIdle line = true) : scan s (line :: rest) = scan s rest := by
  simp [scan, h]

end DdlToJava.Ddl.Body

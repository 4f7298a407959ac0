import DdlToJava.Console.CellTable
import DdlToJava.Text.Pieces
import DdlToJava.Text.Ranges

/-!
# Cells

A console line is a row of cells.  `cells` counts the cells that a text takes and `expandTabs`
replaces every tab by blanks up to the next stop; the stops are eight cells apart and every line
starts anew.
-/

namespace DdlToJava.Console

open Text

/-- how many cells a character takes by itself -/
def cellsOf (c : Char) : Nat :=
  if c.toNat < 32 ∨ 127 ≤ c.toNat ∧ c.toNat < 160 then 0
  else if c.toNat < 127 then 1
  else if inRanges emptyRanges c then 0
  else if inRanges wideRanges c then 2
  else 1

/-- the joiner, which hides the character behind it -/
def joiner : Char := '\u200d'

/-- the variation selector that asks for a picture -/
def pictureSelector : Char := '\ufe0f'

/-- does the selector widen this character? -/
def isWidened (c : Char) : Bool := inRanges pictureRanges c

/-- how many cells a text takes; `last` is the character in front of it that a selector may still
widen -/
def cellsFrom (last : Option Char) : List Char → Nat
  | [] => 0
  | c :: cs =>
    if c = joiner then
      match cs with
      | [] => 0
      | _ :: rest => cellsFrom last rest
    else if c = pictureSelector then
      (if last.any isWidened then 1 else 0) + cellsFrom none cs
    else if cellsOf c = 0 then cellsFrom last cs
    else cellsOf c + cellsFrom (some c) cs

/-- how many cells a text takes -/
def cells (cs : List Char) : Nat := cellsFrom none cs

theorem cells_nil : cells [] = 0 := rfl

/-! ## tabs -/

/-- how far the tab stops are apart -/
def tabWidth : Nat := 8

/-- the parts of a line that tabs separate, filled up to the tab stops; `position` cells stand in
front of them.  A tab takes at least one cell. -/
def fillParts (position : Nat) : List (List Char) → List Char
  | [] => []
  | [p] => p
  | p :: q :: ps =>
    let reached := position + cells (p ++ [' '])
    let gap := (tabWidth - reached % tabWidth) % tabWidth
    p ++ ' ' :: List.replicate gap ' ' ++ fillParts (reached + gap) (q :: ps)

theorem fillParts_singleton (position : Nat) (p : List Char) : fillParts position [p] = p := rfl

/-- a text with blanks in the place of its tabs -/
def expandTabs (cs : List Char) : List Char :=
  ['\n'].intercalate ((pieces '\n' cs).map fun line => fillParts 0 (pieces '\t' line))

end DdlToJava.Console

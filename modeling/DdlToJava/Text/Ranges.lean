/-!
# Sets of characters given by ranges

A class of characters is listed as inclusive ranges of code points.  `inRanges` says whether a
character is in one of them; the tables of this folder are read through it.
-/

namespace DdlToJava.Text

/-- is the code point of `c` in one of the ranges? -/
def inRanges (table : List (Nat × Nat)) (c : Char) : Bool :=
  table.any fun r => r.1 ≤ c.toNat && c.toNat ≤ r.2

theorem inRanges_nil (c : Char) : inRanges [] c = false := rfl

theorem inRanges_cons (r : Nat × Nat) (table : List (Nat × Nat)) (c : Char) :
    inRanges (r :: table) c = ((r.1 ≤ c.toNat && c.toNat ≤ r.2) || inRanges table c) := rfl

theorem inRanges_append (a b : List (Nat × Nat)) (c : Char) :
    inRanges (a ++ b) c = (inRanges a c || inRanges b c) := by
  simp [inRanges, List.any_append]

end DdlToJava.Text

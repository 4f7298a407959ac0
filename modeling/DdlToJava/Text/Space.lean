/-!
# White space

White space is the white space of every script together with the four information separators
(U+001C to U+001F).  Trimming takes it off one end or both ends of a text.
-/

namespace DdlToJava.Text

/-- white space, the four information separators included -/
def isSpace (c : Char) : Bool :=
  let n := c.toNat
  (9 ≤ n && n ≤ 13) || (28 ≤ n && n ≤ 32) || n = 0x85 || n = 0xA0 || n = 0x1680 ||
    (0x2000 ≤ n && n ≤ 0x200A) || n = 0x2028 || n = 0x2029 || n = 0x202F || n = 0x205F ||
    n = 0x3000

theorem isSpace_of_isWhitespace (c : Char) (h : c.isWhitespace = true) : isSpace c = true := by
  simp only [Char.isWhitespace, Bool.or_eq_true, decide_eq_true_eq] at h
  rcases h with ((rfl | rfl) | rfl) | rfl <;> decide

/-! ## trimming -/

/-- the text without the white space at its front -/
def trimStart (cs : List Char) : List Char := cs.dropWhile isSpace

/-- the text without the characters of `p` at its end -/
def dropEnd (p : Char → Bool) (cs : List Char) : List Char := (cs.reverse.dropWhile p).reverse

/-- the text without the white space at its end -/
def trimEnd (cs : List Char) : List Char := dropEnd isSpace cs

/-- the text without the white space at both ends -/
def trim (cs : List Char) : List Char := trimEnd (trimStart cs)

theorem trimStart_nil : trimStart [] = [] := rfl

theorem trimStart_cons (c : Char) (cs : List Char) :
    trimStart (c :: cs) = if isSpace c then trimStart cs else c :: cs := by
  cases h : isSpace c <;> simp [trimStart, h]

end DdlToJava.Text

/-!
# Control sequences

A control sequence tells a terminal what to do: an escape character, an opening bracket, digits,
semicolons and question marks, and a letter.  `withoutSequences` is a text as it goes to an output
that is no terminal.
-/

namespace DdlToJava.Console

/-- may a control sequence hold this character between its bracket and its letter? -/
def isParameter (c : Char) : Bool := c.isDigit || c = ';' || c = '?'

/-- what follows the control sequence at the front of a text, if there is one -/
def skipSequence? : List Char → Option (List Char)
  | '\x1b' :: '[' :: cs =>
    match cs.dropWhile isParameter with
    | c :: rest => if c.isAlpha then some rest else none
    | [] => none
  | _ => none

theorem skipSequence?_length {cs rest : List Char} (h : skipSequence? cs = some rest) :
    rest.length < cs.length := by
  unfold skipSequence? at h
  split at h
  · next cs =>
    have hle := (List.dropWhile_sublist isParameter (l := cs)).length_le
    split at h
    · next c r hr =>
      split at h
      · simp only [Option.some.injEq] at h
        rw [hr] at hle
        simp only [List.length_cons] at hle ⊢
        rw [← h]
        omega
      · simp at h
    · simp at h
  · simp at h

/-- a text without its control sequences -/
def withoutSequences (cs : List Char) : List Char :=
  match cs with
  | [] => []
  | c :: tail =>
    match _h : skipSequence? (c :: tail) with
    | some rest => withoutSequences rest
    | none => c :: withoutSequences tail
termination_by cs.length
decreasing_by
  · exact skipSequence?_length _h
  · simp

theorem withoutSequences_nil : withoutSequences [] = [] := by rw [withoutSequences]

end DdlToJava.Console

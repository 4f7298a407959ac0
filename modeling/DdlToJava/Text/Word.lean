import DdlToJava.Text.Ranges
import DdlToJava.Text.WordTable

/-!
# Words

An identifier is a run of word characters: letters and numerals of any script, and the underscore.
`word?` reads the longest run at the front of a text.
-/

namespace DdlToJava.Text

/-- a letter or numeral of any script, or the underscore -/
def isWord (c : Char) : Bool :=
  if c.toNat < 128 then c.isAlphanum || c = '_' else inRanges wordRanges c

theorem isWord_of_isAlphanum (c : Char) (h : c.isAlphanum = true) (hc : c.toNat < 128) :
    isWord c = true := by
  simp [isWord, h, hc]

theorem isWord_underscore : isWord '_' = true := by decide

/-- a run of characters of `p` that is not empty, and what follows it -/
def run? (p : Char → Bool) (cs : List Char) : Option (List Char × List Char) :=
  match cs.takeWhile p with
  | [] => none
  | w => some (w, cs.dropWhile p)

/-- the longest run of word characters at the front, if there is one, and what follows it -/
def word? (cs : List Char) : Option (List Char × List Char) := run? isWord cs

theorem run?_nil (p : Char → Bool) : run? p [] = none := rfl

theorem run?_eq_some (p : Char → Bool) {cs w r : List Char} (h : run? p cs = some (w, r)) :
    w = cs.takeWhile p ∧ r = cs.dropWhile p ∧ w ≠ [] := by
  unfold run? at h
  split at h
  · simp at h
  · next hw =>
    simp only [Option.some.injEq, Prod.mk.injEq] at h
    exact ⟨h.1.symm, h.2.symm, h.1 ▸ hw⟩

theorem run?_length {p : Char → Bool} {cs w r : List Char} (h : run? p cs = some (w, r)) :
    r.length < cs.length := by
  obtain ⟨rfl, rfl, hw⟩ := run?_eq_some p h
  have hsum := congrArg List.length (List.takeWhile_append_dropWhile (p := p) (l := cs))
  rw [List.length_append] at hsum
  have := List.length_pos_iff.mpr hw
  omega

/-- a run that nothing can lengthen is read as it is -/
theorem run?_append (p : Char → Bool) {w rest : List Char} (hw : w ≠ [])
    (inside : ∀ c ∈ w, p c = true) (boundary : ∀ c, rest.head? = some c → p c = false) :
    run? p (w ++ rest) = some (w, rest) := by
  have htake : (w ++ rest).takeWhile p = w := by
    rw [List.takeWhile_append_of_pos inside]
    cases rest with
    | nil => simp
    | cons c cs => simp [boundary c rfl]
  have hdrop : (w ++ rest).dropWhile p = rest := by
    rw [List.dropWhile_append_of_pos inside]
    cases rest with
    | nil => rfl
    | cons c cs => simp [boundary c rfl]
  unfold run?
  rw [htake, hdrop]
  cases w with
  | nil => exact absurd rfl hw
  | cons c cs => rfl

end DdlToJava.Text

import DdlToJava.Text.Space

/-!
# Keywords

Keywords are read in any case, letter by letter.  `foldLetter` brings the letters together that
count as one: the two cases of an ASCII letter, the dotted and dotless i with i, the long s with
s, and the kelvin sign with k.
-/

namespace DdlToJava.Text

/-- the small ASCII letter that a character counts as in a keyword -/
def foldLetter (c : Char) : Char :=
  if c = 'İ' ∨ c = 'ı' then 'i'
  else if c = 'ſ' then 's'
  else if c = '\u212A' then 'k'
  else c.toLower

/-- what follows the keyword, which is given in small letters -/
def keyword? : List Char → List Char → Option (List Char)
  | [], cs => some cs
  | _ :: _, [] => none
  | k :: ks, c :: cs => if foldLetter c = k then keyword? ks cs else none

theorem keyword?_nil (cs : List Char) : keyword? [] cs = some cs := by
  cases cs <;> rfl

/-- what follows a run of white space that is not empty -/
def blanks? : List Char → Option (List Char)
  | [] => none
  | c :: cs => if isSpace c then some (trimStart cs) else none

theorem blanks?_nil : blanks? [] = none := rfl

/-- what follows the character `k` -/
def symbol? (k : Char) : List Char → Option (List Char)
  | [] => none
  | c :: cs => if c = k then some cs else none

theorem symbol?_length {k : Char} {cs rest : List Char} (h : symbol? k cs = some rest) :
    rest.length < cs.length := by
  unfold symbol? at h
  split at h
  · simp at h
  · split at h
    · simp only [Option.some.injEq] at h
      simp [h]
    · simp at h

theorem symbol?_nil (k : Char) : symbol? k [] = none := rfl

theorem symbol?_cons (k c : Char) (cs : List Char) :
    symbol? k (c :: cs) = if c = k then some cs else none := rfl

/-! ## the first place where a reader succeeds -/

/-- what `read` gives at the first place, from the left, where it gives anything -/
def findFirst? {α : Type} (read : List Char → Option α) : List Char → Option α
  | [] => read []
  | c :: cs => (read (c :: cs)).or (findFirst? read cs)

theorem findFirst?_nil {α : Type} (read : List Char → Option α) :
    findFirst? read [] = read [] := rfl

theorem findFirst?_cons {α : Type} (read : List Char → Option α) (c : Char) (cs : List Char) :
    findFirst? read (c :: cs) = (read (c :: cs)).or (findFirst? read cs) := rfl

end DdlToJava.Text

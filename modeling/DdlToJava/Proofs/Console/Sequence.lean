import DdlToJava.Console.Sequence
import DdlToJava.Text.Lines
import Mathlib.Data.List.Infix

/-!
# Texts without control sequences

* `withoutSequences_append_newline`  a line end at the end of a text stays there;
* `withoutSequences_eq_self_iff`     exactly the texts that hold no control sequence stay as they
                                     are.
-/

namespace DdlToJava.Console

/-- does a control sequence stand anywhere in the text? -/
def HoldsSequence (cs : List Char) : Prop := ∃ s, s <:+ cs ∧ skipSequence? s ≠ none

theorem not_holdsSequence_nil : ¬ HoldsSequence [] := by
  rintro ⟨s, hs, h⟩
  rw [List.suffix_nil.mp hs] at h
  exact h rfl

theorem holdsSequence_cons {c : Char} {cs : List Char} (h : skipSequence? (c :: cs) = none) :
    HoldsSequence (c :: cs) ↔ HoldsSequence cs := by
  constructor
  · rintro ⟨s, hs, hsome⟩
    rcases List.suffix_cons_iff.mp hs with rfl | hs
    · exact absurd h hsome
    · exact ⟨s, hs, hsome⟩
  · rintro ⟨s, hs, hsome⟩
    exact ⟨s, hs.trans (List.suffix_cons c cs), hsome⟩

/-! ## one step -/

theorem withoutSequences_of_some {cs rest : List Char} (h : skipSequence? cs = some rest) :
    withoutSequences cs = withoutSequences rest := by
  cases cs with
  | nil => cases h
  | cons c tail =>
    rw [withoutSequences]
    split
    · next more hmore =>
      rw [h] at hmore
      cases hmore
      rfl
    · next hnone =>
      rw [h] at hnone
      cases hnone

theorem withoutSequences_cons {c : Char} {cs : List Char} (h : skipSequence? (c :: cs) = none) :
    withoutSequences (c :: cs) = c :: withoutSequences cs := by
  rw [withoutSequences]
  split
  · next more hmore =>
    rw [h] at hmore
    cases hmore
  · rfl

/-! ## a line end behind a text -/

theorem skipSequence?_open (cs : List Char) :
    skipSequence? ('\x1b' :: '[' :: cs) =
      match cs.dropWhile isParameter with
      | c :: rest => if c.isAlpha then some rest else none
      | [] => none := rfl

theorem skipSequence?_of_ne {cs : List Char} (h : ∀ more, cs ≠ '\x1b' :: '[' :: more) :
    skipSequence? cs = none := by
  unfold skipSequence?
  split
  · next more => exact absurd rfl (h more)
  · rfl

/-- a line end behind a text ends no sequence of the text -/
theorem skipSequence?_append_newline (cs : List Char) :
    skipSequence? (cs ++ ['\n']) = (skipSequence? cs).map (· ++ ['\n']) := by
  by_cases hopen : ∃ more, cs = '\x1b' :: '[' :: more
  · obtain ⟨more, rfl⟩ := hopen
    show skipSequence? ('\x1b' :: '[' :: (more ++ ['\n'])) = _
    rw [skipSequence?_open, skipSequence?_open, List.dropWhile_append]
    cases more.dropWhile isParameter with
    | nil => rfl
    | cons c rest =>
      show (if c.isAlpha then some (rest ++ ['\n']) else none) = _
      cases hc : c.isAlpha <;> simp [hc]
  · rw [skipSequence?_of_ne fun more h => hopen ⟨more, h⟩, skipSequence?_of_ne, Option.map_none]
    intro more h
    match cs with
    | [] => cases h
    | [c] => cases h
    | c :: d :: rest =>
      cases h
      exact hopen ⟨rest, rfl⟩

theorem withoutSequences_append_newline (cs : List Char) :
    withoutSequences (cs ++ ['\n']) = withoutSequences cs ++ ['\n'] := by
  fun_induction withoutSequences cs with
  | case1 =>
    rw [List.nil_append, withoutSequences_cons (by rfl), withoutSequences_nil]
  | case2 c tail rest h ih =>
    have happend := skipSequence?_append_newline (c :: tail)
    rw [h, Option.map_some] at happend
    rw [withoutSequences_of_some happend]
    exact ih
  | case3 c tail h ih =>
    have happend : skipSequence? (c :: (tail ++ ['\n'])) = none := by
      rw [← List.cons_append, skipSequence?_append_newline, h, Option.map_none]
    rw [List.cons_append, withoutSequences_cons happend, ih, List.cons_append]

/-! ## texts that stay -/

theorem withoutSequences_eq_self {cs : List Char} (h : ¬ HoldsSequence cs) :
    withoutSequences cs = cs := by
  induction cs with
  | nil => exact withoutSequences_nil
  | cons c cs ih =>
    have hnone : skipSequence? (c :: cs) = none := by
      by_contra hsome
      exact h ⟨c :: cs, List.suffix_rfl, hsome⟩
    rw [holdsSequence_cons hnone] at h
    rw [withoutSequences_cons hnone, ih h]

theorem length_withoutSequences_le (cs : List Char) :
    (withoutSequences cs).length ≤ cs.length := by
  fun_induction withoutSequences cs with
  | case1 => exact Nat.le_refl 0
  | case2 c tail rest h ih =>
    have := skipSequence?_length h
    omega
  | case3 c tail h ih =>
    rw [List.length_cons, List.length_cons]
    omega

theorem length_withoutSequences_lt {cs : List Char} (h : HoldsSequence cs) :
    (withoutSequences cs).length < cs.length := by
  induction cs with
  | nil => exact absurd h not_holdsSequence_nil
  | cons c cs ih =>
    cases hskip : skipSequence? (c :: cs) with
    | none =>
      rw [holdsSequence_cons hskip] at h
      have := ih h
      rw [withoutSequences_cons hskip, List.length_cons, List.length_cons]
      omega
    | some rest =>
      have hrest := skipSequence?_length hskip
      have hle := length_withoutSequences_le rest
      rw [withoutSequences_of_some hskip]
      omega

/-- exactly the texts that hold no control sequence stay as they are -/
theorem withoutSequences_eq_self_iff (cs : List Char) :
    withoutSequences cs = cs ↔ ¬ HoldsSequence cs := by
  constructor
  · intro heq hholds
    have := length_withoutSequences_lt hholds
    rw [heq] at this
    omega
  · exact withoutSequences_eq_self

/-! ## a text around a sequence -/

theorem skipSequence?_append {cs rest : List Char} (h : skipSequence? cs = some rest)
    (z : List Char) : skipSequence? (cs ++ z) = some (rest ++ z) := by
  by_cases hopen : ∃ more, cs = '\x1b' :: '[' :: more
  · obtain ⟨more, rfl⟩ := hopen
    rw [skipSequence?_open] at h
    show skipSequence? ('\x1b' :: '[' :: (more ++ z)) = _
    rw [skipSequence?_open, List.dropWhile_append]
    cases hmore : more.dropWhile isParameter with
    | nil =>
      rw [hmore] at h
      cases h
    | cons c tail =>
      rw [hmore] at h
      change (if c.isAlpha then some tail else none) = some rest at h
      show (if c.isAlpha then some (tail ++ z) else none) = _
      split at h
      · next hc =>
        cases h
        rw [if_pos hc]
      · cases h
  · rw [skipSequence?_of_ne fun more h => hopen ⟨more, h⟩] at h
    cases h

theorem HoldsSequence.append_right {cs : List Char} (h : HoldsSequence cs) (z : List Char) :
    HoldsSequence (cs ++ z) := by
  obtain ⟨s, ⟨before, rfl⟩, hsome⟩ := h
  obtain ⟨rest, hrest⟩ := Option.ne_none_iff_exists'.mp hsome
  refine ⟨s ++ z, ⟨before, (List.append_assoc ..).symm⟩, ?_⟩
  rw [skipSequence?_append hrest]
  exact Option.some_ne_none _

theorem HoldsSequence.append_left {cs : List Char} (h : HoldsSequence cs) (z : List Char) :
    HoldsSequence (z ++ cs) := by
  obtain ⟨s, hs, hsome⟩ := h
  exact ⟨s, hs.trans (List.suffix_append z cs), hsome⟩

theorem holdsSequence_ofLines {ls : List String} {l : String} (hl : l ∈ ls)
    (h : HoldsSequence l.toList) : HoldsSequence (Text.ofLines ls).toList := by
  obtain ⟨above, below, rfl⟩ := List.append_of_mem hl
  unfold Text.ofLines
  rw [String.toList_join, List.map_append, List.map_cons, List.flatMap_append, List.flatMap_cons,
    String.toList_append]
  exact ((h.append_right _).append_right _).append_left _

end DdlToJava.Console

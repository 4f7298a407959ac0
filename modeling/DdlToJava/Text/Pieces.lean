/-!
# Pieces

A text is cut into pieces at every occurrence of a separator.  There is one more piece than
separators, no piece holds the separator, and the pieces with separators between them are the text
again.
-/

namespace DdlToJava.Text

/-- put `c` in front of the first piece -/
def consPiece (c : Char) : List (List Char) → List (List Char)
  | [] => [[c]]
  | p :: ps => (c :: p) :: ps

/-- the pieces between the characters `sep` -/
def pieces (sep : Char) : List Char → List (List Char)
  | [] => [[]]
  | c :: cs => if c = sep then [] :: pieces sep cs else consPiece c (pieces sep cs)

theorem pieces_nil (sep : Char) : pieces sep [] = [[]] := rfl

theorem pieces_cons_self (sep : Char) (cs : List Char) :
    pieces sep (sep :: cs) = [] :: pieces sep cs := by
  simp [pieces]

theorem pieces_cons_of_ne {sep c : Char} (cs : List Char) (h : c ≠ sep) :
    pieces sep (c :: cs) = consPiece c (pieces sep cs) := by
  simp [pieces, h]

theorem pieces_ne_nil (sep : Char) (cs : List Char) : pieces sep cs ≠ [] := by
  cases cs with
  | nil => simp [pieces]
  | cons c cs =>
    unfold pieces
    split
    · simp
    · cases pieces sep cs <;> simp [consPiece]

theorem length_pieces (sep : Char) (cs : List Char) :
    (pieces sep cs).length = cs.count sep + 1 := by
  induction cs with
  | nil => rfl
  | cons c cs ih =>
    by_cases h : c = sep
    · rw [h, pieces_cons_self, List.length_cons, ih, List.count_cons_self]
    · rw [pieces_cons_of_ne cs h, List.count_cons_of_ne h]
      rw [← ih]
      obtain ⟨p, ps, hp⟩ := List.exists_cons_of_ne_nil (pieces_ne_nil sep cs)
      rw [hp]
      rfl

theorem not_mem_of_mem_pieces {sep : Char} {cs p : List Char} (h : p ∈ pieces sep cs) :
    sep ∉ p := by
  induction cs generalizing p with
  | nil =>
    rw [pieces_nil, List.mem_singleton] at h
    simp [h]
  | cons c cs ih =>
    by_cases hc : c = sep
    · rw [hc, pieces_cons_self] at h
      rcases List.mem_cons.mp h with rfl | h
      · simp
      · exact ih h
    · rw [pieces_cons_of_ne cs hc] at h
      obtain ⟨q, qs, hq⟩ := List.exists_cons_of_ne_nil (pieces_ne_nil sep cs)
      rw [hq] at h ih
      rcases List.mem_cons.mp h with rfl | h
      · intro hm
        rcases List.mem_cons.mp hm with rfl | hm
        · exact hc rfl
        · exact ih (List.mem_cons_self ..) hm
      · exact ih (List.mem_cons_of_mem _ h)

theorem intercalate_pieces (sep : Char) (cs : List Char) :
    [sep].intercalate (pieces sep cs) = cs := by
  induction cs with
  | nil => rfl
  | cons c cs ih =>
    obtain ⟨p, ps, hp⟩ := List.exists_cons_of_ne_nil (pieces_ne_nil sep cs)
    by_cases h : c = sep
    · rw [h, pieces_cons_self]
      rw [hp] at ih ⊢
      rw [List.intercalate_cons_cons, ih]
      rfl
    · rw [pieces_cons_of_ne cs h]
      rw [hp] at ih ⊢
      cases ps with
      | nil =>
        rw [List.intercalate_singleton] at ih
        rw [consPiece, List.intercalate_singleton, ih]
      | cons q qs =>
        rw [List.intercalate_cons_cons] at ih
        rw [consPiece, List.intercalate_cons_cons, ← ih]
        rfl

end DdlToJava.Text

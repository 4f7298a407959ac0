import DdlToJava.Proofs.Text.Reading
import DdlToJava.Text.Pieces

/-!
# Lines written as one text

`joined` writes lines with a line feed between two.  `lines_joined` reads them back: reading a text
loses an empty last line and nothing else, as long as no line has a break inside.  `joined_append`
and `joined_cons` take a written text apart at a line.
-/

namespace DdlToJava.Text

/-- no line ends inside the text -/
def NoBreak (cs : List Char) : Prop := ∀ c ∈ cs, isLineBreak c = false

instance (cs : List Char) : Decidable (NoBreak cs) :=
  inferInstanceAs (Decidable (∀ c ∈ cs, isLineBreak c = false))

theorem NoBreak.append {a b : List Char} (ha : NoBreak a) (hb : NoBreak b) : NoBreak (a ++ b) := by
  intro c hc
  rcases List.mem_append.mp hc with h | h
  · exact ha c h
  · exact hb c h

/-- lines with a line feed between two of them -/
def joined (ls : List (List Char)) : List Char := ['\n'].intercalate ls

theorem joined_nil : joined [] = [] := rfl

theorem joined_singleton (l : List Char) : joined [l] = l := List.intercalate_singleton

theorem joined_cons {l : List Char} {ls : List (List Char)} (h : ls ≠ []) :
    joined (l :: ls) = l ++ '\n' :: joined ls := by
  obtain ⟨m, ms, rfl⟩ := List.exists_cons_of_ne_nil h
  unfold joined
  rw [List.intercalate_cons_cons, List.append_assoc]
  rfl

theorem joined_append {a b : List (List Char)} (ha : a ≠ []) (hb : b ≠ []) :
    joined (a ++ b) = joined a ++ '\n' :: joined b := by
  induction a with
  | nil => exact absurd rfl ha
  | cons l a ih =>
    by_cases h : a = []
    · rw [h, joined_singleton]
      exact joined_cons hb
    · rw [List.cons_append, joined_cons (List.append_ne_nil_of_left_ne_nil h b), ih h,
        joined_cons h, List.append_assoc]
      rfl

/-- lines, each behind a line feed -/
def fed (ls : List (List Char)) : List Char := ls.flatMap ('\n' :: ·)

theorem fed_eq {ls : List (List Char)} (h : ls ≠ []) : fed ls = '\n' :: joined ls := by
  induction ls with
  | nil => exact absurd rfl h
  | cons l ls ih =>
    show '\n' :: l ++ fed ls = '\n' :: joined (l :: ls)
    by_cases h0 : ls = []
    · rw [h0, joined_singleton]
      exact List.append_nil _
    · rw [ih h0, joined_cons h0]
      rfl

theorem joined_append_fed {a : List (List Char)} (ha : a ≠ []) (b : List (List Char)) :
    joined (a ++ b) = joined a ++ fed b := by
  by_cases hb : b = []
  · rw [hb, List.append_nil]
    exact (List.append_nil _).symm
  · rw [joined_append ha hb, fed_eq hb]

/-- a written text, taken apart at the end of a line -/
theorem joined_append_cons (a : List (List Char)) (l y : List Char) (b : List (List Char)) :
    joined (a ++ (l ++ y) :: b) = joined (a ++ [l]) ++ (y ++ fed b) := by
  have hlast : joined (a ++ [l ++ y]) = joined (a ++ [l]) ++ y := by
    by_cases ha : a = []
    · rw [ha, List.nil_append, List.nil_append, joined_singleton, joined_singleton]
    · rw [joined_append ha (List.cons_ne_nil _ _), joined_append ha (List.cons_ne_nil _ _),
        joined_singleton, joined_singleton, List.append_assoc]
      rfl
  have hsplit : a ++ (l ++ y) :: b = (a ++ [l ++ y]) ++ b := by
    rw [List.append_assoc]
    rfl
  rw [hsplit, joined_append_fed (List.append_ne_nil_of_right_ne_nil a (List.cons_ne_nil _ _)),
    hlast, List.append_assoc]

theorem mem_joined {ls : List (List Char)} {c : Char} (h : c ∈ joined ls) :
    c = '\n' ∨ ∃ l ∈ ls, c ∈ l := by
  induction ls with
  | nil => cases h
  | cons l ls ih =>
    by_cases h0 : ls = []
    · rw [h0, joined_singleton] at h
      exact Or.inr ⟨l, List.mem_cons_self .., h⟩
    · rw [joined_cons h0] at h
      rcases List.mem_append.mp h with h | h
      · exact Or.inr ⟨l, List.mem_cons_self .., h⟩
      · rcases List.mem_cons.mp h with h | h
        · exact Or.inl h
        · refine (ih h).imp_right ?_
          rintro ⟨m, hm, hc⟩
          exact ⟨m, List.mem_cons_of_mem l hm, hc⟩

/-! ## the lines of a text -/

theorem lines_cons_of_not {c : Char} (h : isLineBreak c = false) (cs : List Char) :
    lines (c :: cs) = consLine c (lines cs) := by
  have hr : c ≠ '\r' := by
    rintro rfl
    cases h
  rw [lines.eq_3 c cs fun _ hc => absurd hc hr, h]
  rfl

theorem lines_of_noBreak {l : List Char} (h : NoBreak l) (hne : l ≠ []) : lines l = [l] := by
  induction l with
  | nil => exact absurd rfl hne
  | cons c l ih =>
    have hl : NoBreak l := fun d hd => h d (List.mem_cons_of_mem c hd)
    rw [lines_cons_of_not (h c (List.mem_cons_self ..))]
    by_cases h0 : l = []
    · rw [h0]
      rfl
    · rw [ih hl h0]
      rfl

theorem lines_append_newline {l : List Char} (h : NoBreak l) (cs : List Char) :
    lines (l ++ '\n' :: cs) = l :: lines cs := by
  induction l with
  | nil => exact lines.eq_3 '\n' cs fun _ hc => absurd hc (by decide)
  | cons c l ih =>
    rw [List.cons_append, lines_cons_of_not (h c (List.mem_cons_self ..)),
      ih fun d hd => h d (List.mem_cons_of_mem c hd)]
    rfl

/-- the lines of a written text are the lines that were written, but for an empty last one -/
theorem lines_joined {ls : List (List Char)} (h : ∀ l ∈ ls, NoBreak l) :
    lines (joined ls) = ls ∨ ls = lines (joined ls) ++ [[]] := by
  induction ls with
  | nil => exact Or.inl lines_nil
  | cons l ls ih =>
    have hl := h l (List.mem_cons_self ..)
    by_cases h0 : ls = []
    · rw [h0, joined_singleton]
      by_cases hl0 : l = []
      · rw [hl0, lines_nil]
        exact Or.inr rfl
      · exact Or.inl (lines_of_noBreak hl hl0)
    · rw [joined_cons h0, lines_append_newline hl]
      rcases ih fun m hm => h m (List.mem_cons_of_mem l hm) with h1 | h1
      · exact Or.inl (by rw [h1])
      · exact Or.inr (by rw [List.cons_append, ← h1])

/-! ## dropping characters -/

theorem filter_joined {p : Char → Bool} (h : p '\n' = true) (ls : List (List Char)) :
    (joined ls).filter p = joined (ls.map (·.filter p)) := by
  induction ls with
  | nil => rfl
  | cons l ls ih =>
    by_cases h0 : ls = []
    · rw [h0, joined_singleton, List.map_singleton, joined_singleton]
    · rw [joined_cons h0, List.filter_append, List.filter_cons_of_pos h, ih, List.map_cons,
        joined_cons (by rwa [ne_eq, List.map_eq_nil_iff])]

theorem NoBreak.filter {l : List Char} (h : NoBreak l) (p : Char → Bool) : NoBreak (l.filter p) :=
  fun c hc => h c (List.mem_filter.mp hc).1

/-! ## pieces -/

theorem pieces_of_not_mem {sep : Char} {w : List Char} (h : sep ∉ w) : pieces sep w = [w] := by
  induction w with
  | nil => rfl
  | cons c w ih =>
    rw [pieces_cons_of_ne w (List.ne_of_not_mem_cons h).symm, ih (List.not_mem_of_not_mem_cons h)]
    rfl

theorem pieces_append (sep : Char) (x y : List Char) :
    pieces sep (x ++ sep :: y) = pieces sep x ++ pieces sep y := by
  induction x with
  | nil => exact pieces_cons_self sep y
  | cons c x ih =>
    by_cases hc : c = sep
    · rw [hc, List.cons_append, pieces_cons_self, pieces_cons_self, ih]
      rfl
    · obtain ⟨p, ps, hp⟩ := List.exists_cons_of_ne_nil (pieces_ne_nil sep x)
      rw [List.cons_append, pieces_cons_of_ne _ hc, pieces_cons_of_ne _ hc, ih, hp]
      rfl

theorem pieces_append_sep {sep : Char} {w : List Char} (h : sep ∉ w) (x : List Char) :
    pieces sep (w ++ sep :: x) = w :: pieces sep x := by
  rw [pieces_append, pieces_of_not_mem h]
  rfl

/-- texts that were joined are cut apart again -/
theorem pieces_intercalate {sep : Char} {ps : List (List Char)} (hne : ps ≠ [])
    (h : ∀ p ∈ ps, sep ∉ p) : pieces sep ([sep].intercalate ps) = ps := by
  induction ps with
  | nil => exact absurd rfl hne
  | cons p ps ih =>
    have hp : sep ∉ p := h p (List.mem_cons_self ..)
    cases ps with
    | nil => rw [List.intercalate_singleton, pieces_of_not_mem hp]
    | cons q qs =>
      rw [List.intercalate_cons_cons, List.append_assoc, List.singleton_append,
        pieces_append_sep hp, ih (List.cons_ne_nil _ _) fun r hr => h r (List.mem_cons_of_mem p hr)]

end DdlToJava.Text

import DdlToJava.Console.Layout
import DdlToJava.Proofs.Text.Joined
import Mathlib.Data.List.Perm.Subperm

/-!
# What a console makes of a text

A console breaks lines and adds blanks, and may leave out what does not fit.  So the text that it
shows has no character but blanks and line feeds that the text had not, and none of them more often;
and it is the text itself exactly if every line stays on one row.

* `text_append_line`   text that follows the end of a line is laid out by itself;
* `text_eq_iff`        the texts that are shown as they are;
* `countP_text_le`, `mem_text`
                       where the shown characters come from;
* `keeps_ofWidth`, `cells_le_of_keeps`
                       the lines that a console of some width keeps on one row.
-/

namespace DdlToJava.Console.Layout

open Text

variable (l : Layout)

/-! ## the lines of a text -/

/-- the rows of a text -/
def allRows (s : String) : List (List Char) := (pieces '\n' s.toList).flatMap l.rows

theorem toList_text (s : String) : (l.text s).toList = joined (l.allRows s) :=
  String.toList_ofList

theorem flatMap_rows_ne_nil {lines : List (List Char)} (h : lines ≠ []) :
    lines.flatMap l.rows ≠ [] := by
  obtain ⟨line, lines, rfl⟩ := List.exists_cons_of_ne_nil h
  rw [List.flatMap_cons]
  exact List.append_ne_nil_of_left_ne_nil (l.rows_ne_nil line) _

theorem allRows_ne_nil (s : String) : l.allRows s ≠ [] :=
  l.flatMap_rows_ne_nil (pieces_ne_nil '\n' s.toList)

theorem allRows_append_line (x y : String) :
    l.allRows (x ++ "\n" ++ y) = l.allRows x ++ l.allRows y := by
  unfold allRows
  rw [String.toList_append, String.toList_append, List.append_assoc]
  show (pieces '\n' (x.toList ++ '\n' :: y.toList)).flatMap l.rows = _
  rw [pieces_append, List.flatMap_append]

theorem allRows_empty : l.allRows "" = [[]] := by
  show l.rows [] ++ [] = [[]]
  rw [l.rows_nil]
  rfl

theorem text_empty : l.text "" = "" := by
  rw [← String.toList_inj, toList_text, allRows_empty]
  rfl

/-- **text behind the end of a line is laid out by itself** -/
theorem text_append_line (x y : String) :
    l.text (x ++ "\n" ++ y) = l.text (x ++ "\n") ++ l.text y := by
  have hend : joined (l.allRows (x ++ "\n")) = joined (l.allRows x) ++ ['\n'] := by
    rw [← String.append_empty (s := x ++ "\n"), allRows_append_line, allRows_empty,
      joined_append (l.allRows_ne_nil x) (List.cons_ne_nil _ _), joined_singleton]
  rw [← String.toList_inj, String.toList_append, toList_text, toList_text, toList_text,
    allRows_append_line, joined_append (l.allRows_ne_nil x) (l.allRows_ne_nil y), hend,
    List.append_assoc]
  rfl

/-! ## where the shown characters come from -/

theorem count_flatMap_rows_le {c : Char} (hc : c ≠ ' ') (lines : List (List Char)) :
    (lines.flatMap l.rows).flatten.count c ≤ lines.flatten.count c := by
  induction lines with
  | nil => exact Nat.le_refl _
  | cons line lines ih =>
    rw [List.flatMap_cons, List.flatten_append, List.count_append, List.flatten_cons,
      List.count_append]
    exact Nat.add_le_add (l.count_rows c line hc) ih

theorem count_joined {c : Char} (hc : c ≠ '\n') (rows : List (List Char)) :
    (joined rows).count c = rows.flatten.count c := by
  induction rows with
  | nil => rfl
  | cons row rows ih =>
    by_cases h : rows = []
    · rw [h, joined_singleton, List.flatten_singleton]
    · rw [joined_cons h, List.count_append, List.count_cons_of_ne hc.symm, ih, List.flatten_cons,
        List.count_append]

theorem count_text_le {c : Char} (hblank : c ≠ ' ') (hfeed : c ≠ '\n') (s : String) :
    (l.text s).toList.count c ≤ s.toList.count c := by
  have hlines : joined (pieces '\n' s.toList) = s.toList := intercalate_pieces '\n' s.toList
  calc (l.text s).toList.count c
      = (l.allRows s).flatten.count c := by rw [toList_text, count_joined hfeed]
    _ ≤ (pieces '\n' s.toList).flatten.count c := l.count_flatMap_rows_le hblank _
    _ = s.toList.count c := by rw [← count_joined hfeed, hlines]

/-- of characters that are neither blanks nor line feeds, no more are shown than there are -/
theorem countP_text_le {p : Char → Bool} (hblank : p ' ' = false) (hfeed : p '\n' = false)
    (s : String) : (l.text s).toList.countP p ≤ s.toList.countP p := by
  have hsub : ((l.text s).toList.filter p).Subperm (s.toList.filter p) := by
    refine List.subperm_ext_iff.mpr fun c hc => ?_
    have hp := (List.mem_filter.mp hc).2
    have hne {d : Char} (hd : p d = false) : c ≠ d := by
      rintro rfl
      rw [hp] at hd
      cases hd
    rw [List.count_filter hp, List.count_filter hp]
    exact l.count_text_le (hne hblank) (hne hfeed) s
  rw [List.countP_eq_length_filter, List.countP_eq_length_filter]
  exact hsub.length_le

/-- a shown character is a blank, a line feed or one of the text -/
theorem mem_text {c : Char} {s : String} (h : c ∈ (l.text s).toList) :
    c = ' ' ∨ c = '\n' ∨ c ∈ s.toList := by
  by_cases hblank : c = ' '
  · exact Or.inl hblank
  · by_cases hfeed : c = '\n'
    · exact Or.inr (Or.inl hfeed)
    · have hcount := List.count_pos_iff.mpr h
      exact Or.inr (Or.inr (List.count_pos_iff.mp
        (hcount.trans_le (l.count_text_le hblank hfeed s))))

/-! ## the texts that are shown as they are -/

theorem not_mem_rows {line row : List Char} (hline : '\n' ∉ line) (hrow : row ∈ l.rows line) :
    '\n' ∉ row := by
  intro h
  have hcount := l.count_rows '\n' line (by decide)
  rw [List.count_eq_zero_of_not_mem hline] at hcount
  exact (List.count_pos_iff.mpr (List.mem_flatten_of_mem hrow h)).ne' (Nat.le_zero.mp hcount)

theorem pieces_text (s : String) : pieces '\n' (l.text s).toList = l.allRows s := by
  rw [toList_text]
  refine pieces_intercalate (l.allRows_ne_nil s) fun row hrow => ?_
  obtain ⟨line, hline, hrow⟩ := List.mem_flatMap.mp hrow
  exact l.not_mem_rows (not_mem_of_mem_pieces hline) hrow

theorem length_le_flatMap_rows (lines : List (List Char)) :
    lines.length ≤ (lines.flatMap l.rows).length := by
  induction lines with
  | nil => exact Nat.le_refl _
  | cons line lines ih =>
    have hrow : 0 < (l.rows line).length := List.length_pos_iff.mpr (l.rows_ne_nil line)
    rw [List.flatMap_cons, List.length_append, List.length_cons]
    omega

theorem flatMap_rows_eq_iff (lines : List (List Char)) :
    lines.flatMap l.rows = lines ↔ ∀ line ∈ lines, l.Keeps line := by
  induction lines with
  | nil => simp
  | cons line lines ih =>
    rw [List.forall_mem_cons, ← ih, List.flatMap_cons]
    constructor
    · intro h
      -- there are no rows to spare, so the first line has one
      obtain ⟨row, rows, hrows⟩ := List.exists_cons_of_ne_nil (l.rows_ne_nil line)
      have hlength := congrArg List.length h
      have hmore := l.length_le_flatMap_rows lines
      rw [hrows, List.length_append, List.length_cons, List.length_cons] at hlength
      have hnone : rows = [] := List.eq_nil_of_length_eq_zero (by omega)
      rw [hrows, hnone] at h
      obtain ⟨rfl, hrest⟩ := List.cons_eq_cons.mp h
      exact ⟨by rw [Keeps, hrows, hnone], hrest⟩
    · rintro ⟨hline, hrest⟩
      rw [hline, hrest]
      rfl

/-- **a text is shown as it is exactly if each of its lines stays on one row** -/
theorem text_eq_iff (s : String) :
    l.text s = s ↔ ∀ line ∈ pieces '\n' s.toList, l.Keeps line := by
  rw [← flatMap_rows_eq_iff]
  constructor
  · intro h
    have hpieces := l.pieces_text s
    rw [h] at hpieces
    exact hpieces.symm
  · intro h
    rw [← String.toList_inj, toList_text, allRows, h]
    exact intercalate_pieces '\n' s.toList

/-- an end of a line more or less does not matter -/
theorem text_line_eq_iff (s : String) :
    l.text (s ++ "\n") = s ++ "\n" ↔ ∀ line ∈ pieces '\n' s.toList, l.Keeps line := by
  rw [text_eq_iff, String.toList_append]
  show (∀ line ∈ pieces '\n' (s.toList ++ '\n' :: []), l.Keeps line) ↔ _
  rw [pieces_append, pieces_nil, List.forall_mem_append, List.forall_mem_singleton]
  exact and_iff_left l.rows_nil

theorem text_unbroken (s : String) : unbroken.text s = s :=
  (text_eq_iff unbroken s).mpr fun _ _ => rfl

/-! ## a console of some width -/

/-- a line that fits stays on one row -/
theorem keeps_ofWidth {width : Nat} {line : List Char} (hcells : cells line ≤ width)
    (hlength : line.length ≤ width) : (ofWidth width).Keeps line := if_pos ⟨hcells, hlength⟩

theorem cells_fitting_le {width : Nat} {row : List Char} (h : cells row ≤ width)
    (cs : List Char) : cells (fitting width row cs) ≤ width := by
  induction cs generalizing row with
  | nil => exact h
  | cons c cs ih =>
    unfold fitting
    split
    · exact h
    · exact ih (by omega)

theorem cells_cropRow_le (width : Nat) (row : List Char) : cells (cropRow width row) ≤ width := by
  unfold cropRow
  split
  · assumption
  · exact cells_fitting_le (Nat.zero_le _) _

/-- no row is longer than the console is wide -/
theorem cells_le_of_mem_rowsOf {width : Nat} {line row : List Char}
    (h : row ∈ (ofWidth width).rows line) : cells row ≤ width := by
  change row ∈ rowsOf width line at h
  unfold rowsOf at h
  split at h
  · next hfits =>
    rw [List.mem_singleton.mp h]
    exact hfits.1
  · obtain ⟨row', -, rfl⟩ := List.mem_map.mp h
    exact cells_cropRow_le width _

/-- a line that stays on one row fits -/
theorem cells_le_of_keeps {width : Nat} {line : List Char} (h : (ofWidth width).Keeps line) :
    cells line ≤ width :=
  cells_le_of_mem_rowsOf (h ▸ List.mem_singleton_self line)

end DdlToJava.Console.Layout

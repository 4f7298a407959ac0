import DdlToJava.Console.Cells
import DdlToJava.Text.Space

/-!
# Layout

A console puts a line on its rows.  What can be relied on is what `Layout` says: an empty line is an
empty row, there is a row for every line, and nothing is added but blanks.  A console of some width
breaks a line that does not fit between its words, and a word that fits on no row wherever a row is
full; white space at the end of a row is cut off where it does not fit.
-/

namespace DdlToJava.Console

open Text

/-- how a console puts a line on its rows -/
structure Layout where
  rows : List Char → List (List Char)
  rows_nil : rows [] = [[]]
  rows_ne_nil : ∀ line, rows line ≠ []
  count_rows : ∀ (c : Char) (line : List Char), c ≠ ' ' →
    (rows line).flatten.count c ≤ line.count c

namespace Layout

/-- a text as a console shows it, line by line -/
def text (l : Layout) (s : String) : String :=
  String.ofList (['\n'].intercalate ((pieces '\n' s.toList).flatMap l.rows))

/-- does the console keep a line on one row, as it is? -/
def Keeps (l : Layout) (line : List Char) : Prop := l.rows line = [line]

/-- a console without an end to its rows -/
def unbroken : Layout where
  rows line := [line]
  rows_nil := rfl
  rows_ne_nil _ := List.cons_ne_nil _ _
  count_rows c _ _ := Nat.le_of_eq (congrArg (List.count c) List.flatten_singleton)

/-! ## words -/

/-- words with the white space behind them; white space at the front is a word of its own -/
def splitWords : List Char → List (List Char)
  | [] => []
  | c :: cs =>
    match splitWords cs with
    | [] => [[c]]
    | w :: ws => if isSpace c && !w.head?.any isSpace then [c] :: w :: ws else (c :: w) :: ws

/-- words with the white space around them: the first one has it on both sides -/
def words (cs : List Char) : List (List Char) :=
  match splitWords (trimStart cs) with
  | [] => [cs]
  | w :: ws => (cs.takeWhile isSpace ++ w) :: ws

/-! ## breaking -/

/-- cut a text wherever `row` is full -/
def chop (width : Nat) (row : List Char) : List Char → List (List Char)
  | [] => [row]
  | c :: cs =>
    if row ≠ [] ∧ width < cells (row ++ [c]) then row :: chop width [c] cs
    else chop width (row ++ [c]) cs

/-- put words on rows; `row` has been begun, and takes `offset` cells -/
def fill (width : Nat) (row : List Char) (offset : Nat) : List (List Char) → List (List Char)
  | [] => [row]
  | w :: ws =>
    if offset + cells (trimEnd w) ≤ width then fill width (row ++ w) (offset + cells w) ws
    else if cells (trimEnd w) ≤ width then row :: fill width w (cells w) ws
    else
      let parts := chop width [] w
      let last := parts.getLast?.getD []
      (if row = [] then [] else [row]) ++ parts.dropLast ++ fill width last (cells last) ws

/-- a row without the white space at its end, as far as there are too many characters -/
def stripRow (width : Nat) (row : List Char) : List Char :=
  row.take (row.length - min (row.length - (trimEnd row).length) (row.length - width))

/-- go on with `row` as long as it fits -/
def fitting (width : Nat) (row : List Char) : List Char → List Char
  | [] => row
  | c :: cs => if width < cells (row ++ [c]) then row else fitting width (row ++ [c]) cs

/-- as much of a row as fits -/
def cropRow (width : Nat) (row : List Char) : List Char :=
  if cells row ≤ width then row else fitting width [] row

/-! ## what is left of a line -/

theorem flatten_splitWords (cs : List Char) : (splitWords cs).flatten = cs := by
  induction cs with
  | nil => rfl
  | cons c cs ih =>
    unfold splitWords
    split
    · next h =>
      rw [h] at ih
      rw [← ih]
      rfl
    · next w ws h =>
      rw [h] at ih
      split
      · rw [List.flatten_cons, ih]
        rfl
      · rw [List.flatten_cons, List.cons_append, ← List.flatten_cons, ih]

theorem flatten_words (cs : List Char) : (words cs).flatten = cs := by
  have hrest := flatten_splitWords (trimStart cs)
  unfold words
  split
  · exact List.flatten_singleton
  · next w ws h =>
    rw [h] at hrest
    rw [List.flatten_cons, List.append_assoc, ← List.flatten_cons, hrest]
    exact List.takeWhile_append_dropWhile

theorem flatten_chop (width : Nat) (row cs : List Char) :
    (chop width row cs).flatten = row ++ cs := by
  induction cs generalizing row with
  | nil => simp [chop]
  | cons c cs ih =>
    unfold chop
    split
    · rw [List.flatten_cons, ih]
      rfl
    · rw [ih, List.append_assoc]
      rfl

theorem chop_ne_nil (width : Nat) (row cs : List Char) : chop width row cs ≠ [] := by
  induction cs generalizing row with
  | nil => exact List.cons_ne_nil _ _
  | cons c cs ih =>
    unfold chop
    split
    · exact List.cons_ne_nil _ _
    · exact ih _

theorem flatten_fill (width : Nat) (row : List Char) (offset : Nat) (ws : List (List Char)) :
    (fill width row offset ws).flatten = row ++ ws.flatten := by
  induction ws generalizing row offset with
  | nil => simp [fill]
  | cons w ws ih =>
    unfold fill
    split
    · rw [ih, List.append_assoc]
      rfl
    · split
      · rw [List.flatten_cons, ih]
        rfl
      · -- the parts of a word that fits on no row
        have hparts := chop_ne_nil width [] w
        have hword : (chop width [] w).dropLast.flatten ++ (chop width [] w).getLast?.getD [] =
            w := by
          rw [List.getLast?_eq_some_getLast hparts, Option.getD_some, ← List.flatten_concat,
            List.dropLast_concat_getLast hparts, flatten_chop]
          rfl
        have hrow : (if row = [] then [] else [row]).flatten = row := by
          split
          · next h => exact h.symm
          · exact List.flatten_singleton
        dsimp only
        rw [List.flatten_append, List.flatten_append, ih, hrow, List.append_assoc,
          ← List.append_assoc _ _ ws.flatten, hword]
        rfl

theorem fill_ne_nil (width : Nat) (row : List Char) (offset : Nat) (ws : List (List Char)) :
    fill width row offset ws ≠ [] := by
  induction ws generalizing row offset with
  | nil => exact List.cons_ne_nil _ _
  | cons w ws ih =>
    unfold fill
    split
    · exact ih _ _
    · split
      · exact List.cons_ne_nil _ _
      · exact List.append_ne_nil_of_right_ne_nil _ (ih _ _)

theorem fitting_prefix_append (width : Nat) (row cs : List Char) :
    fitting width row cs <+: row ++ cs := by
  induction cs generalizing row with
  | nil =>
    rw [List.append_nil]
    exact List.prefix_refl row
  | cons c cs ih =>
    unfold fitting
    split
    · exact List.prefix_append _ _
    · have h := ih (row ++ [c])
      rwa [List.append_assoc] at h

theorem cropRow_stripRow_sublist (width : Nat) (row : List Char) :
    (cropRow width (stripRow width row)).Sublist row := by
  have hstrip : (stripRow width row).Sublist row := List.take_sublist _ row
  refine List.Sublist.trans ?_ hstrip
  unfold cropRow
  split
  · exact List.Sublist.refl _
  · exact (fitting_prefix_append width [] _).sublist

theorem flatten_map_sublist {f : List Char → List Char} (h : ∀ row, (f row).Sublist row)
    (rows : List (List Char)) : (rows.map f).flatten.Sublist rows.flatten := by
  induction rows with
  | nil => exact List.Sublist.refl _
  | cons row rows ih => exact (h row).append ih

/-! ## a console of some width -/

/-- the rows of a line on a console of some width -/
def rowsOf (width : Nat) (line : List Char) : List (List Char) :=
  if cells line ≤ width ∧ line.length ≤ width then [line]
  else (fill width [] 0 (words line)).map fun row => cropRow width (stripRow width row)

theorem rowsOf_nil (width : Nat) : rowsOf width [] = [[]] :=
  if_pos ⟨Nat.zero_le _, Nat.zero_le _⟩

theorem rowsOf_ne_nil (width : Nat) (line : List Char) : rowsOf width line ≠ [] := by
  unfold rowsOf
  split
  · exact List.cons_ne_nil _ _
  · exact fun h => fill_ne_nil _ _ _ _ (List.map_eq_nil_iff.mp h)

theorem flatten_rowsOf_sublist (width : Nat) (line : List Char) :
    (rowsOf width line).flatten.Sublist line := by
  unfold rowsOf
  split
  · simp only [List.flatten_singleton, List.Sublist.refl]
  · have h := flatten_map_sublist (cropRow_stripRow_sublist width) (fill width [] 0 (words line))
    rwa [flatten_fill, flatten_words] at h

/-- a console of some width -/
def ofWidth (width : Nat) : Layout where
  rows := rowsOf width
  rows_nil := rowsOf_nil width
  rows_ne_nil := rowsOf_ne_nil width
  count_rows c line _ := (flatten_rowsOf_sublist width line).count_le c

example : (ofWidth 10).text "Wrote: out/T.java\n" = "Wrote: \nout/T.java\n" := by
  decide +kernel

end Layout

end DdlToJava.Console

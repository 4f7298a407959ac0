import DdlToJava.Proofs.Ddl.Scan
import Mathlib.Algebra.Order.Ring.Int

/-!
# The depth of a line in closed form

The scan of a body goes from line to line with a state.  Here the same lines are found without one.
Of the lines that count (`countedLines`) every depth is a sum of balances:

* `depthAbove ls i`   the balances of the lines above line `i`;
* `depthAt ls i`      with the parentheses that are opened at the front of line `i`;
* `depthAfter ls i`   with the whole of line `i`.

A body is open above a line if one of these was positive on a line above (`OpenAbove`), and a line
`Closes` it that brings the depth back to zero.  The state of the scan in front of line `i` is
`stateAt ls i` (`next_visitAt` is one step), so the scan visits the lines up to the first that
closes the body, each at its depth (`visits_drop`).  `lines_eq_byDepth` puts the declarations
together.
-/

namespace DdlToJava.Ddl.Body

open Text

/-! ## the front of a line -/

/-- what may stand at the front of a line: opening parentheses with white space among them -/
def isFront (c : Char) : Bool := c = '(' || isSpace c

/-- how many parentheses are opened at the front of a line -/
def openings (line : List Char) : Nat := (line.takeWhile isFront).count '('

/-- the line behind its front -/
def behindFront (line : List Char) : List Char := line.dropWhile isFront

theorem openings_cons_of_front {c : Char} (h : isFront c = true) (cs : List Char) :
    openings (c :: cs) = openings cs + if c = '(' then 1 else 0 := by
  unfold openings
  rw [List.takeWhile_cons_of_pos h, List.count_cons]
  simp

theorem behindFront_cons_of_front {c : Char} (h : isFront c = true) (cs : List Char) :
    behindFront (c :: cs) = behindFront cs := by
  unfold behindFront
  rw [List.dropWhile_cons_of_pos h]

theorem front_cons_of_not {c : Char} (h : ¬ isFront c = true) (cs : List Char) :
    openings (c :: cs) = 0 ∧ behindFront (c :: cs) = c :: cs := by
  unfold openings behindFront
  rw [List.takeWhile_cons_of_neg h, List.dropWhile_cons_of_neg h]
  exact ⟨rfl, rfl⟩

/-- behind a first parenthesis the scan takes off the whole front -/
theorem peel_inFront (cs : List Char) : peel true cs = (openings cs, behindFront cs) := by
  induction cs with
  | nil => rfl
  | cons c cs ih =>
    by_cases hc : c = '('
    · have hfront : isFront c = true := by rw [hc]; rfl
      rw [openings_cons_of_front hfront, behindFront_cons_of_front hfront, if_pos hc, hc, peel_open,
        ih]
    · by_cases hspace : isSpace c = true
      · have hfront : isFront c = true := by simp [isFront, hspace]
        rw [openings_cons_of_front hfront, behindFront_cons_of_front hfront, if_neg hc,
          peel_blank hspace, ih]
        rfl
      · have hfront : ¬ isFront c = true := by simp [isFront, hc, hspace]
        obtain ⟨ho, hb⟩ := front_cons_of_not hfront cs
        rw [ho, hb, peel_stop hc (by simpa using hspace)]

/-- a line that does not begin with white space has its front taken off -/
theorem peel_atFront {line : List Char} (h : ∀ c ∈ line.head?, isSpace c = false) :
    peel false line = (openings line, behindFront line) := by
  cases line with
  | nil => rfl
  | cons c cs =>
    have hspace : isSpace c = false := h c rfl
    by_cases hc : c = '('
    · rw [← peel_inFront, hc, peel_open, peel_open]
    · have hfront : ¬ isFront c = true := by simp [isFront, hc, hspace]
      obtain ⟨ho, hb⟩ := front_cons_of_not hfront cs
      rw [ho, hb, peel_of_ne cs hc]

/-- nothing is closed at the front of a line -/
theorem balance_eq_openings_add (line : List Char) :
    balance line = openings line + balance (behindFront line) := by
  have hclose : ')' ∉ line.takeWhile isFront := by
    intro hmem
    cases List.mem_takeWhile_imp hmem
  have hfront : balance (line.takeWhile isFront) = openings line := by
    unfold balance openings
    rw [List.count_eq_zero.mpr hclose]
    simp
  calc balance line
      = balance (line.takeWhile isFront ++ line.dropWhile isFront) := by
        rw [List.takeWhile_append_dropWhile]
    _ = openings line + balance (behindFront line) := by
        rw [balance_append, hfront]
        rfl

/-! ## the lines that count -/

/-- a trimmed line counts if there is something on it and it is no comment -/
def Counts (line : List Char) : Prop := line ≠ [] ∧ ¬ "--".toList <+: line

instance (line : List Char) : Decidable (Counts line) :=
  inferInstanceAs (Decidable (line ≠ [] ∧ ¬ "--".toList <+: line))

theorem isIdle_eq_false_iff {line : List Char} : isIdle line = false ↔ Counts line := by
  unfold isIdle Counts
  rw [Bool.or_eq_false_iff, ← List.isPrefixOf_iff_prefix, Bool.not_eq_true]
  exact and_congr_left fun _ => by cases line <;> simp

/-- the trimmed lines of a text that count -/
def countedLines (cs : List Char) : List (List Char) :=
  ((Text.lines cs).map trim).filter fun line => Counts line

theorem visits_filter_counts (s : Depth) (ls : List (List Char)) :
    visits s (ls.filter fun line => Counts line) = visits s ls := by
  induction ls generalizing s with
  | nil => rfl
  | cons line ls ih =>
    cases hi : isIdle line with
    | true =>
      have hnot : ¬ Counts line := by
        rw [← isIdle_eq_false_iff, hi]
        exact Bool.noConfusion
      rw [List.filter_cons_of_neg (by simpa using hnot), ih, visits_idle hi]
    | false =>
      have hcounts : Counts line := isIdle_eq_false_iff.mp hi
      rw [List.filter_cons_of_pos (by simpa using hcounts)]
      cases hc : (visit s line).next.closed with
      | true => rw [visits_closed hi hc, visits_closed hi hc]
      | false => rw [visits_cons hi hc, visits_cons hi hc, ih]

/-! ## depths -/

section
variable (ls : List (List Char))

/-- line `i`; there is nothing on a line behind the last -/
def lineAt (i : Nat) : List Char := ls[i]?.getD []

/-- the depth in front of line `i` -/
def depthAbove (i : Nat) : Int := ((ls.take i).map balance).sum

/-- the depth behind the parentheses at the front of line `i` -/
def depthAt (i : Nat) : Int := depthAbove ls i + openings (lineAt ls i)

/-- the depth behind line `i` -/
def depthAfter (i : Nat) : Int := depthAbove ls (i + 1)

/-- was a parenthesis open on a line above line `i`? -/
def OpenAbove (i : Nat) : Prop := ∃ j < i, 0 < depthAt ls j ∨ 0 < depthAfter ls j

instance (i : Nat) : Decidable (OpenAbove ls i) :=
  inferInstanceAs (Decidable (∃ j < i, 0 < depthAt ls j ∨ 0 < depthAfter ls j))

/-- is nothing open any more behind line `i`? -/
def Closes (i : Nat) : Prop := OpenAbove ls (i + 1) ∧ depthAfter ls i ≤ 0

instance (i : Nat) : Decidable (Closes ls i) :=
  inferInstanceAs (Decidable (OpenAbove ls (i + 1) ∧ depthAfter ls i ≤ 0))

/-- the first line that closes the body, or else the last line -/
def lastLine : Nat := ((List.range ls.length).find? fun i => Closes ls i).getD (ls.length - 1)

/-- is line `i` one on which something can be declared? -/
def HoldsDeclaration (i : Nat) : Prop :=
  i ≤ lastLine ls ∧ (depthAt ls i = 1 ∨ (depthAt ls i = 0 ∧ ¬ OpenAbove ls i)) ∧
    (behindFront (lineAt ls i)).head? ≠ some ')'

instance (i : Nat) : Decidable (HoldsDeclaration ls i) :=
  inferInstanceAs (Decidable (_ ∧ _ ∧ _))

/-- the state of the scan in front of line `i` -/
def stateAt (i : Nat) : Depth := ⟨depthAbove ls i, decide (OpenAbove ls i)⟩

/-- what the scan sees of line `i` -/
def visitAt (i : Nat) : Visit where
  depth := depthAt ls i
  opened := decide (OpenAbove ls i)
  rest := behindFront (lineAt ls i)
  after := depthAfter ls i

end

section
variable {ls : List (List Char)} {i : Nat}

theorem lineAt_eq (hi : i < ls.length) : lineAt ls i = ls[i] := by
  unfold lineAt
  rw [List.getElem?_eq_getElem hi]
  rfl

theorem depthAbove_succ (hi : i < ls.length) :
    depthAbove ls (i + 1) = depthAbove ls i + balance (lineAt ls i) := by
  unfold depthAbove
  rw [List.take_succ_eq_append_getElem hi, List.map_append, List.sum_append, lineAt_eq hi]
  simp

theorem depthAfter_eq (hi : i < ls.length) :
    depthAfter ls i = depthAt ls i + balance (behindFront (lineAt ls i)) := by
  have hline := balance_eq_openings_add (lineAt ls i)
  unfold depthAfter depthAt
  rw [depthAbove_succ hi]
  omega

theorem openAbove_succ :
    OpenAbove ls (i + 1) ↔ OpenAbove ls i ∨ 0 < depthAt ls i ∨ 0 < depthAfter ls i := by
  constructor
  · rintro ⟨j, hj, hpos⟩
    rcases Nat.lt_succ_iff_lt_or_eq.mp hj with hlt | rfl
    · exact Or.inl ⟨j, hlt, hpos⟩
    · exact Or.inr hpos
  · rintro (⟨j, hj, hpos⟩ | hpos)
    · exact ⟨j, Nat.lt_succ_of_lt hj, hpos⟩
    · exact ⟨i, Nat.lt_succ_self i, hpos⟩

theorem closed_stateAt : (stateAt ls (i + 1)).closed = decide (Closes ls i) :=
  (Bool.decide_and (OpenAbove ls (i + 1)) (depthAfter ls i ≤ 0)).symm

/-- the scan sees line `i` as it stands in the closed form -/
theorem visit_stateAt (hi : i < ls.length) (hline : ∀ c ∈ (lineAt ls i).head?, isSpace c = false) :
    visit (stateAt ls i) (lineAt ls i) = visitAt ls i := by
  unfold visit visitAt
  rw [peel_atFront hline, depthAfter_eq hi]
  rfl

/-- one step: from the state in front of a line to the state in front of the next -/
theorem next_visitAt (i : Nat) : (visitAt ls i).next = stateAt ls (i + 1) := by
  unfold Visit.next Visit.opens visitAt stateAt
  rw [decide_eq_decide.mpr openAbove_succ, Bool.decide_or, Bool.decide_or]
  rfl

/-- the lines down to the last one are those above which no line closes the body -/
theorem le_lastLine_iff (hi : i < ls.length) : i ≤ lastLine ls ↔ ∀ j < i, ¬ Closes ls j := by
  unfold lastLine
  cases hfind : (List.range ls.length).find? fun i => Closes ls i with
  | none =>
    have hnone : ∀ j < ls.length, ¬ Closes ls j := by simpa using hfind
    have hlast : i ≤ ls.length - 1 := by omega
    exact iff_of_true hlast fun j hj => hnone j (hj.trans hi)
  | some n =>
    obtain ⟨hn, -, hfirst⟩ := List.find?_range_eq_some.mp hfind
    have hcloses : Closes ls n := by simpa using hn
    constructor
    · intro hle j hj
      simpa using hfirst j (hj.trans_le hle)
    · intro hnone
      by_contra hlt
      exact hnone n (Nat.lt_of_not_le hlt) hcloses

/-- **The run of the scan.**  As long as no line has closed the body, the scan goes on from line `i`
and visits the lines down to the last one. -/
theorem visits_drop (hls : ∀ line ∈ ls, Counts line ∧ ∀ c ∈ line.head?, isSpace c = false)
    (n : Nat) (hi : i + n = ls.length) (hopen : ∀ j < i, ¬ Closes ls j) :
    visits (stateAt ls i) (ls.drop i) =
      ((List.range' i n).filter fun j => j ≤ lastLine ls).map (visitAt ls) := by
  -- along the lines that are left; that none above has closed the body is what each step keeps
  induction n generalizing i with
  | zero =>
    rw [List.drop_of_length_le (by omega)]
    rfl
  | succ n ih =>
    have hlt : i < ls.length := by omega
    have hline : lineAt ls i = ls[i] := lineAt_eq hlt
    obtain ⟨hcounts, hspace⟩ := hls ls[i] (List.getElem_mem hlt)
    have hidle : isIdle ls[i] = false := isIdle_eq_false_iff.mpr hcounts
    have hvisit : visit (stateAt ls i) ls[i] = visitAt ls i := by
      rw [← hline] at hspace ⊢
      exact visit_stateAt hlt hspace
    have hnext : (visit (stateAt ls i) ls[i]).next = stateAt ls (i + 1) := by
      rw [hvisit, next_visitAt]
    have hle : i ≤ lastLine ls := (le_lastLine_iff hlt).mpr hopen
    rw [List.drop_eq_getElem_cons hlt, List.range'_succ,
      List.filter_cons_of_pos (by simpa using hle),
      List.map_cons]
    by_cases hcloses : Closes ls i
    · have hclosed : (visit (stateAt ls i) ls[i]).next.closed = true := by
        rw [hnext, closed_stateAt, decide_eq_true hcloses]
      -- the scan stops here, and here is the last line
      have hrest : (List.range' (i + 1) n).filter (fun j => j ≤ lastLine ls) = [] := by
        rw [List.filter_eq_nil_iff]
        intro j hj hjle
        obtain ⟨hij, hjn⟩ := List.mem_range'_1.mp hj
        exact (le_lastLine_iff (by omega)).mp (of_decide_eq_true hjle) i hij hcloses
      rw [visits_closed hidle hclosed, hvisit, hrest]
      rfl
    · have hclosed : (visit (stateAt ls i) ls[i]).next.closed = false := by
        rw [hnext, closed_stateAt, decide_eq_false hcloses]
      have hopen' : ∀ j < i + 1, ¬ Closes ls j := by
        intro j hj
        rcases Nat.lt_succ_iff_lt_or_eq.mp hj with hlt | rfl
        · exact hopen j hlt
        · exact hcloses
      rw [visits_cons hidle hclosed, hvisit, next_visitAt, ih (by omega) hopen']

theorem declaration?_visitAt (hle : i ≤ lastLine ls) :
    (visitAt ls i).declaration? =
      if HoldsDeclaration ls i then some (declaration (behindFront (lineAt ls i))) else none := by
  unfold Visit.declaration? visitAt HoldsDeclaration
  simp [hle]

/-- the declarations of visited lines -/
theorem filterMap_visitAt (is : List Nat) :
    ((is.filter fun i => i ≤ lastLine ls).map (visitAt ls)).filterMap Visit.declaration? =
      (is.filter fun i => HoldsDeclaration ls i).map fun i =>
        declaration (behindFront (lineAt ls i)) := by
  induction is with
  | nil => rfl
  | cons i is ih =>
    by_cases hle : i ≤ lastLine ls
    · rw [List.filter_cons_of_pos (by simpa using hle), List.map_cons, List.filterMap_cons,
        declaration?_visitAt hle, ih]
      by_cases hholds : HoldsDeclaration ls i
      · rw [if_pos hholds, List.filter_cons_of_pos (by simpa using hholds)]
        rfl
      · rw [if_neg hholds, List.filter_cons_of_neg (by simpa using hholds)]
    · have hholds : ¬ HoldsDeclaration ls i := fun h => hle h.1
      rw [List.filter_cons_of_neg (by simpa using hle),
        List.filter_cons_of_neg (by simpa using hholds), ih]

end

/-! ## a text -/

theorem isSpace_head_trim {l : List Char} {c : Char} (h : c ∈ (trim l).head?) :
    isSpace c = false := by
  obtain ⟨ws, hws, -⟩ := exists_trimEnd_append_blanks (trimStart l)
  have hhead : (trimStart l).head? = some c := by
    rw [hws, List.head?_append]
    show ((trim l).head?).or ws.head? = some c
    rw [Option.mem_def.mp h, Option.some_or]
  exact isSpace_head_trimStart hhead

theorem counts_of_mem_countedLines {cs line : List Char} (h : line ∈ countedLines cs) :
    Counts line ∧ ∀ c ∈ line.head?, isSpace c = false := by
  obtain ⟨hmem, hcounts⟩ := List.mem_filter.mp h
  obtain ⟨l, -, rfl⟩ := List.mem_map.mp hmem
  exact ⟨of_decide_eq_true hcounts, fun c hc => isSpace_head_trim hc⟩

/-- the scan of a text visits its counted lines down to the last one -/
theorem visitsOf_eq_byDepth (cs : List Char) :
    visitsOf cs = ((List.range (countedLines cs).length).filter
      fun i => i ≤ lastLine (countedLines cs)).map (visitAt (countedLines cs)) := by
  have hstart : stateAt (countedLines cs) 0 = {} := by
    have hnone : ¬ OpenAbove (countedLines cs) 0 := by
      rintro ⟨j, hj, -⟩
      exact Nat.not_lt_zero j hj
    unfold stateAt depthAbove
    rw [decide_eq_false hnone]
    rfl
  have hvisits : visitsOf cs =
      visits (stateAt (countedLines cs) 0) ((countedLines cs).drop 0) := by
    rw [hstart, List.drop_zero]
    exact (visits_filter_counts {} _).symm
  rw [hvisits, List.range_eq_range']
  apply visits_drop
  · exact fun line hline => counts_of_mem_countedLines hline
  · exact Nat.zero_add _
  · exact fun j hj => absurd hj (Nat.not_lt_zero j)

/-- **The lines of a body are those of depth one.**  The declarations stand, in their order, on the
lines down to the closing one that are at depth one, or at depth zero while nothing has been opened,
and whose text behind the front is not a closing parenthesis.  So once a body is open they are all
at depth one, and none stands below the line that closes it. -/
theorem lines_eq_byDepth (cs : List Char) :
    lines cs = (((List.range (countedLines cs).length).filter
        fun i => HoldsDeclaration (countedLines cs) i).map fun i =>
          ((behindFront (lineAt (countedLines cs) i)).dropWhile (· = ',')).dropWhile isSpace) ∧
      (∀ i, HoldsDeclaration (countedLines cs) i → OpenAbove (countedLines cs) i →
        depthAt (countedLines cs) i = 1) ∧
      ∀ i j, Closes (countedLines cs) j → j < i → i < (countedLines cs).length →
        ¬ HoldsDeclaration (countedLines cs) i := by
  refine ⟨?_, ?_, ?_⟩
  · rw [lines_eq_visitsOf, visitsOf_eq_byDepth]
    exact filterMap_visitAt _
  · rintro i ⟨-, hdepth, -⟩ hopen
    rcases hdepth with h1 | ⟨-, hnot⟩
    · exact h1
    · exact absurd hopen hnot
  · rintro i j hcloses hj hi ⟨hle, -⟩
    exact (le_lastLine_iff hi).mp hle j hj hcloses

example :
    let ls := countedLines "CREATE TABLE T\n(A INT,\nSTORAGE (\nB INT\n),\n, C INT)\nD INT".toList
    (List.range ls.length).filter (fun i => HoldsDeclaration ls i) = [0, 1, 2, 5] := by
  decide +kernel

end DdlToJava.Ddl.Body

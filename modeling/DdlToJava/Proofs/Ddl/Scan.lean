import DdlToJava.Ddl.Body
import DdlToJava.Proofs.Text.Joined

/-!
# The scan of a body, line by line

`Body.scan` gives the declarations only.  `Body.visits` lists what the scan sees of every line that
counts, whether it declares something or not: its depth behind the parentheses at its front,
whether a parenthesis was open before, the text behind the front, and the depth after it.

* `scan_eq_visits`   the declarations are those of the visits;
* `visits_append`    the visits of lines in two parts: the second part goes on in the state
                     `endState` that the first one leaves, unless the first one closes the body;
* `visits_opened`    once a parenthesis has been opened, it stays known;
* `visits_split`     the lines above the opening one are at depth zero or less.
-/

namespace DdlToJava.Ddl.Body

open Text

/-! ## parentheses -/

theorem peel_open (inFront : Bool) (cs : List Char) :
    peel inFront ('(' :: cs) = ((peel true cs).1 + 1, (peel true cs).2) := by
  rw [peel, if_pos rfl]

theorem peel_blank {c : Char} (h : isSpace c = true) (cs : List Char) :
    peel true (c :: cs) = peel true cs := by
  have hne : c ≠ '(' := by
    rintro rfl
    cases h
  rw [peel, if_neg hne, Bool.true_and, if_pos h]

theorem peel_stop {inFront : Bool} {c : Char} (hne : c ≠ '(') (h : (inFront && isSpace c) = false)
    (cs : List Char) : peel inFront (c :: cs) = (0, c :: cs) := by
  rw [peel, if_neg hne, if_neg (by rw [h]; exact Bool.false_ne_true)]

theorem balance_append (a b : List Char) : balance (a ++ b) = balance a + balance b := by
  unfold balance
  rw [List.count_append, List.count_append]
  omega

theorem balance_of_not_mem {cs : List Char} (ho : '(' ∉ cs) (hc : ')' ∉ cs) : balance cs = 0 := by
  unfold balance
  rw [List.count_eq_zero.mpr ho, List.count_eq_zero.mpr hc]
  rfl

theorem balance_of_blanks {ws : List Char} (h : ∀ c ∈ ws, isSpace c = true) : balance ws = 0 := by
  have hnot {k : Char} (hk : isSpace k = false) : k ∉ ws := by
    intro hm
    rw [h k hm] at hk
    cases hk
  exact balance_of_not_mem (hnot rfl) (hnot rfl)

theorem balance_trimStart (cs : List Char) : balance (trimStart cs) = balance cs := by
  obtain ⟨ws, hcs, hws⟩ := exists_blanks_append_trimStart cs
  conv => rhs; rw [hcs]
  rw [balance_append, balance_of_blanks hws, Int.zero_add]

theorem balance_trimEnd (cs : List Char) : balance (trimEnd cs) = balance cs := by
  obtain ⟨ws, hcs, hws⟩ := exists_trimEnd_append_blanks cs
  conv => rhs; rw [hcs]
  rw [balance_append, balance_of_blanks hws, Int.add_zero]

/-! ## visits -/

/-- what the scan sees of a line -/
structure Visit where
  /-- the depth behind the parentheses at the front of the line -/
  depth : Int
  /-- was a parenthesis open on a line above? -/
  opened : Bool
  /-- the text behind the parentheses at the front -/
  rest : List Char
  /-- the depth after the line -/
  after : Int
  deriving DecidableEq, Repr

/-- the visit of a line in a state -/
def visit (s : Depth) (line : List Char) : Visit where
  depth := s.depth + (peel false line).1
  opened := s.opened
  rest := (peel false line).2
  after := s.depth + (peel false line).1 + balance (peel false line).2

namespace Visit

/-- does the line open a parenthesis, or stand behind an open one? -/
def opens (v : Visit) : Bool := decide (0 < v.depth) || decide (0 < v.after)

/-- the state after the line -/
def next (v : Visit) : Depth := ⟨v.after, v.opened || v.opens⟩

/-- the declaration on the line, if its depth is right for one -/
def declaration? (v : Visit) : Option (List Char) :=
  if (v.depth = 1 ∨ (v.depth = 0 ∧ v.opened = false)) ∧ v.rest.head? ≠ some ')' then
    some (declaration v.rest)
  else none

theorem depth_of_declaration? {v : Visit} {d : List Char} (h : v.declaration? = some d) :
    v.depth = 1 ∨ (v.depth = 0 ∧ v.opened = false) := by
  unfold declaration? at h
  split at h
  · next hv => exact hv.1
  · cases h

end Visit

theorem step_eq_visit (s : Depth) (line : List Char) :
    step s line = ((visit s line).declaration?, (visit s line).next) := by
  show (_, (⟨_, s.opened || _ || _⟩ : Depth)) = (_, ⟨_, s.opened || (_ || _)⟩)
  rw [Bool.or_assoc]
  rfl

/-- the visits of trimmed lines -/
def visits (s : Depth) : List (List Char) → List Visit
  | [] => []
  | line :: rest =>
    if isIdle line then visits s rest
    else visit s line ::
      if (visit s line).next.closed then [] else visits (visit s line).next rest

/-- the state behind trimmed lines; nothing if they close the body -/
def endState (s : Depth) : List (List Char) → Option Depth
  | [] => some s
  | line :: rest =>
    if isIdle line then endState s rest
    else if (visit s line).next.closed then none else endState (visit s line).next rest

section
variable {s : Depth} {line : List Char}

theorem visits_nil (s : Depth) : visits s [] = [] := rfl

theorem visits_idle (h : isIdle line = true) (rest : List (List Char)) :
    visits s (line :: rest) = visits s rest := by
  show (if isIdle line then visits s rest else _) = _
  rw [if_pos h]

theorem visits_closed (h : isIdle line = false) (hc : (visit s line).next.closed = true)
    (rest : List (List Char)) : visits s (line :: rest) = [visit s line] := by
  show (if isIdle line then _ else visit s line ::
    if (visit s line).next.closed then [] else _) = _
  rw [h, hc]
  rfl

theorem visits_cons (h : isIdle line = false) (hc : (visit s line).next.closed = false)
    (rest : List (List Char)) :
    visits s (line :: rest) = visit s line :: visits (visit s line).next rest := by
  show (if isIdle line then _ else visit s line ::
    if (visit s line).next.closed then [] else visits (visit s line).next rest) = _
  rw [h, hc]
  rfl

theorem endState_idle (h : isIdle line = true) (rest : List (List Char)) :
    endState s (line :: rest) = endState s rest := by
  show (if isIdle line then endState s rest else _) = _
  rw [if_pos h]

theorem endState_closed (h : isIdle line = false) (hc : (visit s line).next.closed = true)
    (rest : List (List Char)) : endState s (line :: rest) = none := by
  show (if isIdle line then _ else if (visit s line).next.closed then none else _) = _
  rw [h, hc]
  rfl

theorem endState_cons (h : isIdle line = false) (hc : (visit s line).next.closed = false)
    (rest : List (List Char)) :
    endState s (line :: rest) = endState (visit s line).next rest := by
  show (if isIdle line then _ else if (visit s line).next.closed then none
    else endState (visit s line).next rest) = _
  rw [h, hc]
  rfl

end

theorem scan_eq_visits (s : Depth) (ls : List (List Char)) :
    scan s ls = (visits s ls).filterMap Visit.declaration? := by
  induction ls generalizing s with
  | nil => rfl
  | cons line ls ih =>
    cases hi : isIdle line with
    | true => rw [scan_idle s line ls hi, visits_idle hi, ih]
    | false =>
      have hs : scan s (line :: ls) = (visit s line).declaration?.toList ++
          if (visit s line).next.closed then [] else scan (visit s line).next ls := by
        rw [scan, hi, step_eq_visit]
        rfl
      rw [hs]
      cases hc : (visit s line).next.closed with
      | true =>
        rw [visits_closed hi hc, List.filterMap_cons]
        cases (visit s line).declaration? <;> rfl
      | false =>
        rw [visits_cons hi hc, List.filterMap_cons, ← ih]
        cases (visit s line).declaration? <;> rfl

theorem visits_append (s : Depth) (a b : List (List Char)) :
    visits s (a ++ b) = visits s a ++ (endState s a).elim [] fun s' => visits s' b := by
  induction a generalizing s with
  | nil => rfl
  | cons line a ih =>
    rw [List.cons_append]
    cases hi : isIdle line with
    | true => rw [visits_idle hi, visits_idle hi, endState_idle hi, ih]
    | false =>
      cases hc : (visit s line).next.closed with
      | true => rw [visits_closed hi hc, visits_closed hi hc, endState_closed hi hc]; rfl
      | false => rw [visits_cons hi hc, visits_cons hi hc, endState_cons hi hc, ih]; rfl

/-! ## idle lines -/

theorem isIdle_nil : isIdle [] = true := rfl

/-- idle lines do not show in the visits, wherever they stand -/
theorem visits_append_idle {line : List Char} (h : isIdle line = true) (s : Depth)
    (a b : List (List Char)) : visits s (a ++ line :: b) = visits s (a ++ b) := by
  rw [visits_append, visits_append]
  cases endState s a with
  | none => rfl
  | some s' => exact congrArg _ (visits_idle h b)

/-- the visits of a text -/
def visitsOf (cs : List Char) : List Visit := visits {} ((Text.lines cs).map trim)

theorem lines_eq_visitsOf (cs : List Char) :
    lines cs = (visitsOf cs).filterMap Visit.declaration? :=
  scan_eq_visits {} _

/-- the visits of a text are those of the lines that it was written from -/
theorem visitsOf_joined {ls : List (List Char)} (h : ∀ l ∈ ls, NoBreak l) :
    visitsOf (joined ls) = visits {} (ls.map trim) := by
  unfold visitsOf
  rcases lines_joined h with h1 | h1
  · rw [h1]
  · have h2 : ls.map trim = (Text.lines (joined ls)).map trim ++ [[]] :=
      (congrArg (List.map trim) h1).trans List.map_append
    rw [h2, visits_append_idle isIdle_nil, List.append_nil]

/-! ## the opening line -/

theorem visits_opened {s : Depth} (hs : s.opened = true) (ls : List (List Char)) :
    ∀ v ∈ visits s ls, v.opened = true := by
  induction ls generalizing s with
  | nil => intro v hv; cases hv
  | cons line ls ih =>
    cases hi : isIdle line with
    | true =>
      rw [visits_idle hi]
      exact ih hs
    | false =>
      have hn : (visit s line).next.opened = true := by
        show (s.opened || _) = true
        rw [hs]
        rfl
      cases hc : (visit s line).next.closed with
      | true =>
        rw [visits_closed hi hc]
        intro v hv
        rw [List.mem_singleton.mp hv]
        exact hs
      | false =>
        rw [visits_cons hi hc]
        intro v hv
        rcases List.mem_cons.mp hv with rfl | hv
        · exact hs
        · exact ih hn v hv

/-- when some line reaches a positive depth, a first one does: above it nothing is open, and below
it the scan knows that something was -/
theorem visits_split {s : Depth} (hs : s.opened = false) (ls : List (List Char))
    (h : ∃ v ∈ visits s ls, v.opens = true) :
    ∃ above v below, visits s ls = above ++ v :: below ∧ v.opens = true ∧ v.opened = false ∧
      (∀ u ∈ above, u.opens = false ∧ u.opened = false) ∧ ∀ u ∈ below, u.opened = true := by
  induction ls generalizing s with
  | nil =>
    obtain ⟨v, hv, _⟩ := h
    cases hv
  | cons line ls ih =>
    cases hi : isIdle line with
    | true =>
      rw [visits_idle hi] at h ⊢
      exact ih hs h
    | false =>
      cases ho : (visit s line).opens with
      | true =>
        have hn : (visit s line).next.opened = true := by
          show (s.opened || (visit s line).opens) = true
          rw [ho, Bool.or_true]
        cases hc : (visit s line).next.closed with
        | true =>
          rw [visits_closed hi hc]
          exact ⟨[], visit s line, [], rfl, ho, hs, List.forall_mem_nil _, List.forall_mem_nil _⟩
        | false =>
          rw [visits_cons hi hc]
          exact ⟨[], visit s line, _, rfl, ho, hs, List.forall_mem_nil _, visits_opened hn ls⟩
      | false =>
        have hn : (visit s line).next.opened = false := by
          show (s.opened || (visit s line).opens) = false
          rw [hs, ho]
          rfl
        have hc : (visit s line).next.closed = false := by
          show ((visit s line).next.opened && _) = false
          rw [hn]
          rfl
        rw [visits_cons hi hc] at h ⊢
        obtain ⟨v, hv, hvo⟩ := h
        rcases List.mem_cons.mp hv with rfl | hv
        · rw [ho] at hvo
          cases hvo
        · obtain ⟨above, w, below, he, hwo, hw, ha, hb⟩ := ih hn ⟨v, hv, hvo⟩
          refine ⟨visit s line :: above, w, below, by rw [he]; rfl, hwo, hw, ?_, hb⟩
          intro u hu
          rcases List.mem_cons.mp hu with rfl | hu
          · exact ⟨ho, hs⟩
          · exact ha u hu

end DdlToJava.Ddl.Body

import DdlToJava.Text.Keyword
import DdlToJava.Text.Lines
import DdlToJava.Text.Word
import Mathlib.Data.List.TakeWhile

/-!
# What the readers of a text read

The readers `keyword?`, `blanks?`, `symbol?` and `run?` take something off the front of a text.  The
`_eq_some` lemmas say what, as an equation between the text and its parts:

* `keyword?_eq_some`   a text that folds to the keyword, and the rest;
* `blanks?_eq_some`    a blank at the front, and the text without its blanks;
* `symbol?_eq_some`    the symbol, and the rest;
* `run?_eq_some_iff`   a run that is not empty, and a rest that does not go on with it.

From these follow the `_append` lemmas (a reader that has succeeded does not look at what comes
later) and the `_suffix` lemmas.  The last part says how blanks, words and keywords keep apart.
-/

namespace DdlToJava.Text

-- what holds of the characters of a list is decided along the list, not over all characters
instance (priority := 2000) decidableForallMem {p : Char → Prop} [DecidablePred p]
    (cs : List Char) : Decidable (∀ c ∈ cs, p c) :=
  List.decidableBAll p cs

/-! ## white space -/

theorem trimStart_suffix (cs : List Char) : trimStart cs <:+ cs := List.dropWhile_suffix _

theorem trimStart_blanks_append {ws : List Char} (h : ∀ c ∈ ws, isSpace c = true) (cs : List Char) :
    trimStart (ws ++ cs) = trimStart cs :=
  List.dropWhile_append_of_pos h

theorem trimStart_blanks {ws : List Char} (h : ∀ c ∈ ws, isSpace c = true) : trimStart ws = [] :=
  List.dropWhile_eq_nil_iff.mpr h

theorem trimStart_cons_of_not {c : Char} (h : isSpace c = false) (cs : List Char) :
    trimStart (c :: cs) = c :: cs := by
  rw [trimStart_cons, h]
  rfl

theorem trimStart_of_head {cs : List Char} (h : ∀ c, cs.head? = some c → isSpace c = false) :
    trimStart cs = cs := by
  cases cs with
  | nil => rfl
  | cons c cs => exact trimStart_cons_of_not (h c rfl) cs

theorem trimStart_append_of_ne_nil {cs : List Char} (h : trimStart cs ≠ []) (x : List Char) :
    trimStart (cs ++ x) = trimStart cs ++ x := by
  unfold trimStart at h ⊢
  rw [List.dropWhile_append, if_neg]
  rwa [List.isEmpty_iff]

theorem isSpace_head_trimStart {cs : List Char} {c : Char} (h : (trimStart cs).head? = some c) :
    isSpace c = false := by
  induction cs with
  | nil => cases h
  | cons d ds ih =>
    rw [trimStart_cons] at h
    cases hd : isSpace d with
    | true =>
      rw [hd, if_pos rfl] at h
      exact ih h
    | false =>
      rw [hd] at h
      cases h
      exact hd

theorem trimStart_trimStart (cs : List Char) : trimStart (trimStart cs) = trimStart cs := by
  cases h : trimStart cs with
  | nil => rfl
  | cons c r => exact trimStart_cons_of_not (isSpace_head_trimStart (by rw [h]; rfl)) r

/-- a text is the blanks at its front and the rest -/
theorem exists_blanks_append_trimStart (cs : List Char) :
    ∃ ws, cs = ws ++ trimStart cs ∧ ∀ c ∈ ws, isSpace c = true :=
  ⟨cs.takeWhile isSpace, List.takeWhile_append_dropWhile.symm, fun _ h => List.mem_takeWhile_imp h⟩

theorem dropEnd_append (p : Char → Bool) (a b : List Char) :
    dropEnd p (a ++ b) = if dropEnd p b = [] then dropEnd p a else a ++ dropEnd p b := by
  unfold dropEnd
  rw [List.reverse_append, List.dropWhile_append]
  by_cases h : b.reverse.dropWhile p = []
  · rw [if_pos (by rw [h]; rfl), if_pos (by rw [h]; rfl)]
  · rw [if_neg (by rwa [List.isEmpty_iff]), if_neg (by rwa [List.reverse_eq_nil_iff]),
      List.reverse_append, List.reverse_reverse]

theorem trimEnd_append_of_ne_nil {b : List Char} (h : trimEnd b ≠ []) (a : List Char) :
    trimEnd (a ++ b) = a ++ trimEnd b := by
  unfold trimEnd at h ⊢
  rw [dropEnd_append, if_neg h]

theorem trimEnd_concat_of_not {c : Char} (h : isSpace c = false) (a : List Char) :
    trimEnd (a ++ [c]) = a ++ [c] := by
  have hc : trimEnd [c] = [c] := by simp [trimEnd, dropEnd, h]
  rw [trimEnd_append_of_ne_nil (by rw [hc]; exact List.cons_ne_nil _ _), hc]

theorem trimEnd_append_of_eq {a : List Char} (h : trimEnd a = a) (b : List Char) :
    trimEnd (a ++ b) = a ++ trimEnd b := by
  show dropEnd isSpace (a ++ b) = a ++ trimEnd b
  rw [dropEnd_append]
  split
  · next hb =>
    show trimEnd a = a ++ dropEnd isSpace b
    rw [h, hb, List.append_nil]
  · rfl

theorem trimEnd_of_getLast {cs : List Char} (h : ∀ c, cs.getLast? = some c → isSpace c = false) :
    trimEnd cs = cs := by
  rcases List.eq_nil_or_concat cs with rfl | ⟨a, c, hcs⟩
  · rfl
  · rw [List.concat_eq_append] at hcs
    rw [hcs] at h ⊢
    exact trimEnd_concat_of_not (h c List.getLast?_concat) a

/-- a text is what is left without the blanks at its end, and these blanks -/
theorem exists_trimEnd_append_blanks (cs : List Char) :
    ∃ ws, cs = trimEnd cs ++ ws ∧ ∀ c ∈ ws, isSpace c = true := by
  refine ⟨(cs.reverse.takeWhile isSpace).reverse, ?_, ?_⟩
  · show cs = (cs.reverse.dropWhile isSpace).reverse ++ _
    rw [← List.reverse_append, List.takeWhile_append_dropWhile, List.reverse_reverse]
  · intro c h
    exact List.mem_takeWhile_imp (List.mem_reverse.mp h)

/-! ## keywords -/

theorem keyword?_eq_some {ks cs r : List Char} :
    keyword? ks cs = some r ↔ ∃ w, cs = w ++ r ∧ w.map foldLetter = ks := by
  induction ks generalizing cs with
  | nil =>
    rw [keyword?_nil]
    constructor
    · intro h
      cases h
      exact ⟨[], rfl, rfl⟩
    · rintro ⟨w, rfl, hw⟩
      rw [List.map_eq_nil_iff.mp hw]
      rfl
  | cons k ks ih =>
    cases cs with
    | nil =>
      constructor
      · intro h
        cases h
      · rintro ⟨w, hcs, hw⟩
        rw [(List.append_eq_nil_iff.mp hcs.symm).1] at hw
        cases hw
    | cons c cs =>
      show (if foldLetter c = k then keyword? ks cs else none) = some r ↔ _
      constructor
      · intro h
        split at h
        · next hc =>
          obtain ⟨w, rfl, hw⟩ := ih.mp h
          exact ⟨c :: w, rfl, by rw [List.map_cons, hc, hw]⟩
        · cases h
      · rintro ⟨w, hcs, hw⟩
        obtain ⟨d, w, rfl⟩ := List.exists_cons_of_ne_nil (l := w) (by rintro rfl; cases hw)
        rw [List.map_cons] at hw
        obtain ⟨hd, hw⟩ := List.cons.inj hw
        obtain ⟨hc, hr⟩ := List.cons.inj hcs
        rw [if_pos (by rw [hc]; exact hd)]
        exact ih.mpr ⟨w, hr, hw⟩

theorem keyword?_append {ks cs r : List Char} (h : keyword? ks cs = some r) (x : List Char) :
    keyword? ks (cs ++ x) = some (r ++ x) := by
  obtain ⟨w, rfl, hw⟩ := keyword?_eq_some.mp h
  exact keyword?_eq_some.mpr ⟨w, List.append_assoc .., hw⟩

theorem keyword?_suffix {ks cs r : List Char} (h : keyword? ks cs = some r) : r <:+ cs := by
  obtain ⟨w, rfl, _⟩ := keyword?_eq_some.mp h
  exact List.suffix_append w r

/-! ## white space between words -/

theorem blanks?_eq_some {cs r : List Char} :
    blanks? cs = some r ↔ (∃ c ds, cs = c :: ds ∧ isSpace c = true) ∧ r = trimStart cs := by
  cases cs with
  | nil =>
    constructor
    · intro h
      cases h
    · rintro ⟨⟨c, ds, h, _⟩, _⟩
      cases h
  | cons c cs =>
    show (if isSpace c then some (trimStart cs) else none) = some r ↔ _
    rw [trimStart_cons]
    constructor
    · intro h
      split at h
      · next hc =>
        cases h
        exact ⟨⟨c, cs, rfl, hc⟩, by rw [if_pos hc]⟩
      · cases h
    · rintro ⟨⟨d, ds, hd, hc⟩, rfl⟩
      cases hd
      rw [if_pos hc, if_pos hc]

theorem blanks?_cons_of_not {c : Char} (h : isSpace c = false) (cs : List Char) :
    blanks? (c :: cs) = none := by
  show (if isSpace c then some (trimStart cs) else none) = none
  rw [h]
  rfl

theorem blanks?_suffix {cs r : List Char} (h : blanks? cs = some r) : r <:+ cs := by
  obtain ⟨_, rfl⟩ := blanks?_eq_some.mp h
  exact trimStart_suffix cs

/-! ## symbols and runs -/

theorem symbol?_eq_some {k : Char} {cs r : List Char} : symbol? k cs = some r ↔ cs = k :: r := by
  cases cs with
  | nil =>
    constructor
    · intro h
      cases h
    · intro h
      cases h
  | cons c cs =>
    rw [symbol?_cons]
    constructor
    · intro h
      split at h
      · next hc =>
        cases h
        rw [hc]
      · cases h
    · intro h
      obtain ⟨rfl, rfl⟩ := List.cons.inj h
      rw [if_pos rfl]

theorem run?_cons_of_not {p : Char → Bool} {c : Char} (h : p c = false) (cs : List Char) :
    run? p (c :: cs) = none := by
  unfold run?
  rw [List.takeWhile_cons_of_neg (by rw [h]; exact Bool.false_ne_true)]

theorem run?_eq_none {p : Char → Bool} {cs : List Char} (h : ∀ c, cs.head? = some c → p c = false) :
    run? p cs = none := by
  cases cs with
  | nil => rfl
  | cons c cs => exact run?_cons_of_not (h c rfl) cs

/-- a run ends where the text ends or at a character that is not of its kind -/
theorem run?_boundary {p : Char → Bool} {cs w r : List Char} (h : run? p cs = some (w, r)) :
    ∀ c, r.head? = some c → p c = false := by
  obtain ⟨_, rfl, _⟩ := run?_eq_some p h
  intro c hc
  have := List.head?_dropWhile_not p cs
  rw [hc] at this
  simpa using this

theorem run?_eq_append {p : Char → Bool} {cs w r : List Char} (h : run? p cs = some (w, r)) :
    cs = w ++ r ∧ w ≠ [] ∧ ∀ c ∈ w, p c = true := by
  obtain ⟨rfl, rfl, hw⟩ := run?_eq_some p h
  exact ⟨List.takeWhile_append_dropWhile.symm, hw, fun _ hc => List.mem_takeWhile_imp hc⟩

/-- what is not of the kind of a run cannot lengthen it -/
theorem run?_append_of_boundary {p : Char → Bool} {cs w r x : List Char}
    (h : run? p cs = some (w, r)) (hx : ∀ c, x.head? = some c → p c = false) :
    run? p (cs ++ x) = some (w, r ++ x) := by
  obtain ⟨rfl, hw, inside⟩ := run?_eq_append h
  have boundary : ∀ c, (r ++ x).head? = some c → p c = false := by
    intro c hc
    cases r with
    | nil => exact hx c hc
    | cons d r => exact run?_boundary h c hc
  rw [List.append_assoc]
  exact run?_append p hw inside boundary

/-- a run of characters of `p` that is not empty -/
structure IsRun (p : Char → Bool) (cs : List Char) : Prop where
  ne : cs ≠ []
  all : ∀ c ∈ cs, p c = true

section
variable {p : Char → Bool} {cs w r : List Char}

theorem IsRun.head (h : IsRun p w) {c : Char} {x : List Char} (hc : (w ++ x).head? = some c) :
    p c = true := by
  obtain ⟨d, ds, rfl⟩ := List.exists_cons_of_ne_nil h.ne
  cases hc
  exact h.all c (List.mem_cons_self ..)

theorem run?_eq_some_iff : run? p cs = some (w, r) ↔
    cs = w ++ r ∧ IsRun p w ∧ ∀ c, r.head? = some c → p c = false := by
  constructor
  · intro h
    obtain ⟨hcs, hne, hall⟩ := run?_eq_append h
    exact ⟨hcs, ⟨hne, hall⟩, run?_boundary h⟩
  · rintro ⟨rfl, hw, hr⟩
    exact run?_append p hw.ne hw.all hr

theorem blanks?_append (h : IsRun isSpace w) (x : List Char) :
    blanks? (w ++ x) = some (trimStart x) := by
  obtain ⟨c, ds, rfl⟩ := List.exists_cons_of_ne_nil h.ne
  have hc : isSpace c = true := h.all c (List.mem_cons_self ..)
  exact blanks?_eq_some.mpr ⟨⟨c, ds ++ x, rfl, hc⟩, (trimStart_blanks_append h.all x).symm⟩

/-- white space that is read is white space in the text -/
theorem exists_run_of_blanks? (h : blanks? cs = some r) :
    ∃ gap, IsRun isSpace gap ∧ cs = gap ++ r := by
  obtain ⟨⟨c, ds, rfl, hc⟩, rfl⟩ := blanks?_eq_some.mp h
  obtain ⟨ws, hws, hblank⟩ := exists_blanks_append_trimStart ds
  refine ⟨c :: ws, ⟨List.cons_ne_nil c ws, ?_⟩, ?_⟩
  · intro d hd
    rcases List.mem_cons.mp hd with rfl | hd
    · exact hc
    · exact hblank d hd
  · rw [trimStart_cons, if_pos hc, List.cons_append, ← hws]

end

end DdlToJava.Text

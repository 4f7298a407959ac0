import DdlToJava.Proofs.Text.Tail
import DdlToJava.Text.Pieces

/-!
# Runs of white space

`squeeze` makes one space of every run of white space.  Two texts with the same `squeeze` differ in
the kind and the number of their blanks only.

The readers of keywords, words and symbols do not see the difference: what they read from the
squeezed text is what they read from the text, with the rest squeezed (the `_squeeze` lemmas).  The
same holds of the search for the first place where a reader succeeds (`findFirst?_squeeze`), and of
cutting a text into pieces and trimming them.
-/

namespace DdlToJava.Text

/-- a space in front of a text, unless it begins with one -/
def spaced : List Char → List Char
  | [] => [' ']
  | c :: cs => if c = ' ' then c :: cs else ' ' :: c :: cs

/-- the text with one space for every run of white space -/
def squeeze : List Char → List Char
  | [] => []
  | c :: cs => if isSpace c then spaced (squeeze cs) else c :: squeeze cs

section
variable {c d : Char} {cs : List Char}

theorem squeeze_nil : squeeze [] = [] := rfl

theorem squeeze_cons_of_not (h : isSpace c = false) (cs : List Char) :
    squeeze (c :: cs) = c :: squeeze cs := by
  rw [squeeze, h]
  rfl

theorem squeeze_cons_of_space (h : isSpace c = true) (cs : List Char) :
    squeeze (c :: cs) = spaced (squeeze cs) := by
  rw [squeeze, if_pos h]

theorem spaced_cons_of_ne (h : c ≠ ' ') (cs : List Char) : spaced (c :: cs) = ' ' :: c :: cs := by
  rw [spaced, if_neg h]

theorem ne_space_of_not (h : isSpace c = false) : c ≠ ' ' := by
  rintro rfl
  cases h

/-- a run of blanks becomes one space -/
theorem squeeze_blank (h : isSpace c = true) (cs : List Char) :
    squeeze (c :: cs) = ' ' :: squeeze (trimStart cs) := by
  induction cs generalizing c with
  | nil => rw [squeeze_cons_of_space h]; rfl
  | cons d cs ih =>
    rw [squeeze_cons_of_space h, trimStart_cons]
    cases hd : isSpace d with
    | true => rw [ih hd, if_pos rfl]; rfl
    | false =>
      rw [squeeze_cons_of_not hd, spaced_cons_of_ne (ne_space_of_not hd), if_neg Bool.false_ne_true,
        squeeze_cons_of_not hd]

theorem squeeze_append_congr {x y : List Char} (h : squeeze x = squeeze y) (a : List Char) :
    squeeze (a ++ x) = squeeze (a ++ y) := by
  induction a with
  | nil => exact h
  | cons c a ih =>
    cases hc : isSpace c with
    | true => rw [List.cons_append, List.cons_append, squeeze_cons_of_space hc, ih,
        squeeze_cons_of_space hc]
    | false => rw [List.cons_append, List.cons_append, squeeze_cons_of_not hc, ih,
        squeeze_cons_of_not hc]

/-- all blanks are alike -/
theorem squeeze_space_congr (hc : isSpace c = true) (hd : isSpace d = true) (cs : List Char) :
    squeeze (c :: cs) = squeeze (d :: cs) := by
  rw [squeeze_blank hc, squeeze_blank hd]

/-- blanks behind a blank do not count -/
theorem squeeze_blank_blanks {ws : List Char} (h : isSpace c = true)
    (hws : ∀ d ∈ ws, isSpace d = true) (cs : List Char) :
    squeeze (c :: (ws ++ cs)) = squeeze (c :: cs) := by
  rw [squeeze_blank h, squeeze_blank h, trimStart_blanks_append hws]

/-- blanks in front of a blank do not count -/
theorem squeeze_blanks_blank {ws : List Char} (h : isSpace c = true)
    (hws : ∀ d ∈ ws, isSpace d = true) (cs : List Char) :
    squeeze (ws ++ c :: cs) = squeeze (c :: cs) := by
  cases ws with
  | nil => rfl
  | cons d ws =>
    have hd := hws d (List.mem_cons_self ..)
    have hrest : ∀ e ∈ ws ++ [c], isSpace e = true := by
      intro e he
      rcases List.mem_append.mp he with he | he
      · exact hws e (List.mem_cons_of_mem d he)
      · rw [List.mem_singleton.mp he]
        exact h
    have hcat : ws ++ c :: cs = (ws ++ [c]) ++ cs := by simp
    rw [List.cons_append, hcat, squeeze_blank_blanks hd hrest, squeeze_space_congr hd h]

/-! ## readers -/

theorem trimStart_squeeze (cs : List Char) : trimStart (squeeze cs) = squeeze (trimStart cs) := by
  -- what is trimmed does not begin with a blank, squeezed or not
  have hsolid : ∀ cs, trimStart (squeeze (trimStart cs)) = squeeze (trimStart cs) := by
    intro cs
    cases h : trimStart cs with
    | nil => rfl
    | cons c r =>
      have hhead : (trimStart cs).head? = some c := by rw [h]; rfl
      have hc : isSpace c = false := isSpace_head_trimStart hhead
      rw [squeeze_cons_of_not hc, trimStart_cons_of_not hc]
  cases cs with
  | nil => rfl
  | cons c cs =>
    rw [trimStart_cons]
    cases hc : isSpace c with
    | true =>
      rw [squeeze_blank hc, if_pos rfl, trimStart_cons, if_pos (by decide)]
      exact hsolid cs
    | false =>
      rw [squeeze_cons_of_not hc, trimStart_cons_of_not hc, if_neg Bool.false_ne_true,
        squeeze_cons_of_not hc]

theorem keyword?_squeeze {ks : List Char} (hks : ∀ k ∈ ks, k.isLower = true) (cs : List Char) :
    keyword? ks (squeeze cs) = (keyword? ks cs).map squeeze := by
  induction ks generalizing cs with
  | nil =>
    rw [keyword?_nil, keyword?_nil]
    rfl
  | cons k ks ih =>
    have hk : k.isLower = true := hks k (List.mem_cons_self ..)
    have ih := ih fun j hj => hks j (List.mem_cons_of_mem k hj)
    cases cs with
    | nil => rfl
    | cons c cs =>
      cases hc : isSpace c with
      | true =>
        have hspace : isSpace ' ' = true := by decide
        rw [squeeze_blank hc, keyword?_blank hspace hk, keyword?_blank hc hk]
        rfl
      | false =>
        rw [squeeze_cons_of_not hc, keyword?, keyword?, ih]
        split
        · rfl
        · rfl

theorem blanks?_squeeze (cs : List Char) : blanks? (squeeze cs) = (blanks? cs).map squeeze := by
  cases cs with
  | nil => rfl
  | cons c cs =>
    cases hc : isSpace c with
    | true =>
      have hspace : isSpace ' ' = true := by decide
      rw [squeeze_blank hc, blanks?, blanks?, if_pos hspace, if_pos hc, trimStart_squeeze,
        trimStart_trimStart]
      rfl
    | false =>
      rw [squeeze_cons_of_not hc, blanks?_cons_of_not hc, blanks?_cons_of_not hc]
      rfl

theorem symbol?_squeeze {k : Char} (hk : isSpace k = false) (cs : List Char) :
    symbol? k (squeeze cs) = (symbol? k cs).map squeeze := by
  have hne : ∀ d, isSpace d = true → d ≠ k := by
    rintro d hd rfl
    rw [hd] at hk
    cases hk
  cases cs with
  | nil => rfl
  | cons c cs =>
    cases hc : isSpace c with
    | true =>
      rw [squeeze_blank hc, symbol?_cons, symbol?_cons, if_neg (hne ' ' (by decide)),
        if_neg (hne c hc)]
      rfl
    | false =>
      rw [squeeze_cons_of_not hc, symbol?_cons, symbol?_cons]
      split
      · rfl
      · rfl

end

/-! ## runs -/

section
variable {p : Char → Bool}

/-- a run that stops at blanks -/
theorem run?_squeeze (hp : ∀ c, isSpace c = true → p c = false) (cs : List Char) :
    run? p (squeeze cs) = (run? p cs).map fun x => (x.1, squeeze x.2) := by
  have hsplit : (squeeze cs).takeWhile p = cs.takeWhile p ∧
      (squeeze cs).dropWhile p = squeeze (cs.dropWhile p) := by
    induction cs with
    | nil => exact ⟨rfl, rfl⟩
    | cons c cs ih =>
      cases hc : isSpace c with
      | true => simp [squeeze_blank hc, hp c hc, hp ' ' (by decide)]
      | false =>
        rw [squeeze_cons_of_not hc]
        cases hpc : p c with
        | true => simp [hpc, ih.1, ih.2]
        | false => simp [hpc, squeeze_cons_of_not hc]
  unfold run?
  rw [hsplit.1, hsplit.2]
  cases cs.takeWhile p with
  | nil => rfl
  | cons c w => rfl

theorem squeeze_eq_nil {cs : List Char} : squeeze cs = [] ↔ cs = [] := by
  cases cs with
  | nil => exact Iff.rfl
  | cons c cs =>
    cases hc : isSpace c with
    | true => simp [squeeze_blank hc]
    | false => simp [squeeze_cons_of_not hc]

/-- a run that takes blanks along -/
theorem run?_squeeze_of_space (hp : ∀ c, isSpace c = true → p c = true) (cs : List Char) :
    run? p (squeeze cs) = (run? p cs).map fun x => (squeeze x.1, squeeze x.2) := by
  have hspace : p ' ' = true := hp ' ' (by decide)
  have hspaced : ∀ x, (spaced x).takeWhile p = spaced (x.takeWhile p) ∧
      (spaced x).dropWhile p = x.dropWhile p := by
    intro x
    cases x with
    | nil => simp [spaced, hspace]
    | cons c x =>
      by_cases hc : c = ' '
      · simp [spaced, hc, hspace]
      · rw [spaced_cons_of_ne hc]
        cases hpc : p c with
        | true => simp [hspace, hpc, spaced, hc]
        | false => simp [hspace, hpc, spaced]
  have hsplit : (squeeze cs).takeWhile p = squeeze (cs.takeWhile p) ∧
      (squeeze cs).dropWhile p = squeeze (cs.dropWhile p) := by
    induction cs with
    | nil => exact ⟨rfl, rfl⟩
    | cons c cs ih =>
      cases hc : isSpace c with
      | true =>
        rw [squeeze_cons_of_space hc, (hspaced _).1, (hspaced _).2, ih.1, ih.2,
          List.takeWhile_cons_of_pos (hp c hc), List.dropWhile_cons_of_pos (hp c hc),
          squeeze_cons_of_space hc]
        exact ⟨rfl, rfl⟩
      | false =>
        rw [squeeze_cons_of_not hc]
        cases hpc : p c with
        | true => simp [hpc, ih.1, ih.2, squeeze_cons_of_not hc]
        | false => simp [hpc, squeeze_nil, squeeze_cons_of_not hc]
  unfold run?
  rw [hsplit.1, hsplit.2]
  cases htake : cs.takeWhile p with
  | nil => rfl
  | cons c w =>
    obtain ⟨d, x, hd⟩ := List.exists_cons_of_ne_nil
      (mt squeeze_eq_nil.mp (List.cons_ne_nil c w))
    rw [hd]
    simp [hd]

end

theorem word?_squeeze (cs : List Char) :
    word? (squeeze cs) = (word? cs).map fun x => (x.1, squeeze x.2) :=
  run?_squeeze (fun _ h => isWord_of_isSpace h) cs

/-! ## the search -/

/-- a search for something that does not begin with a blank -/
theorem findFirst?_squeeze {α : Type} {read : List Char → Option α} {f : α → α}
    (hblank : ∀ c cs, isSpace c = true → read (c :: cs) = none)
    (hread : ∀ cs, read (squeeze cs) = (read cs).map f) (cs : List Char) :
    findFirst? read (squeeze cs) = (findFirst? read cs).map f := by
  have hskip : ∀ c cs, isSpace c = true → findFirst? read (c :: cs) = findFirst? read cs := by
    intro c cs hc
    rw [findFirst?_cons, hblank c cs hc, Option.none_or]
  have hspaced : ∀ x, findFirst? read (spaced x) = findFirst? read x := by
    intro x
    cases x with
    | nil => exact hskip ' ' [] (by decide)
    | cons c x =>
      by_cases hc : c = ' '
      · rw [spaced, if_pos hc]
      · rw [spaced_cons_of_ne hc, hskip ' ' (c :: x) (by decide)]
  induction cs with
  | nil => exact hread []
  | cons c cs ih =>
    cases hc : isSpace c with
    | true => rw [squeeze_cons_of_space hc, hspaced, ih, hskip c cs hc]
    | false =>
      have hc' := hread (c :: cs)
      rw [squeeze_cons_of_not hc] at hc' ⊢
      rw [findFirst?_cons, hc', ih, findFirst?_cons, Option.map_or]

/-! ## pieces -/

theorem trimEnd_cons (c : Char) (cs : List Char) :
    trimEnd (c :: cs) =
      if trimEnd cs = [] then (if isSpace c then [] else [c]) else c :: trimEnd cs := by
  have hc : trimEnd [c] = if isSpace c then [] else [c] := by
    cases h : isSpace c <;> simp [trimEnd, dropEnd, h]
  rw [← hc]
  exact dropEnd_append isSpace [c] cs

theorem trimEnd_spaced (cs : List Char) :
    trimEnd (spaced cs) = if trimEnd cs = [] then [] else spaced (trimEnd cs) := by
  have hspace : isSpace ' ' = true := by decide
  cases cs with
  | nil => simp [spaced, trimEnd_cons, hspace, show trimEnd [] = [] from rfl]
  | cons c cs =>
    by_cases hc : c = ' '
    · rw [spaced, if_pos hc, hc, trimEnd_cons, if_pos hspace]
      by_cases h : trimEnd cs = []
      · simp [h]
      · simp [h, spaced]
    · rw [spaced_cons_of_ne hc, trimEnd_cons ' ', if_pos hspace]
      split
      · rfl
      · next h =>
        rw [trimEnd_cons] at h ⊢
        split at h
        · next h0 =>
          rw [if_pos h0]
          split at h
          · exact absurd rfl h
          · next hs => rw [if_neg hs, spaced_cons_of_ne hc]
        · next h0 => rw [if_neg h0, spaced_cons_of_ne hc]

theorem trimEnd_squeeze (cs : List Char) : trimEnd (squeeze cs) = squeeze (trimEnd cs) := by
  induction cs with
  | nil => rfl
  | cons c cs ih =>
    cases hc : isSpace c with
    | true =>
      rw [squeeze_cons_of_space hc, trimEnd_spaced, ih, trimEnd_cons, if_pos hc]
      by_cases h : trimEnd cs = []
      · rw [if_pos h, if_pos (by rw [h]; rfl), squeeze_nil]
      · rw [if_neg h, if_neg (mt squeeze_eq_nil.mp h), squeeze_cons_of_space hc]
    | false =>
      have hc' : ¬ isSpace c = true := by rw [hc]; exact Bool.false_ne_true
      rw [squeeze_cons_of_not hc, trimEnd_cons, trimEnd_cons, ih, if_neg hc']
      by_cases h : trimEnd cs = []
      · rw [if_pos h, if_pos (by rw [h]; rfl), squeeze_cons_of_not hc, squeeze_nil]
      · rw [if_neg h, if_neg (mt squeeze_eq_nil.mp h), squeeze_cons_of_not hc]

theorem trim_squeeze (cs : List Char) : trim (squeeze cs) = squeeze (trim cs) := by
  unfold trim
  rw [trimStart_squeeze, trimEnd_squeeze]

/-- only a text without blanks is squeezed to a text without blanks -/
theorem squeeze_eq_iff {cs w : List Char} (hw : ∀ c ∈ w, isSpace c = false) :
    squeeze cs = w ↔ cs = w := by
  induction cs generalizing w with
  | nil => exact Iff.rfl
  | cons c cs ih =>
    cases hc : isSpace c with
    | true =>
      rw [squeeze_blank hc]
      refine iff_of_false ?_ ?_
      · rintro rfl
        exact absurd (hw ' ' (List.mem_cons_self ..)) (by decide)
      · rintro rfl
        rw [hw c (List.mem_cons_self ..)] at hc
        cases hc
    | false =>
      rw [squeeze_cons_of_not hc]
      cases w with
      | nil => simp
      | cons d w =>
        rw [List.cons.injEq, List.cons.injEq, ih fun e he => hw e (List.mem_cons_of_mem d he)]

/-- a space in front of the text is a space in front of its first piece -/
theorem pieces_spaced {sep : Char} (hsep : sep ≠ ' ') (cs : List Char) :
    pieces sep (spaced cs) = (pieces sep cs).modifyHead spaced := by
  have hcons : ∀ x, pieces sep (' ' :: x) = consPiece ' ' (pieces sep x) := fun x =>
    pieces_cons_of_ne x hsep.symm
  cases cs with
  | nil => rw [spaced, hcons]; rfl
  | cons c cs =>
    obtain ⟨q, qs, hq⟩ := List.exists_cons_of_ne_nil (pieces_ne_nil sep cs)
    by_cases hc : c = ' '
    · rw [spaced, if_pos hc, hc, hcons, hq]
      rfl
    · rw [spaced_cons_of_ne hc, hcons]
      by_cases hs : c = sep
      · rw [hs, pieces_cons_self]
        rfl
      · rw [pieces_cons_of_ne cs hs, hq]
        show (' ' :: c :: q) :: qs = spaced (c :: q) :: qs
        rw [spaced_cons_of_ne hc]

theorem pieces_squeeze {sep : Char} (hsep : isSpace sep = false) (cs : List Char) :
    pieces sep (squeeze cs) = (pieces sep cs).map squeeze := by
  induction cs with
  | nil => rfl
  | cons c cs ih =>
    obtain ⟨q, qs, hq⟩ := List.exists_cons_of_ne_nil (pieces_ne_nil sep cs)
    cases hc : isSpace c with
    | true =>
      have hne : c ≠ sep := by
        rintro rfl
        rw [hc] at hsep
        cases hsep
      rw [squeeze_cons_of_space hc, pieces_spaced (ne_space_of_not hsep), ih,
        pieces_cons_of_ne cs hne, hq]
      show spaced (squeeze q) :: qs.map squeeze = squeeze (c :: q) :: qs.map squeeze
      rw [squeeze_cons_of_space hc]
    | false =>
      rw [squeeze_cons_of_not hc]
      by_cases hs : c = sep
      · rw [hs, pieces_cons_self, pieces_cons_self, ih]
        rfl
      · rw [pieces_cons_of_ne _ hs, pieces_cons_of_ne cs hs, ih, hq]
        show (c :: squeeze q) :: qs.map squeeze = squeeze (c :: q) :: qs.map squeeze
        rw [squeeze_cons_of_not hc]

end DdlToJava.Text

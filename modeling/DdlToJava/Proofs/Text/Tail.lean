import DdlToJava.Proofs.Text.Search
import DdlToJava.Text.Digit

/-!
# Reading in front of a tail

A reader of words does not notice what comes behind a blank.  `Apart w` says that `w` is empty or
begins with a blank; then `keyword?`, `run?` and `symbol?` read from `cs ++ w` what they read from
`cs`, and leave `w` behind (the `_apart` lemmas).

White space is the exception: `trimStart` and `blanks?` run into the tail when `cs` ends in blanks.
A `Remark` is a tail whose first other character is a dash, as a comment has it, or that has none.
No reader of a column accepts a dash, so with a remark the blanks do not matter either (the
`_remark` lemmas).
-/

namespace DdlToJava.Text

/-! ## tails that begin with a blank -/

/-- the text is empty or begins with a blank -/
def Apart (w : List Char) : Prop := ∀ c, w.head? = some c → isSpace c = true

theorem Apart.nil : Apart [] := fun _ h => nomatch h

theorem Apart.cons {c : Char} (h : isSpace c = true) (w : List Char) : Apart (c :: w) := by
  intro d hd
  cases hd
  exact h

theorem Apart.endsWord {w : List Char} (h : Apart w) : EndsWord w := fun c hc =>
  isWord_of_isSpace (h c hc)

theorem isSpace_of_isDigit {c : Char} (h : isDigit c = true) : isSpace c = false := by
  cases hs : isSpace c with
  | false => rfl
  | true =>
    have hall : ∀ n ∈ spaceCodes, isDigit (Char.ofNat n) = false := by decide +kernel
    have hc := hall c.toNat (mem_spaceCodes hs)
    rw [Char.ofNat_toNat, h] at hc
    cases hc

theorem isDigit_of_isSpace {c : Char} (h : isSpace c = true) : isDigit c = false := by
  cases hd : isDigit c with
  | false => rfl
  | true =>
    rw [isSpace_of_isDigit hd] at h
    cases h

theorem keyword?_apart {ks w : List Char} (hks : ∀ k ∈ ks, k.isLower = true) (hw : Apart w)
    (cs : List Char) : keyword? ks (cs ++ w) = (keyword? ks cs).map (· ++ w) := by
  induction ks generalizing cs with
  | nil =>
    rw [keyword?_nil, keyword?_nil]
    rfl
  | cons k ks ih =>
    cases cs with
    | nil =>
      cases w with
      | nil => rfl
      | cons c w =>
        exact keyword?_blank (hw c rfl) (hks k (List.mem_cons_self ..)) ks w
    | cons c cs =>
      show (if foldLetter c = k then keyword? ks (cs ++ w) else none) =
        (if foldLetter c = k then keyword? ks cs else none).map (· ++ w)
      rw [ih fun k' h' => hks k' (List.mem_cons_of_mem k h')]
      split
      · rfl
      · rfl

theorem run?_apart {p : Char → Bool} {w : List Char} (hp : ∀ c, isSpace c = true → p c = false)
    (hw : Apart w) (cs : List Char) :
    run? p (cs ++ w) = (run? p cs).map fun x => (x.1, x.2 ++ w) := by
  have hb : ∀ c, w.head? = some c → p c = false := fun c hc => hp c (hw c hc)
  cases h : run? p cs with
  | some x => exact run?_append_of_boundary h hb
  | none =>
    apply run?_eq_none
    intro c hc
    cases cs with
    | nil => exact hb c hc
    | cons d cs =>
      cases hc
      cases hd : p c with
      | false => rfl
      | true =>
        unfold run? at h
        rw [List.takeWhile_cons_of_pos hd] at h
        cases h

theorem word?_apart {w : List Char} (hw : Apart w) (cs : List Char) :
    word? (cs ++ w) = (word? cs).map fun x => (x.1, x.2 ++ w) :=
  run?_apart (fun _ h => isWord_of_isSpace h) hw cs

theorem symbol?_apart {k : Char} {w : List Char} (hk : isSpace k = false) (hw : Apart w)
    (cs : List Char) : symbol? k (cs ++ w) = (symbol? k cs).map (· ++ w) := by
  cases cs with
  | nil =>
    cases w with
    | nil => rfl
    | cons c w =>
      show (if c = k then some w else none) = none
      rw [if_neg]
      rintro rfl
      rw [hw c rfl] at hk
      cases hk
  | cons c cs =>
    show (if c = k then some (cs ++ w) else none) = (if c = k then some cs else none).map (· ++ w)
    split
    · rfl
    · rfl

theorem trimStart_append_of_nil {cs : List Char} (h : trimStart cs = []) (w : List Char) :
    trimStart (cs ++ w) = trimStart w := by
  obtain ⟨ws, hws, hb⟩ := exists_blanks_append_trimStart cs
  rw [h, List.append_nil] at hws
  rw [hws]
  exact trimStart_blanks_append hb w

/-- blanks in front of something else end in front of the tail -/
theorem blanks?_apart {w cs : List Char} (h : trimStart cs ≠ []) :
    blanks? (cs ++ w) = (blanks? cs).map (· ++ w) := by
  cases cs with
  | nil => exact absurd rfl h
  | cons c cs =>
    rw [trimStart_cons] at h
    show (if isSpace c then some (trimStart (cs ++ w)) else none) =
      (if isSpace c then some (trimStart cs) else none).map (· ++ w)
    split
    · next hc =>
      rw [if_pos hc] at h
      rw [trimStart_append_of_ne_nil h]
      rfl
    · rfl

/-! ## remarks -/

/-- the text is blank, or its first character behind at least one blank is a dash -/
structure Remark (w : List Char) : Prop where
  apart : Apart w
  dash : ∀ c, (trimStart w).head? = some c → c = '-'

theorem Remark.of_blanks {w : List Char} (h : ∀ c ∈ w, isSpace c = true) : Remark w where
  apart c hc := h c (List.mem_of_head? hc)
  dash c hc := by
    rw [trimStart_blanks h] at hc
    cases hc

theorem Remark.of_dash {ws : List Char} (h : ∀ c ∈ ws, isSpace c = true) (hne : ws ≠ [])
    (z : List Char) : Remark (ws ++ '-' :: z) where
  apart c hc := by
    obtain ⟨d, ds, rfl⟩ := List.exists_cons_of_ne_nil hne
    cases hc
    exact h c (List.mem_cons_self ..)
  dash c hc := by
    rw [trimStart_blanks_append h, trimStart_cons_of_not rfl] at hc
    cases hc
    rfl

section
variable {w : List Char}

/-- the text in front of a remark is trimmed as without it, or is blank -/
theorem trimStart_remark (w cs : List Char) :
    (trimStart cs = [] ∧ trimStart (cs ++ w) = trimStart w) ∨
      (trimStart cs ≠ [] ∧ trimStart (cs ++ w) = trimStart cs ++ w) := by
  by_cases h : trimStart cs = []
  · exact Or.inl ⟨h, trimStart_append_of_nil h w⟩
  · exact Or.inr ⟨h, trimStart_append_of_ne_nil h w⟩

theorem symbol?_dash {k : Char} (hk : k ≠ '-') (hw : Remark w) :
    symbol? k (trimStart w) = none := by
  cases h : trimStart w with
  | nil => rfl
  | cons c cs =>
    have hc : c = '-' := hw.dash c (by rw [h]; rfl)
    rw [symbol?_cons, if_neg (by rw [hc]; exact hk.symm)]

theorem run?_dash {p : Char → Bool} (hp : p '-' = false) (hw : Remark w) :
    run? p (trimStart w) = none := by
  apply run?_eq_none
  intro c hc
  rw [hw.dash c hc]
  exact hp

theorem keyword?_dash {k : Char} (hk : k ≠ '-') (ks : List Char) (hw : Remark w) :
    keyword? (k :: ks) (trimStart w) = none := by
  cases h : trimStart w with
  | nil => rfl
  | cons c cs =>
    have hc : c = '-' := hw.dash c (by rw [h]; rfl)
    show (if foldLetter c = k then keyword? ks cs else none) = none
    rw [if_neg (by rw [hc]; exact hk.symm)]

theorem symbol?_remark {k : Char} (hk : k ≠ '-') (hs : isSpace k = false) (hw : Remark w)
    (cs : List Char) :
    symbol? k (trimStart (cs ++ w)) = (symbol? k (trimStart cs)).map (· ++ w) := by
  rcases trimStart_remark w cs with ⟨h, hcs⟩ | ⟨_, hcs⟩
  · rw [h, hcs, symbol?_dash hk hw]
    rfl
  · rw [hcs, symbol?_apart hs hw.apart]

theorem run?_remark {p : Char → Bool} (hp : ∀ c, isSpace c = true → p c = false)
    (hd : p '-' = false) (hw : Remark w) (cs : List Char) :
    run? p (trimStart (cs ++ w)) = (run? p (trimStart cs)).map fun x => (x.1, x.2 ++ w) := by
  rcases trimStart_remark w cs with ⟨h, hcs⟩ | ⟨_, hcs⟩
  · rw [h, hcs, run?_dash hd hw]
    rfl
  · rw [hcs, run?_apart hp hw.apart]

/-- blanks and then a word: the word does not begin in the remark -/
theorem blanks?_bind_remark {α : Type} {read : List Char → Option α} {f : α → α}
    (hnil : read [] = none) (hdash : read (trimStart w) = none)
    (hread : ∀ cs, read (cs ++ w) = (read cs).map f) (cs : List Char) :
    (blanks? (cs ++ w)).bind read = ((blanks? cs).bind read).map f := by
  by_cases h : trimStart cs = []
  · have hl : (blanks? cs).bind read = none := by
      cases hb : blanks? cs with
      | none => rfl
      | some r =>
        obtain ⟨_, rfl⟩ := blanks?_eq_some.mp hb
        rw [h]
        exact hnil
    rw [hl]
    cases hb : blanks? (cs ++ w) with
    | none => rfl
    | some r =>
      obtain ⟨_, rfl⟩ := blanks?_eq_some.mp hb
      rw [trimStart_append_of_nil h]
      exact hdash
  · rw [blanks?_apart h]
    cases blanks? cs with
    | none => rfl
    | some r => exact hread r

end

end DdlToJava.Text

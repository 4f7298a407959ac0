import DdlToJava.Proofs.Text.Reading

/-!
# Where a reader succeeds first

`findFirst?` tries a reader at every place of a text.  A part `a` of a text is `Quiet` in front of
`z` when the reader fails at every place of `a`, and then the search may as well start at `z`
(`findFirst?_quiet`).  Quiet parts are put together by `Quiet.append`.

A keyword is a run of word characters, so a reader that wants a keyword, blanks and something else
reads whole words: `keyword?_word` says what it leaves of the word that it starts in.
-/

namespace DdlToJava.Text

/-! ## kinds of characters -/

/-- the code points of white space -/
def spaceCodes : List Nat :=
  List.range' 9 5 ++ List.range' 28 5 ++ [0x85, 0xA0, 0x1680] ++ List.range' 0x2000 11 ++
    [0x2028, 0x2029, 0x202F, 0x205F, 0x3000]

theorem mem_spaceCodes {c : Char} (h : isSpace c = true) : c.toNat ∈ spaceCodes := by
  simp only [isSpace, Bool.or_eq_true, Bool.and_eq_true, decide_eq_true_eq] at h
  simp only [spaceCodes, List.mem_append, List.mem_range'_1, List.mem_cons, List.not_mem_nil,
    or_false]
  omega

theorem isWord_of_isSpace {c : Char} (h : isSpace c = true) : isWord c = false := by
  have hall : ∀ n ∈ spaceCodes, isWord (Char.ofNat n) = false := by decide +kernel
  have hc := hall c.toNat (mem_spaceCodes h)
  rwa [Char.ofNat_toNat] at hc

theorem isSpace_of_isWord {c : Char} (h : isWord c = true) : isSpace c = false := by
  cases hs : isSpace c with
  | false => rfl
  | true =>
    rw [isWord_of_isSpace hs] at h
    cases h

theorem toNat_lt_of_isAlphanum {c : Char} (h : c.isAlphanum = true) : c.toNat < 128 := by
  delta Char.isAlphanum Char.isAlpha Char.isUpper Char.isLower Char.isDigit at h
  simp only [Bool.or_eq_true, Bool.and_eq_true, decide_eq_true_eq, UInt32.le_iff_toNat_le,
    ge_iff_le] at h
  have hc : c.toNat = c.val.toNat := rfl
  have hZ : 'Z'.val.toNat = 90 := rfl
  have hz : 'z'.val.toNat = 122 := rfl
  have h9 : '9'.val.toNat = 57 := rfl
  omega

theorem isAlphanum_of_isAlpha {c : Char} (h : c.isAlpha = true) : c.isAlphanum = true := by
  unfold Char.isAlphanum
  rw [h, Bool.true_or]

theorem isAlphanum_of_isLower_toLower {c : Char} (h : c.toLower.isLower = true) :
    c.isAlphanum = true := by
  show ((c.isUpper || c.isLower) || c.isDigit) = true
  unfold Char.toLower at h
  split at h
  · next hupper =>
    have hupper : c.isUpper = true := decide_eq_true hupper
    rw [hupper]
    rfl
  · rw [h, Bool.or_true, Bool.true_or]

theorem isWord_of_foldLetter {c : Char} (h : (foldLetter c).isLower = true) : isWord c = true := by
  unfold foldLetter at h
  split at h
  · next hc =>
    rcases hc with rfl | rfl
    · decide +kernel
    · decide +kernel
  · split at h
    · next hc =>
      rw [hc]
      decide +kernel
    · split at h
      · next hc =>
        rw [hc]
        decide +kernel
      · have hc := isAlphanum_of_isLower_toLower h
        exact isWord_of_isAlphanum c hc (toNat_lt_of_isAlphanum hc)

/-- no blank passes for a letter of a keyword -/
theorem foldLetter_ne_of_isSpace {c k : Char} (hc : isSpace c = true) (hk : k.isLower = true) :
    foldLetter c ≠ k := by
  rintro rfl
  have hword := isWord_of_foldLetter hk
  rw [isWord_of_isSpace hc] at hword
  cases hword

/-- no keyword begins with a blank -/
theorem keyword?_blank {c k : Char} (hc : isSpace c = true) (hk : k.isLower = true)
    (ks cs : List Char) : keyword? (k :: ks) (c :: cs) = none :=
  if_neg (foldLetter_ne_of_isSpace hc hk)

/-! ## words -/

/-- no word goes on into this text -/
def EndsWord (z : List Char) : Prop := ∀ c, z.head? = some c → isWord c = false

theorem EndsWord.nil : EndsWord [] := fun _ h => nomatch h

theorem EndsWord.cons {c : Char} (h : isWord c = false) (z : List Char) : EndsWord (c :: z) := by
  intro d hd
  cases hd
  exact h

/-- a keyword that is read from the inside of a word on stays in the word -/
theorem keyword?_word {ks w z r : List Char} (hks : ∀ k ∈ ks, k.isLower = true)
    (hz : EndsWord z) (h : keyword? ks (w ++ z) = some r) :
    ∃ u v, w = u ++ v ∧ r = v ++ z ∧ u.map foldLetter = ks := by
  obtain ⟨u, hcs, hu⟩ := keyword?_eq_some.mp h
  rcases List.append_eq_append_iff.mp hcs with ⟨t, rfl, rfl⟩ | ⟨v, rfl, rfl⟩
  · cases t with
    | nil => exact ⟨w, [], (List.append_nil w).symm, rfl, by rw [← hu, List.append_nil]⟩
    | cons c t =>
      have hc : isWord c = true := by
        apply isWord_of_foldLetter
        apply hks
        rw [← hu]
        exact List.mem_map_of_mem (List.mem_append_right w (List.mem_cons_self ..))
      rw [hz c rfl] at hc
      cases hc
  · exact ⟨u, v, rfl, rfl, hu⟩

theorem blanks?_word {w : List Char} (hw : ∀ c ∈ w, isWord c = true) (hne : w ≠ [])
    (z : List Char) : blanks? (w ++ z) = none := by
  cases w with
  | nil => exact absurd rfl hne
  | cons c w => exact blanks?_cons_of_not (isSpace_of_isWord (hw c (List.mem_cons_self ..))) _

/-- a keyword with blanks behind it, read from the inside of a word on, is the whole rest of it -/
theorem keyword?_blanks?_word {ks w z r : List Char} (hks : ∀ k ∈ ks, k.isLower = true)
    (hw : ∀ c ∈ w, isWord c = true) (hz : EndsWord z)
    (h : (keyword? ks (w ++ z)).bind blanks? = some r) :
    w.map foldLetter = ks ∧ blanks? z = some r := by
  obtain ⟨t, ht, hr⟩ := Option.bind_eq_some_iff.mp h
  obtain ⟨u, v, rfl, rfl, hu⟩ := keyword?_word hks hz ht
  by_cases hv : v = []
  · rw [hv, List.append_nil]
    rw [hv] at hr
    exact ⟨hu, hr⟩
  · rw [blanks?_word (fun c hc => hw c (List.mem_append_right u hc)) hv] at hr
    cases hr

/-! ## the search -/

section
variable {α : Type} (read : List Char → Option α)

/-- the reader fails at every place of `a` when `z` follows -/
def Quiet (a z : List Char) : Prop := ∀ s, s <:+ a → s ≠ [] → read (s ++ z) = none

variable {read}

theorem Quiet.nil (z : List Char) : Quiet read [] z := fun _ h hs =>
  absurd (List.suffix_nil.mp h) hs

theorem Quiet.cons {c : Char} {a z : List Char} (h : read (c :: a ++ z) = none)
    (ha : Quiet read a z) : Quiet read (c :: a) z := by
  intro s hs hne
  rcases List.suffix_cons_iff.mp hs with rfl | hs
  · exact h
  · exact ha s hs hne

theorem Quiet.append {a b z : List Char} (ha : Quiet read a (b ++ z)) (hb : Quiet read b z) :
    Quiet read (a ++ b) z := by
  induction a with
  | nil => exact hb
  | cons c a ih =>
    apply Quiet.cons
    · have hc := ha (c :: a) List.suffix_rfl (List.cons_ne_nil c a)
      rwa [← List.append_assoc] at hc
    · exact ih fun s hs => ha s (hs.trans (List.suffix_cons c a))

theorem findFirst?_quiet {a z : List Char} (h : Quiet read a z) :
    findFirst? read (a ++ z) = findFirst? read z := by
  induction a with
  | nil => rfl
  | cons c a ih =>
    show (read (c :: a ++ z)).or (findFirst? read (a ++ z)) = _
    rw [h (c :: a) List.suffix_rfl (List.cons_ne_nil c a), Option.none_or]
    exact ih fun s hs => h s (hs.trans (List.suffix_cons c a))

theorem findFirst?_eq_none {cs : List Char} (h : ∀ s, s <:+ cs → read s = none) :
    findFirst? read cs = none := by
  induction cs with
  | nil => exact h [] List.suffix_rfl
  | cons c cs ih =>
    rw [findFirst?_cons, h (c :: cs) List.suffix_rfl, Option.none_or]
    exact ih fun s hs => h s (hs.trans (List.suffix_cons c cs))

/-- what a search gives is read at some place of the text -/
theorem findFirst?_eq_some {cs : List Char} {a : α} (h : findFirst? read cs = some a) :
    ∃ s, s <:+ cs ∧ read s = some a := by
  induction cs with
  | nil => exact ⟨[], List.suffix_rfl, h⟩
  | cons c cs ih =>
    rw [findFirst?_cons] at h
    rcases Option.or_eq_some_iff.mp h with h | ⟨_, h⟩
    · exact ⟨c :: cs, List.suffix_rfl, h⟩
    · obtain ⟨s, hs, hr⟩ := ih h
      exact ⟨s, hs.trans (List.suffix_cons c cs), hr⟩

theorem findFirst?_of_front {cs : List Char} {a : α} (h : read cs = some a) :
    findFirst? read cs = some a := by
  cases cs with
  | nil => exact h
  | cons c cs => rw [findFirst?_cons, h, Option.some_or]

theorem findFirst?_isSome {s cs : List Char} (hs : s <:+ cs) (h : (read s).isSome = true) :
    (findFirst? read cs).isSome = true := by
  induction cs with
  | nil =>
    rw [List.suffix_nil.mp hs] at h
    exact h
  | cons c cs ih =>
    rw [findFirst?_cons, Option.isSome_or]
    rcases List.suffix_cons_iff.mp hs with rfl | hs
    · rw [h, Bool.true_or]
    · rw [ih hs, Bool.or_true]

/-- where the reader fails at all other places, the search gives what is read at the one -/
theorem findFirst?_of_only {s cs : List Char} (hs : s <:+ cs)
    (h : ∀ t, t <:+ cs → t ≠ s → read t = none) : findFirst? read cs = read s := by
  induction cs with
  | nil =>
    rw [List.suffix_nil.mp hs]
    rfl
  | cons c cs ih =>
    rw [findFirst?_cons]
    rcases List.suffix_cons_iff.mp hs with rfl | hs
    · have hrest : findFirst? read cs = none := by
        apply findFirst?_eq_none
        intro t ht
        apply h t (ht.trans (List.suffix_cons c cs))
        rintro rfl
        exact absurd ht.length_le (by rw [List.length_cons]; omega)
      rw [hrest, Option.or_none]
    · have hfront : read (c :: cs) = none := by
        apply h _ List.suffix_rfl
        rintro rfl
        exact absurd hs.length_le (by rw [List.length_cons]; omega)
      rw [hfront, Option.none_or]
      exact ih hs fun t ht => h t (ht.trans (List.suffix_cons c cs))

/-- a search that has found something does not look at what comes later: the place where it found
it stays one, and a place passed before it stays without -/
theorem findFirst?_append_of_some {w : List Char}
    (hfound : ∀ s a, read s = some a → read (s ++ w) = some a)
    (hpassed : ∀ c s m, m <:+ s → (read m).isSome = true → read (c :: s) = none →
      read (c :: s ++ w) = none)
    {cs : List Char} {a : α} (h : findFirst? read cs = some a) :
    findFirst? read (cs ++ w) = some a := by
  induction cs with
  | nil => exact findFirst?_of_front (hfound [] a h)
  | cons c cs ih =>
    rw [findFirst?_cons] at h
    rcases Option.or_eq_some_iff.mp h with h | ⟨hnone, h⟩
    · exact findFirst?_of_front (hfound (c :: cs) a h)
    · obtain ⟨m, hm, ha⟩ := findFirst?_eq_some h
      have hc := hpassed c cs m hm (by rw [ha]; rfl) hnone
      show (read (c :: cs ++ w)).or (findFirst? read (cs ++ w)) = some a
      rw [hc, Option.none_or, ih h]

end

end DdlToJava.Text

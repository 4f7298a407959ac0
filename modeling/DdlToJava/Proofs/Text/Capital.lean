import DdlToJava.Proofs.Text.Case

/-!
# Capitals

A capital stays what it is when it is put in capitals again (`upperChar_of_mem`), so a text with a
capital put in somewhere has the same capitals (`upper_capitalize`).  For this no partner in the
table of capitals may have a capital of its own.  The numbers of the partners and those of the
characters with a capital are compared as sets of bits (`capitalCodes_land`).

In ASCII a letter can be told from its capital: `lower` gives small characters (`IsSmall`), and
these are found again behind their capitals (`IsSmall.toLower_toUpper`).
-/

namespace DdlToJava.Text

/-! ## sets of numbers -/

/-- the set of the numbers, as the bits of one number -/
def bitSet (ns : List Nat) : Nat := ns.foldr (fun n m => 1 <<< n ||| m) 0

theorem testBit_bitSet {ns : List Nat} {n : Nat} : (bitSet ns).testBit n = true ↔ n ∈ ns := by
  induction ns with
  | nil => simp [bitSet]
  | cons m ns ih =>
    have hcons : bitSet (m :: ns) = 1 <<< m ||| bitSet ns := rfl
    rw [hcons, Nat.testBit_or, Bool.or_eq_true, ih, List.mem_cons, Nat.one_shiftLeft,
      Nat.testBit_two_pow, decide_eq_true_iff]
    exact or_congr_left eq_comm

theorem not_mem_of_land {as bs : List Nat} (h : bitSet as &&& bitSet bs = 0) {n : Nat}
    (ha : n ∈ as) : n ∉ bs := by
  intro hb
  have hbit : (bitSet as &&& bitSet bs).testBit n = true := by
    rw [Nat.testBit_and, testBit_bitSet.mpr ha, testBit_bitSet.mpr hb]
    rfl
  rw [h, Nat.zero_testBit] at hbit
  cases hbit

/-! ## capitals of capitals -/

/-- the numbers that a row of a case table goes through from `start` on -/
def rowCodes (start : Nat) (row : Nat × Nat × Nat × Nat) : List Nat :=
  ((List.range (row.2.1 - row.1 + 1)).filter (· % row.2.2.1 = 0)).map (start + ·)

/-- the numbers of the characters with a capital -/
def smallCodes : List Nat :=
  List.range' 97 26 ++ upperRows.flatMap (fun row => rowCodes row.1 row) ++
    upperSpellings.map (·.1)

/-- the numbers of the characters in the capitals beyond ASCII -/
def capitalCodes : List Nat :=
  upperRows.flatMap (fun row => rowCodes row.2.2.2 row) ++ upperSpellings.flatMap (·.2)

theorem capitalCodes_land : bitSet (0 :: capitalCodes) &&& bitSet smallCodes = 0 := by
  decide +kernel

theorem mem_rowCodes {rows : List (Nat × Nat × Nat × Nat)} {n m : Nat}
    (h : partner? rows n = some m) :
    n ∈ rows.flatMap (fun row => rowCodes row.1 row) ∧
      m ∈ rows.flatMap (fun row => rowCodes row.2.2.2 row) := by
  obtain ⟨⟨first, last, step, image⟩, hfind, rfl⟩ := Option.map_eq_some_iff.mp h
  have hmem := List.mem_of_find?_eq_some hfind
  have hin := List.find?_some hfind
  simp only [Bool.and_eq_true, decide_eq_true_eq] at hin
  have hrow : n - first ∈ (List.range (last - first + 1)).filter (· % step = 0) := by
    refine List.mem_filter.mpr ⟨List.mem_range.mpr (by omega), ?_⟩
    exact decide_eq_true hin.2
  constructor
  · exact List.mem_flatMap.mpr ⟨_, hmem, List.mem_map.mpr ⟨n - first, hrow, by dsimp only; omega⟩⟩
  · exact List.mem_flatMap.mpr ⟨_, hmem, List.mem_map.mpr ⟨n - first, hrow, rfl⟩⟩

theorem toUpper_of_not_mem {c : Char} (hc : c.toNat < 128) :
    c.toNat ∉ List.range' 97 26 → c.toUpper = c :=
  forall_ascii hc (by decide +kernel)

/-- a character whose number is not in the table is its own capital -/
theorem upperChar_of_not_mem {c : Char} (h : c.toNat ∉ smallCodes) : upperChar c = [c] := by
  simp only [smallCodes, List.mem_append, not_or] at h
  obtain ⟨⟨hascii, hrows⟩, hspellings⟩ := h
  unfold upperChar
  split
  · next hc =>
    rw [toUpper_of_not_mem hc hascii]
  · have hlookup : upperSpellings.lookup c.toNat = none := by
      rw [List.lookup_eq_none_iff]
      intro s hs
      rw [bne_iff_ne]
      intro he
      exact hspellings (List.mem_map.mpr ⟨s, hs, he.symm⟩)
    have hpartner : partner? upperRows c.toNat = none := by
      rw [Option.eq_none_iff_forall_ne_some]
      intro m hm
      exact hrows (mem_rowCodes hm).1
    rw [hlookup]
    simp [partner, hpartner]

/-- a number of no character stands for the character zero -/
theorem toNat_ofNat (n : Nat) : (Char.ofNat n).toNat = n ∨ (Char.ofNat n).toNat = 0 := by
  unfold Char.ofNat
  by_cases h : n.isValidChar
  · rw [dif_pos h]
    exact Or.inl rfl
  · rw [dif_neg h]
    exact Or.inr rfl

theorem not_mem_smallCodes {n : Nat} (h : n ∈ capitalCodes) :
    (Char.ofNat n).toNat ∉ smallCodes := by
  apply not_mem_of_land capitalCodes_land
  rcases toNat_ofNat n with hn | hn
  · rw [hn]
    exact List.mem_cons_of_mem 0 h
  · rw [hn]
    exact List.mem_cons_self ..

theorem upperChar_toUpper {c : Char} (hc : c.toNat < 128) : upperChar c.toUpper = [c.toUpper] :=
  forall_ascii hc (by decide +kernel)

/-- the characters of a capital are their own capitals -/
theorem upperChar_of_mem {c d : Char} (h : d ∈ upperChar c) : upperChar d = [d] := by
  unfold upperChar at h
  split at h
  · next hc =>
    rw [List.mem_singleton.mp h, upperChar_toUpper hc]
  · next hc =>
    split at h
    · next ns hns =>
      obtain ⟨n, hn, rfl⟩ := List.mem_map.mp h
      apply upperChar_of_not_mem
      apply not_mem_smallCodes
      exact List.mem_append_right _ (List.mem_flatMap.mpr ⟨_, mem_of_lookup hns, hn⟩)
    · next hns =>
      cases hpartner : partner? upperRows c.toNat with
      | some m =>
        have hd : d = Char.ofNat m := by simpa [partner, hpartner] using h
        rw [hd]
        apply upperChar_of_not_mem
        apply not_mem_smallCodes
        exact List.mem_append_left _ (mem_rowCodes hpartner).2
      | none =>
        have hd : d = c := by simpa [partner, hpartner] using h
        rw [hd]
        unfold upperChar
        rw [if_neg hc, hns]
        simp [partner, hpartner]

theorem upperChar_ne_nil (c : Char) : upperChar c ≠ [] := by
  have hall : ∀ s ∈ upperSpellings, s.2 ≠ [] := by decide
  unfold upperChar
  split
  · exact List.cons_ne_nil _ _
  · split
    · next ns hns => exact mt List.map_eq_nil_iff.mp (hall _ (mem_of_lookup hns))
    · exact List.cons_ne_nil _ _

theorem upper_upperChar (c : Char) : upper (upperChar c) = upperChar c := by
  have hfixed : ∀ cs : List Char, (∀ d ∈ cs, upperChar d = [d]) → upper cs = cs := by
    intro cs h
    induction cs with
    | nil => rfl
    | cons d cs ih =>
      rw [upper_cons, h d (List.mem_cons_self ..), ih fun e he => h e (List.mem_cons_of_mem d he)]
      rfl
  exact hfixed _ fun _ h => upperChar_of_mem h

theorem upper_capitalize (cs : List Char) : upper (capitalize cs) = upper cs := by
  cases cs with
  | nil => rfl
  | cons c cs => rw [capitalize_cons, upper_append, upper_upperChar, upper_cons]

/-- a text that begins with a capital keeps it -/
theorem capitalize_upperChar_append (c : Char) (cs : List Char) :
    capitalize (upperChar c ++ cs) = upperChar c ++ cs := by
  obtain ⟨d, ds, hd⟩ := List.exists_cons_of_ne_nil (upperChar_ne_nil c)
  have hfixed : upperChar d = [d] := upperChar_of_mem (by rw [hd]; exact List.mem_cons_self ..)
  rw [hd, List.cons_append, capitalize_cons, hfixed]
  rfl

/-! ## ASCII -/

/-- an ASCII character that is no capital -/
structure IsSmall (c : Char) : Prop where
  ascii : c.toNat < 128
  not_upper : c.isUpper = false

theorem isSmall_toLower {c : Char} (hc : c.toNat < 128) : IsSmall c.toLower := by
  have hsmall : c.toLower.toNat < 128 ∧ c.toLower.isUpper = false :=
    forall_ascii hc (by decide +kernel)
  exact ⟨hsmall.1, hsmall.2⟩

theorem lowerFrom_cons_ascii {c : Char} (hc : c.toNat < 128) (after : Bool) (cs : List Char) :
    lowerFrom after (c :: cs) =
      c.toLower :: lowerFrom (if isTransparent c then after else isCased c) cs := by
  have hsigma : c ≠ 'Σ' := by
    rintro rfl
    exact absurd hc (by decide)
  rw [lowerFrom, if_neg hsigma, lowerChar, if_pos hc]
  rfl

/-- an ASCII text is put in small letters character by character -/
theorem lower_of_ascii {cs : List Char} (h : ∀ c ∈ cs, c.toNat < 128) :
    lower cs = cs.map Char.toLower := by
  have hfrom : ∀ after, lowerFrom after cs = cs.map Char.toLower := by
    induction cs with
    | nil => intro after; rfl
    | cons c cs ih =>
      intro after
      rw [lowerFrom_cons_ascii (h c (List.mem_cons_self ..)), List.map_cons,
        ih (fun d hd => h d (List.mem_cons_of_mem c hd))]
  exact hfrom false

theorem IsSmall.of_mem_lower {cs : List Char} (h : ∀ c ∈ cs, c.toNat < 128) :
    ∀ c ∈ lower cs, IsSmall c := by
  intro c hc
  rw [lower_of_ascii h] at hc
  obtain ⟨d, hd, rfl⟩ := List.mem_map.mp hc
  exact isSmall_toLower (h d hd)

section
variable {c : Char}

theorem IsSmall.upperChar (h : IsSmall c) : Text.upperChar c = [c.toUpper] := by
  unfold Text.upperChar
  rw [if_pos h.ascii]

theorem IsSmall.toLower (h : IsSmall c) : c.toLower = c := by
  have hsmall : c.isUpper = false → c.toLower = c := forall_ascii h.ascii (by decide +kernel)
  exact hsmall h.not_upper

/-- a letter is found again behind its capital -/
theorem IsSmall.toLower_toUpper (h : IsSmall c) : c.toUpper.toLower = c := by
  have hsmall : c.isUpper = false → c.toUpper.toLower = c :=
    forall_ascii h.ascii (by decide +kernel)
  exact hsmall h.not_upper

theorem IsSmall.isUpper_toUpper (h : IsSmall c) (hne : c.toUpper ≠ c) :
    c.toUpper.isUpper = true := by
  have hupper : c.toUpper ≠ c → c.toUpper.isUpper = true :=
    forall_ascii h.ascii (by decide +kernel)
  exact hupper hne

end

end DdlToJava.Text

import DdlToJava.Identifier

/-!
# What a change of case brings in

A change of case brings in letters and characters beyond ASCII, and nothing else.  So a digit or a
mark of ASCII is in the changed text only if it was in the text.

* `mem_lower`, `mem_capitalize`  the two changes that names go through;
* `mem_typeName`, `mem_fieldName`, `mem_accessorName`
                                 the same for the Java names of a table and of a column.

That the tables hold no other partner is checked row by row (`bringsLetters`).
-/

namespace DdlToJava.Text

/-- an ASCII character that is no letter -/
structure Caseless (k : Char) : Prop where
  ascii : k.toNat < 128
  notAlpha : k.isAlpha = false

instance (k : Char) : Decidable (Caseless k) :=
  decidable_of_iff (k.toNat < 128 ∧ k.isAlpha = false)
    ⟨fun h => ⟨h.1, h.2⟩, fun h => ⟨h.1, h.2⟩⟩

/-! ## tables -/

/-- is the character with this number a letter or beyond ASCII? -/
def isLetterCode (n : Nat) : Bool := 128 ≤ (Char.ofNat n).toNat || (Char.ofNat n).isAlpha

/-- are all partners of a case table letters or beyond ASCII? -/
def bringsLetters (rows : List (Nat × Nat × Nat × Nat)) : Bool :=
  rows.all fun (first, last, _, image) =>
    (List.range (last - first + 1)).all fun i => isLetterCode (image + i)

theorem bringsLetters_upperRows : bringsLetters upperRows = true := by decide +kernel

theorem bringsLetters_lowerRows : bringsLetters lowerRows = true := by decide +kernel

theorem isLetterCode_upperSpellings :
    (upperSpellings.all fun s => s.2.all isLetterCode) = true := by decide +kernel

theorem Caseless.ne_ofNat {k : Char} (hk : Caseless k) {n : Nat} (h : isLetterCode n = true) :
    k ≠ Char.ofNat n := by
  rintro rfl
  rcases Bool.or_eq_true_iff.mp h with h | h
  · have := of_decide_eq_true h
    have := hk.ascii
    omega
  · rw [hk.notAlpha] at h
    cases h

theorem partner?_isLetterCode {rows : List (Nat × Nat × Nat × Nat)}
    (hrows : bringsLetters rows = true) {n m : Nat} (h : partner? rows n = some m) :
    isLetterCode m = true := by
  obtain ⟨⟨first, last, step, image⟩, hfind, rfl⟩ := Option.map_eq_some_iff.mp h
  have hrow := List.all_eq_true.mp hrows _ (List.mem_of_find?_eq_some hfind)
  have hin := List.find?_some hfind
  simp only [Bool.and_eq_true, decide_eq_true_eq] at hin
  exact List.all_eq_true.mp hrow (n - first) (List.mem_range.mpr (by omega))

theorem partner_eq {rows : List (Nat × Nat × Nat × Nat)} (hrows : bringsLetters rows = true)
    {c k : Char} (hk : Caseless k) (h : k = partner rows c) : k = c := by
  unfold partner at h
  split at h
  · next n hn => exact absurd h (hk.ne_ofNat (partner?_isLetterCode hrows hn))
  · exact h

theorem mem_of_lookup {rows : List (Nat × List Nat)} {n : Nat} {ns : List Nat}
    (h : rows.lookup n = some ns) : (n, ns) ∈ rows := by
  obtain ⟨before, behind, hrows, _⟩ := List.lookup_eq_some_iff.mp h
  rw [hrows]
  exact List.mem_append_right before (List.mem_cons_self ..)

/-! ## characters -/

/-- what is checked for the numbers of ASCII holds for its characters -/
@[elab_as_elim]
theorem forall_ascii {P : Char → Prop} {c : Char} (hc : c.toNat < 128)
    (h : ∀ n < 128, P (Char.ofNat n)) : P c := by
  have hn := h c.toNat hc
  rwa [Char.ofNat_toNat] at hn

theorem toLower_ascii {c : Char} (hc : c.toNat < 128) :
    c.toLower = c ∨ c.toLower.isAlpha = true :=
  forall_ascii hc (by decide +kernel)

theorem toLower_of_not_ascii {c : Char} (hc : ¬ c.toNat < 128) : c.toLower = c := by
  unfold Char.toLower
  rw [dif_neg]
  rintro ⟨-, hle⟩
  have hle : c.toNat ≤ 'Z'.toNat := UInt32.le_iff_toNat_le.mp hle
  exact hc (Nat.lt_of_le_of_lt hle (by decide))

theorem toUpper_ascii {c : Char} (hc : c.toNat < 128) :
    c.toUpper = c ∨ c.toUpper.isAlpha = true :=
  forall_ascii hc (by decide +kernel)

variable {k c : Char} {cs : List Char}

theorem mem_lowerChar (hk : Caseless k) (h : k ∈ lowerChar c) : k = c := by
  unfold lowerChar at h
  split at h
  · next hc =>
    rw [List.mem_singleton] at h
    rcases toLower_ascii hc with hsame | halpha
    · rw [h, hsame]
    · rw [← h, hk.notAlpha] at halpha
      cases halpha
  · split at h
    · rcases List.mem_cons.mp h with rfl | h
      · exact absurd hk (by decide)
      · rw [List.mem_singleton.mp h] at hk
        exact absurd hk (by decide)
    · exact partner_eq bringsLetters_lowerRows hk (List.mem_singleton.mp h)

theorem mem_upperChar (hk : Caseless k) (h : k ∈ upperChar c) : k = c := by
  unfold upperChar at h
  split at h
  · next hc =>
    rw [List.mem_singleton] at h
    rcases toUpper_ascii hc with hsame | halpha
    · rw [h, hsame]
    · rw [← h, hk.notAlpha] at halpha
      cases halpha
  · split at h
    · next ns hns =>
      obtain ⟨n, hn, rfl⟩ := List.mem_map.mp h
      have hrow := List.all_eq_true.mp isLetterCode_upperSpellings _ (mem_of_lookup hns)
      exact absurd rfl (hk.ne_ofNat (List.all_eq_true.mp hrow n hn))
    · exact partner_eq bringsLetters_upperRows hk (List.mem_singleton.mp h)

/-! ## texts -/

theorem mem_lowerFrom (hk : Caseless k) {after : Bool} (h : k ∈ lowerFrom after cs) : k ∈ cs := by
  induction cs generalizing after with
  | nil => exact h
  | cons c cs ih =>
    rcases List.mem_append.mp h with h | h
    · split at h
      · rw [List.mem_singleton] at h
        split at h
        · rw [h] at hk
          exact absurd hk (by decide)
        · rw [h] at hk
          exact absurd hk (by decide)
      · rw [mem_lowerChar hk h]
        exact List.mem_cons_self ..
    · exact List.mem_cons_of_mem _ (ih h)

theorem mem_lower (hk : Caseless k) (h : k ∈ lower cs) : k ∈ cs := mem_lowerFrom hk h

theorem mem_capitalize (hk : Caseless k) (h : k ∈ capitalize cs) : k ∈ cs := by
  cases cs with
  | nil => exact h
  | cons c cs =>
    rcases List.mem_append.mp h with h | h
    · rw [mem_upperChar hk h]
      exact List.mem_cons_self ..
    · exact List.mem_cons_of_mem _ h

theorem mem_of_mem_pieces {sep : Char} {p : List Char} (hc : c ∈ p) (hp : p ∈ pieces sep cs) :
    c ∈ cs := by
  induction cs generalizing p with
  | nil =>
    rw [pieces_nil, List.mem_singleton] at hp
    rw [hp] at hc
    exact hc
  | cons d cs ih =>
    by_cases hd : d = sep
    · rw [hd, pieces_cons_self] at hp
      rcases List.mem_cons.mp hp with rfl | hp
      · cases hc
      · exact List.mem_cons_of_mem _ (ih hc hp)
    · rw [pieces_cons_of_ne cs hd] at hp
      obtain ⟨q, qs, hq⟩ := List.exists_cons_of_ne_nil (pieces_ne_nil sep cs)
      rw [hq] at hp ih
      rcases List.mem_cons.mp hp with rfl | hp
      · rcases List.mem_cons.mp hc with rfl | hc
        · exact List.mem_cons_self ..
        · exact List.mem_cons_of_mem _ (ih hc (List.mem_cons_self ..))
      · exact List.mem_cons_of_mem _ (ih hc (List.mem_cons_of_mem _ hp))

end DdlToJava.Text

namespace DdlToJava

open Text Identifier

/-! ## names -/

variable {k : Char}

theorem mem_camel (hk : Caseless k) {parts : List (List Char)} (h : k ∈ camel parts) :
    ∃ p ∈ parts, k ∈ p := by
  obtain ⟨p, hp, h⟩ := List.mem_flatMap.mp h
  exact ⟨p, hp, mem_capitalize hk h⟩

theorem mem_of_mem_segments (hk : Caseless k) {cs p : List Char} (hp : p ∈ segments cs)
    (h : k ∈ p) : k ∈ cs :=
  mem_lower hk (mem_of_mem_pieces h hp)

theorem stripShort_subset (rules : NamingRules) (parts : List (List Char)) :
    stripShort rules parts ⊆ parts := by
  unfold stripShort
  split
  · split
    · exact List.subset_cons_self ..
    · exact List.Subset.refl _
  · exact List.Subset.refl _

theorem typeSegments_subset (rules : NamingRules) (parts : List (List Char)) :
    typeSegments rules parts ⊆ parts := by
  unfold typeSegments
  split
  · exact List.Subset.refl _
  · exact List.Subset.trans (stripShort_subset rules _) List.filter_sublist.subset

/-- the Java name of a table has no digit and no mark that the table's name does not have -/
theorem mem_typeName (hk : Caseless k) {rules : NamingRules} {name type : String}
    (htype : rules.typeName name = .ok type) (h : k ∈ type.toList) : k ∈ name.toList := by
  unfold NamingRules.typeName at htype
  split at htype
  · cases htype
  · cases htype
    rw [String.toList_ofList] at h
    obtain ⟨p, hp, hmem⟩ := mem_camel hk h
    exact mem_of_mem_segments hk (typeSegments_subset rules _ hp) hmem

theorem mem_fieldHead (hk : Caseless k) {rules : NamingRules} {head : List Char}
    (h : k ∈ fieldHead rules head) : k ∈ head := by
  unfold fieldHead at h
  split at h
  · next p hp =>
    rcases List.mem_append.mp h with h | h
    · have hglued := List.find?_some hp
      have hprefix := List.isPrefixOf_iff_prefix.mp (Bool.and_eq_true_iff.mp hglued).1
      exact hprefix.subset h
    · exact List.mem_of_mem_drop (mem_capitalize hk h)
  · exact h

/-- the Java name of a column has no digit and no mark that the column's name does not have -/
theorem mem_fieldName (hk : Caseless k) {rules : NamingRules} {name field : String}
    (hfield : rules.fieldName name = .ok field) (h : k ∈ field.toList) : k ∈ name.toList := by
  unfold NamingRules.fieldName at hfield
  split at hfield
  · cases hfield
  · cases hfield
    rw [String.toList_ofList] at h
    have hsub := stripShort_subset rules (segments name.toList)
    cases hparts : stripShort rules (segments name.toList) with
    | nil =>
      rw [hparts] at h
      cases h
    | cons head rest =>
      rw [hparts] at h hsub
      rcases List.mem_append.mp h with h | h
      · exact mem_of_mem_segments hk (hsub (List.mem_cons_self ..)) (mem_fieldHead hk h)
      · obtain ⟨p, hp, hmem⟩ := mem_camel hk h
        exact mem_of_mem_segments hk (hsub (List.mem_cons_of_mem _ hp)) hmem

theorem mem_accessorName (hk : Caseless k) {field : String}
    (h : k ∈ (accessorName field).toList) : k ∈ field.toList := by
  unfold accessorName at h
  rw [String.toList_ofList] at h
  exact mem_capitalize hk h

end DdlToJava

import DdlToJava.Proofs.Ddl.Kept
import DdlToJava.Proofs.JavaType.Token

/-!
# When a statement is refused

A statement is refused for a size that is too long and for nothing else: a number of more than 4300
digits, or a whole number whose upper bound would have 2^63 nines.  `SizeFault` lists these faults
of a line, apart from how they come about.

* `javaType_eq_error`   when a type has no upper bound;
* `column_eq_error`     a line is refused exactly for its fault;
* `ofDdl_eq_error_iff`  a statement is refused for the fault of the first line that has one.
-/

namespace DdlToJava

open Text Ddl

/-! ## outcomes -/

section
variable {ε α β : Type}

theorem exists_ok_iff {x : Except ε α} : (∃ a, x = .ok a) ↔ ∀ e, x ≠ .error e := by
  constructor
  · rintro ⟨a, rfl⟩ e h
    cases h
  · intro h
    cases x with
    | error e => exact absurd rfl (h e)
    | ok a => exact ⟨a, rfl⟩

theorem bind_eq_error {x : Except ε α} {f : α → Except ε β} {e : ε} :
    (x >>= f) = .error e ↔ x = .error e ∨ ∃ a, x = .ok a ∧ f a = .error e := by
  cases x with
  | error d =>
    constructor
    · intro h
      cases h
      exact Or.inl rfl
    · rintro (h | ⟨_, h, _⟩)
      · cases h
        rfl
      · cases h
  | ok a =>
    constructor
    · intro h
      exact Or.inr ⟨a, rfl, h⟩
    · rintro (h | ⟨_, h, he⟩)
      · cases h
      · cases h
        exact he

theorem map_eq_error {f : α → β} {x : Except ε α} {e : ε} : x.map f = .error e ↔ x = .error e := by
  cases x with
  | error d =>
    constructor
    · intro h
      cases h
      rfl
    · intro h
      cases h
      rfl
  | ok a =>
    constructor
    · intro h
      cases h
    · intro h
      cases h

theorem mapError_eq_error {δ : Type} {f : ε → δ} {x : Except ε α} {d : δ} :
    x.mapError f = .error d ↔ ∃ e, x = .error e ∧ d = f e := by
  cases x with
  | error e =>
    constructor
    · intro h
      cases h
      exact ⟨e, rfl, rfl⟩
    · rintro ⟨_, h, rfl⟩
      cases h
      rfl
  | ok a =>
    constructor
    · intro h
      cases h
    · rintro ⟨_, h, _⟩
      cases h

/-- a walk over a list fails at the first entry with a fault, and for its fault -/
theorem mapM_eq_error {f : α → Except ε β} {R : α → ε → Prop} {as : List α} {e : ε}
    (hR : ∀ a ∈ as, ∀ d, f a = .error d ↔ R a d) :
    as.mapM f = .error e ↔ ∃ above a below, as = above ++ a :: below ∧
      (∀ b ∈ above, ∀ d, ¬ R b d) ∧ R a e := by
  induction as with
  | nil =>
    rw [List.mapM_nil]
    constructor
    · intro h
      cases h
    · rintro ⟨above, a, below, h, -⟩
      simp at h
  | cons a as ih =>
    have ha := hR a (List.mem_cons_self ..)
    have ih := ih fun b hb => hR b (List.mem_cons_of_mem a hb)
    rw [List.mapM_cons, bind_eq_error]
    constructor
    · rintro (h | ⟨b, hb, h⟩)
      · exact ⟨[], a, as, rfl, List.forall_mem_nil _, (ha e).mp h⟩
      · rcases bind_eq_error.mp h with h | ⟨_, _, h⟩
        · obtain ⟨above, c, below, rfl, habove, hc⟩ := ih.mp h
          refine ⟨a :: above, c, below, rfl, ?_, hc⟩
          intro x hx d
          rcases List.mem_cons.mp hx with rfl | hx
          · rw [← ha d]
            exact exists_ok_iff.mp ⟨b, hb⟩ d
          · exact habove x hx d
        · cases h
    · rintro ⟨above, c, below, has, habove, hc⟩
      cases above with
      | nil =>
        cases has
        exact Or.inl ((ha e).mpr hc)
      | cons x above =>
        cases has
        obtain ⟨b, hb⟩ : ∃ b, f a = .ok b := by
          rw [exists_ok_iff]
          intro d hd
          exact habove a (List.mem_cons_self ..) d ((ha d).mp hd)
        refine Or.inr ⟨b, hb, bind_eq_error.mpr (Or.inl (ih.mpr ⟨above, c, below, rfl, ?_, hc⟩))⟩
        exact fun x hx => habove x (List.mem_cons_of_mem _ hx)

end

/-! ## types -/

open TypeClass

theorem bounds_eq_error {p : Int} {suffix : String} {e : JavaTypeError} :
    JavaType.bounds p suffix = .error e ↔ (JavaType.lengthLimit : Int) ≤ p := by
  unfold JavaType.bounds
  have hlimit : 0 < JavaType.lengthLimit := by decide
  split
  · next hp =>
    constructor
    · intro h
      cases h
    · intro h
      omega
  · split
    · next hp h =>
      constructor
      · intro _
        omega
      · intro _
        rfl
    · next hp h =>
      constructor
      · intro h
        cases h
      · intro _
        omega

theorem classify_eq_number {types : TypeRules} {typeName : String} :
    types.classify typeName = .number ↔ mentions types.number.tokens typeName = true := by
  unfold TypeRules.classify
  constructor
  · intro h
    by_contra hn
    rw [if_neg hn] at h
    split at h
    · cases h
    · split at h <;> cases h
  · intro h
    rw [if_pos h]

theorem numberType_eq_error {rules : NumberRules} {p s : Int} {e : JavaTypeError} :
    rules.javaType p s = .error e ↔ s ≤ 0 ∧ (JavaType.lengthLimit : Int) ≤ p := by
  unfold NumberRules.javaType
  by_cases hs : s > 0
  · rw [if_pos hs]
    constructor
    · intro h
      cases h
    · intro h
      omega
  · have hs' : s ≤ 0 := by omega
    rw [if_neg hs]
    split
    · rw [map_eq_error, bounds_eq_error]
      exact (and_iff_right hs').symm
    · rw [map_eq_error, bounds_eq_error]
      exact (and_iff_right hs').symm

/-- a type is refused exactly if it is a whole number whose upper bound is too long -/
theorem javaType_eq_error {types : TypeRules} {typeName : String} {p s : Int}
    {e : JavaTypeError} : types.javaType typeName p s = .error e ↔
      mentions types.number.tokens typeName = true ∧ s ≤ 0 ∧ (JavaType.lengthLimit : Int) ≤ p := by
  rw [← classify_eq_number]
  unfold TypeRules.javaType
  cases types.classify typeName with
  | number => exact numberType_eq_error.trans (and_iff_right rfl).symm
  | text => exact iff_of_false (fun h => nomatch h) (fun h => nomatch h.1)
  | date => exact iff_of_false (fun h => nomatch h) (fun h => nomatch h.1)
  | other => exact iff_of_false (fun h => nomatch h) (fun h => nomatch h.1)

/-! ## lines -/

namespace Ddl

theorem readSize_eq_error {digits : List Char} {e : DdlError} :
    readSize digits = .error e ↔ 4300 < digits.length ∧ e = .longNumber digits.length := by
  unfold readSize
  have hlimit : digitLimit = 4300 := rfl
  split
  · next h =>
    constructor
    · intro he
      cases he
      exact ⟨by omega, rfl⟩
    · rintro ⟨_, rfl⟩
      rfl
  · next h =>
    constructor
    · intro he
      cases he
    · rintro ⟨hlong, _⟩
      omega

theorem readSize_eq_ok {digits : List Char} {n : Int} :
    readSize digits = .ok n ↔ digits.length ≤ 4300 ∧ n = natOfDigits digits := by
  unfold readSize
  have hlimit : digitLimit = 4300 := rfl
  split
  · next h =>
    constructor
    · intro he
      cases he
    · rintro ⟨hshort, _⟩
      omega
  · next h =>
    constructor
    · intro he
      cases he
      exact ⟨by omega, rfl⟩
    · rintro ⟨_, rfl⟩
      rfl

/-- the faults that a line can have: only its size can be at fault, and the precision is read
before the scale, both before the type -/
inductive SizeFault (rules : Rules) (l : ColumnLine) : DdlError → Prop
  | precision (long : 4300 < l.size.precision.length) :
      SizeFault rules l (.longNumber l.size.precision.length)
  | scale (short : l.size.precision.length ≤ 4300) (long : 4300 < l.size.scale.length) :
      SizeFault rules l (.longNumber l.size.scale.length)
  | nines (precision_short : l.size.precision.length ≤ 4300)
      (scale_short : l.size.scale.length ≤ 4300)
      (number : ∃ t ∈ rules.types.number.tokens, upper t.toList <:+: upper l.typeName.toList)
      (whole : natOfDigits l.size.scale = 0)
      (large : JavaType.lengthLimit ≤ natOfDigits l.size.precision) :
      SizeFault rules l (.size .tooManyNines)

/-- a named line is refused exactly for its fault: its name is never one -/
theorem column_eq_error {rules : Rules} {l : ColumnLine} {isKey : Bool} {e : DdlError}
    (hname : l.name ≠ "") : column rules l isKey = .error e ↔ SizeFault rules l e := by
  obtain ⟨field, hfield⟩ := fieldName_ok rules.naming hname
  constructor
  · intro h
    rcases bind_eq_error.mp h with h | ⟨p, hp, h⟩
    · obtain ⟨hlong, rfl⟩ := readSize_eq_error.mp h
      exact .precision hlong
    obtain ⟨hp_short, rfl⟩ := readSize_eq_ok.mp hp
    rcases bind_eq_error.mp h with h | ⟨s, hs, h⟩
    · obtain ⟨hlong, rfl⟩ := readSize_eq_error.mp h
      exact .scale hp_short hlong
    obtain ⟨hs_short, rfl⟩ := readSize_eq_ok.mp hs
    rcases bind_eq_error.mp h with h | ⟨type, -, h⟩
    · obtain ⟨d, hd, rfl⟩ := mapError_eq_error.mp h
      obtain ⟨hnumber, hscale, hlarge⟩ := javaType_eq_error.mp hd
      cases d
      exact .nines hp_short hs_short (mentions_iff.mp hnumber) (by omega) (by omega)
    · rw [hfield] at h
      cases h
  · intro h
    cases h with
    | precision long => exact bind_eq_error.mpr (Or.inl (readSize_eq_error.mpr ⟨long, rfl⟩))
    | scale short long =>
      refine bind_eq_error.mpr (Or.inr ⟨_, readSize_eq_ok.mpr ⟨short, rfl⟩, ?_⟩)
      exact bind_eq_error.mpr (Or.inl (readSize_eq_error.mpr ⟨long, rfl⟩))
    | nines precision_short scale_short number whole large =>
      have htype : rules.types.javaType l.typeName (natOfDigits l.size.precision)
          (natOfDigits l.size.scale) = .error .tooManyNines :=
        javaType_eq_error.mpr ⟨mentions_iff.mpr number, by omega, by omega⟩
      refine bind_eq_error.mpr (Or.inr ⟨_, readSize_eq_ok.mpr ⟨precision_short, rfl⟩, ?_⟩)
      refine bind_eq_error.mpr (Or.inr ⟨_, readSize_eq_ok.mpr ⟨scale_short, rfl⟩, ?_⟩)
      exact bind_eq_error.mpr (Or.inl (mapError_eq_error.mpr ⟨_, htype, rfl⟩))

/-! ## statements -/

/-- the lines that are looked at closely: those that declare a column whose name no line above
declares -/
def liveLines (cs : List Char) : List ColumnLine := firsts (·.name) (columnLines cs)

theorem name_ne_empty_of_mem_liveLines {cs : List Char} {l : ColumnLine} (h : l ∈ liveLines cs) :
    l.name ≠ "" :=
  (isWordName_of_mem_columnLines (firsts_subset h)).1

/-- the fault of a statement is that of its first line with one -/
theorem ofDdl_eq_error {rules : Rules} {ddl : String} {e : DdlError} :
    Table.ofDdl rules ddl = .error e ↔
      ∃ above l below, liveLines (unquoted ddl) = above ++ l :: below ∧
        (∀ m ∈ above, ∀ d, ¬ SizeFault rules m d) ∧ SizeFault rules l e := by
  obtain ⟨type, -, hddl⟩ := ofDdl_eq rules ddl
  rw [hddl, map_eq_error, keptLines_eq]
  exact mapM_eq_error fun l hl d => column_eq_error (name_ne_empty_of_mem_liveLines hl)

/-- in a list with a fault there is a first one -/
theorem exists_first_fault {rules : Rules} {ls : List ColumnLine} {l : ColumnLine} (hl : l ∈ ls)
    {e : DdlError} (he : SizeFault rules l e) :
    ∃ d above m below, ls = above ++ m :: below ∧ (∀ k ∈ above, ∀ d, ¬ SizeFault rules k d) ∧
      SizeFault rules m d := by
  induction ls with
  | nil => cases hl
  | cons k ls ih =>
    by_cases hk : ∃ d, SizeFault rules k d
    · obtain ⟨d, hd⟩ := hk
      exact ⟨d, [], k, ls, rfl, List.forall_mem_nil _, hd⟩
    · have hmem : l ∈ ls := by
        rcases List.mem_cons.mp hl with rfl | hl
        · exact absurd ⟨e, he⟩ hk
        · exact hl
      obtain ⟨d, above, m, below, rfl, habove, hm⟩ := ih hmem
      refine ⟨d, k :: above, m, below, rfl, ?_, hm⟩
      intro x hx c hc
      rcases List.mem_cons.mp hx with rfl | hx
      · exact hk ⟨c, hc⟩
      · exact habove x hx c hc

/-- **A statement is refused for the size of a line and for nothing else.**  The first live line
with a fault decides; without one the statement gives a table; and no name is ever at fault. -/
theorem ofDdl_eq_error_iff (rules : Rules) (ddl : String) :
    (∀ e, Table.ofDdl rules ddl = .error e ↔
      ∃ above l below, liveLines (unquoted ddl) = above ++ l :: below ∧
        (∀ m ∈ above, ∀ d, ¬ SizeFault rules m d) ∧ SizeFault rules l e) ∧
    ((∃ e, Table.ofDdl rules ddl = .error e) ↔
      ∃ l ∈ liveLines (unquoted ddl), ∃ e, SizeFault rules l e) ∧
    ((∃ t, Table.ofDdl rules ddl = .ok t) ↔
      ∀ l ∈ liveLines (unquoted ddl), ∀ e, ¬ SizeFault rules l e) ∧
    ∀ e, Table.ofDdl rules ddl ≠ .error (.name e) := by
  have hrefused : (∃ e, Table.ofDdl rules ddl = .error e) ↔
      ∃ l ∈ liveLines (unquoted ddl), ∃ e, SizeFault rules l e := by
    constructor
    · rintro ⟨e, he⟩
      obtain ⟨above, l, below, hlive, -, hl⟩ := ofDdl_eq_error.mp he
      exact ⟨l, by rw [hlive]; simp, e, hl⟩
    · rintro ⟨l, hl, e, he⟩
      obtain ⟨d, h⟩ := exists_first_fault hl he
      exact ⟨d, ofDdl_eq_error.mpr h⟩
  refine ⟨fun e => ofDdl_eq_error, hrefused, ?_, ?_⟩
  · rw [exists_ok_iff]
    constructor
    · intro hok l hl e he
      obtain ⟨d, hd⟩ := hrefused.mpr ⟨l, hl, e, he⟩
      exact hok d hd
    · intro hnone e he
      obtain ⟨l, hl, d, hd⟩ := hrefused.mp ⟨e, he⟩
      exact hnone l hl d hd
  · intro e he
    obtain ⟨above, l, below, -, -, hl⟩ := ofDdl_eq_error.mp he
    cases hl

end Ddl

end DdlToJava

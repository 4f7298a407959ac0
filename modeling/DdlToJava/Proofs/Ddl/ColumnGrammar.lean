import DdlToJava.Proofs.Ddl.ColumnPattern

/-!
# The grammar of a column line

The texts that `columnPattern` matches, written down without a choice of how they are matched: a
`Front` is a name, white space and a type that ends where its word does, and a `SizeForm` is a size
in parentheses.

* `SizeForm.read?`, `exists_sizeForm`   a size is read as it is written, whatever follows it, and
                                        what is read is written so;
* `SizeForm.unique`                     so no text begins with two sizes;
* `columnPattern_oneReading`            the pattern matches the lines of the grammar, in one way.
-/

namespace DdlToJava.Ddl

open Text Pattern

/-! ## the grammar -/

/-- white space, which may be empty -/
def IsBlank (cs : List Char) : Prop := ∀ c ∈ cs, isSpace c = true

instance (cs : List Char) : Decidable (IsBlank cs) := decidableForallMem cs

/-- a comma and a scale, or nothing -/
inductive ScaleForm : Option (List Char) → List Char → Prop
  | absent : ScaleForm none []
  | present {a scale b : List Char} (ha : IsBlank a) (hscale : IsRun isDigit scale)
      (hb : IsBlank b) : ScaleForm (some scale) (',' :: (a ++ (scale ++ b)))

/-- the letters of a unit in any case -/
def IsUnit (unit : List Char) : Prop :=
  unit.map foldLetter = "byte".toList ∨ unit.map foldLetter = "char".toList

/-- a unit behind white space, or nothing -/
inductive UnitForm : List Char → Prop
  | absent : UnitForm []
  | present {a unit b : List Char} (ha : IsRun isSpace a)
      (hunit : IsUnit unit) (hb : IsBlank b) : UnitForm (a ++ (unit ++ b))

/-- a size in parentheses with its precision and its scale -/
inductive SizeForm (precision : List Char) (scale : Option (List Char)) : List Char → Prop
  | mk {a b c s u : List Char} (ha : IsBlank a) (hb : IsBlank b)
      (hprecision : IsRun isDigit precision) (hc : IsBlank c) (hscale : ScaleForm scale s)
      (hunit : UnitForm u) :
      SizeForm precision scale (a ++ '(' :: (b ++ (precision ++ (c ++ (s ++ (u ++ [')']))))))

/-- a name, white space and a type, each as long as it can be -/
structure Front (line name type after : List Char) : Prop where
  text : ∃ gap, IsRun isSpace gap ∧ line = name ++ (gap ++ (type ++ after))
  name : IsRun isWord name
  type : IsRun isWord type
  ends : EndsWord after

/-! ## white space -/

theorem IsBlank.nil : IsBlank [] := by
  intro c hc
  cases hc

theorem IsBlank.append {a b : List Char} (ha : IsBlank a) (hb : IsRun isSpace b) :
    IsRun isSpace (a ++ b) where
  ne := List.append_ne_nil_of_right_ne_nil a hb.ne
  all := by
    intro c hc
    rcases List.mem_append.mp hc with hc | hc
    · exact ha c hc
    · exact hb.all c hc

/-- white space in front of something that is none -/
theorem IsBlank.trimStart {w : List Char} (h : IsBlank w) {x : List Char}
    (hx : ∀ c, x.head? = some c → isSpace c = false) : trimStart (w ++ x) = x := by
  rw [trimStart_blanks_append h, trimStart_of_head hx]

/-- what is white space or begins with a character outside `p` ends a run of `p` -/
theorem IsBlank.head {w : List Char} (h : IsBlank w) {p : Char → Bool} {x : List Char}
    (hp : ∀ c, isSpace c = true → p c = false) (hx : ∀ c, x.head? = some c → p c = false) :
    ∀ c, (w ++ x).head? = some c → p c = false := by
  intro c hc
  cases w with
  | nil => exact hx c hc
  | cons d ds =>
    cases hc
    exact hp c (h c (List.mem_cons_self ..))

/-! ## the end of a size -/

/-- the front of what stands behind the digits of a size -/
theorem UnitForm.head {u : List Char} (h : UnitForm u) (x : List Char) :
    ∀ c, (u ++ ')' :: x).head? = some c → isSpace c = true ∨ c = ')' := by
  intro c hc
  cases h with
  | absent =>
    cases hc
    exact .inr rfl
  | present ha hunit hb =>
    rw [List.append_assoc] at hc
    exact .inl (ha.head hc)

/-- the digits of a size end before white space, a comma or the closing parenthesis -/
theorem ScaleForm.head {scale : Option (List Char)} {s u : List Char} (h : ScaleForm scale s)
    (hu : UnitForm u) (x : List Char) :
    ∀ c, (s ++ (u ++ ')' :: x)).head? = some c → isDigit c = false := by
  intro c hc
  cases h with
  | absent =>
    rcases hu.head x c hc with h | rfl
    · exact isDigit_of_isSpace h
    · rfl
  | present =>
    cases hc
    rfl

namespace SizeText

variable {cs rest : List Char}

theorem unit?_append {unit : List Char} (h : IsUnit unit) (x : List Char) :
    unit? (unit ++ x) = some x := by
  rw [unit?]
  rcases h with h | h
  · rw [keyword?_eq_some.mpr ⟨unit, rfl, h⟩]
    rfl
  · have hchar : keyword? "char".toList (unit ++ x) = some x := keyword?_eq_some.mpr ⟨unit, rfl, h⟩
    rcases byte_or_char (unit ++ x) with hbyte | hnone
    · rw [hbyte, hchar]
      rfl
    · rw [hchar] at hnone
      cases hnone

theorem isSpace_head_of_isUnit {unit : List Char} (h : IsUnit unit) (x : List Char) :
    ∀ c, (unit ++ x).head? = some c → isSpace c = false := by
  intro c hc
  cases unit with
  | nil => rcases h with h | h <;> cases h
  | cons d ds =>
    cases hc
    exact isSpace_of_isWord (isWord_of_unit? (unit?_append h x))

theorem exists_unit_of_unit? (h : unit? cs = some rest) :
    ∃ unit, IsUnit unit ∧ cs = unit ++ rest := by
  rw [unit?, Option.or_eq_some_iff] at h
  rcases h with h | ⟨-, h⟩
  · obtain ⟨unit, hcs, hunit⟩ := keyword?_eq_some.mp h
    exact ⟨unit, .inl hunit, hcs⟩
  · obtain ⟨unit, hcs, hunit⟩ := keyword?_eq_some.mp h
    exact ⟨unit, .inr hunit, hcs⟩

theorem isSpace_head_close (x : List Char) :
    ∀ c, (')' :: x).head? = some c → isSpace c = false := by
  intro c hc
  cases hc
  rfl

theorem skipUnit_blank_append {c : List Char} (hc : IsBlank c) (x : List Char) :
    skipUnit (c ++ ')' :: x) = ')' :: x := by
  by_cases hne : c = []
  · rw [hne, List.nil_append]
    exact skipUnit_noBlank rfl
  · have hblanks : blanks? (c ++ ')' :: x) = some (')' :: x) := by
      rw [blanks?_append ⟨hne, hc⟩, trimStart_of_head (isSpace_head_close x)]
    exact skipUnit_noUnit hblanks (unit?_of_not rfl x)

theorem skipUnit_unit_append {a unit b : List Char} (ha : IsRun isSpace a) (hunit : IsUnit unit)
    (hb : IsBlank b) (x : List Char) : skipUnit (a ++ (unit ++ (b ++ ')' :: x))) = ')' :: x := by
  have hblanks : blanks? (a ++ (unit ++ (b ++ ')' :: x))) = some (unit ++ (b ++ ')' :: x)) := by
    rw [blanks?_append ha, trimStart_of_head (isSpace_head_of_isUnit hunit _)]
  rw [skipUnit_unit hblanks (unit?_append hunit _), hb.trimStart (isSpace_head_close x)]

/-- white space and a unit in front of the closing parenthesis -/
theorem skipUnit_append {c u : List Char} (hc : IsBlank c) (hu : UnitForm u) (x : List Char) :
    skipUnit (c ++ (u ++ ')' :: x)) = ')' :: x := by
  cases hu with
  | absent => exact skipUnit_blank_append hc x
  | @present a unit b ha hunit hb =>
    -- the white space in front of the unit is one run with that behind the digits
    have htext : c ++ (a ++ (unit ++ b) ++ ')' :: x) = c ++ a ++ (unit ++ (b ++ ')' :: x)) := by
      simp only [List.append_assoc]
    rw [htext]
    exact skipUnit_unit_append (hc.append ha) hunit hb x

theorem exists_unitForm (h : symbol? ')' (skipUnit cs) = some rest) :
    ∃ c u, IsBlank c ∧ UnitForm u ∧ cs = c ++ (u ++ ')' :: rest) := by
  have hskip : skipUnit cs = ')' :: rest := symbol?_eq_some.mp h
  cases hcs : blanks? cs with
  | none =>
    rw [skipUnit_noBlank hcs] at hskip
    exact ⟨[], [], IsBlank.nil, UnitForm.absent, hskip⟩
  | some r =>
    obtain ⟨gap, hgap, rfl⟩ := exists_run_of_blanks? hcs
    cases hunit : unit? r with
    | none =>
      rw [skipUnit_noUnit hcs hunit] at hskip
      exact ⟨gap, [], hgap.all, UnitForm.absent, by rw [hskip]; rfl⟩
    | some v =>
      rw [skipUnit_unit hcs hunit] at hskip
      obtain ⟨unit, hletters, rfl⟩ := exists_unit_of_unit? hunit
      obtain ⟨b, hv, hb⟩ := exists_blanks_append_trimStart v
      refine ⟨[], gap ++ (unit ++ b), IsBlank.nil, UnitForm.present hgap hletters hb, ?_⟩
      rw [hskip] at hv
      simp [hv]

theorem scaleAndRest?_absent {c u : List Char} (hc : IsBlank c) (hu : UnitForm u)
    (x : List Char) : scaleAndRest? (c ++ (u ++ ')' :: x)) = some ([], x) := by
  have hskip := skipUnit_append hc hu x
  have hnone : scale? (trimStart (c ++ (u ++ ')' :: x))) = none := by
    cases h : scale? (trimStart (c ++ (u ++ ')' :: x))) with
    | none => rfl
    | some v =>
      have hclose := close?_of_scale? h
      rw [hskip] at hclose
      cases hclose
  rw [scaleAndRest?, hnone, hskip]
  rfl

theorem scale?_append {a scale b z : List Char} (ha : IsBlank a) (hscale : IsRun isDigit scale)
    (hb : IsBlank b) (hz : ∀ c, z.head? = some c → isDigit c = false) :
    scale? (',' :: (a ++ (scale ++ (b ++ z)))) = some (scale, b ++ z) := by
  have hdigits : run? isDigit (trimStart (a ++ (scale ++ (b ++ z)))) = some (scale, b ++ z) := by
    rw [ha.trimStart fun d hd => isSpace_of_isDigit (hscale.head hd)]
    exact run?_eq_some_iff.mpr ⟨rfl, hscale, hb.head (fun _ => isDigit_of_isSpace) hz⟩
  exact scale?_eq_some.mpr ⟨_, rfl, hdigits⟩

theorem scaleAndRest?_append {c s u : List Char} {scale : Option (List Char)} (hc : IsBlank c)
    (hs : ScaleForm scale s) (hu : UnitForm u) (x : List Char) :
    scaleAndRest? (c ++ (s ++ (u ++ ')' :: x))) = some (scale.getD [], x) := by
  cases hs with
  | absent => exact scaleAndRest?_absent hc hu x
  | @present a scale b ha hscale hb =>
    have hcomma : trimStart (c ++ (',' :: (a ++ (scale ++ b)) ++ (u ++ ')' :: x))) =
        ',' :: (a ++ (scale ++ (b ++ (u ++ ')' :: x)))) := by
      rw [hc.trimStart]
      · simp only [List.cons_append, List.append_assoc]
      · intro d hd
        cases hd
        rfl
    have hread := scale?_append ha hscale hb (z := u ++ ')' :: x) (ScaleForm.absent.head hu x)
    rw [scaleAndRest?, hcomma, hread]
    dsimp only
    rw [skipUnit_append hb hu x]
    rfl

theorem exists_scaleForm {v : List Char × List Char} (h : scaleAndRest? cs = some v) :
    ∃ c s u scale, IsBlank c ∧ ScaleForm scale s ∧ UnitForm u ∧ v.1 = scale.getD [] ∧
      cs = c ++ (s ++ (u ++ ')' :: v.2)) := by
  rw [scaleAndRest?] at h
  cases hscale : scale? (trimStart cs) with
  | none =>
    rw [hscale] at h
    obtain ⟨r, hr, rfl⟩ := Option.map_eq_some_iff.mp h
    obtain ⟨c, u, hc, hu, hcs⟩ := exists_unitForm hr
    exact ⟨c, [], u, none, hc, ScaleForm.absent, hu, rfl, hcs⟩
  | some w =>
    rw [hscale] at h
    obtain ⟨r, hr, rfl⟩ := Option.map_eq_some_iff.mp h
    obtain ⟨t, ht, hdigits⟩ := scale?_eq_some.mp hscale
    obtain ⟨hw, hrun, -⟩ := run?_eq_some_iff.mp hdigits
    obtain ⟨c, hcs, hc⟩ := exists_blanks_append_trimStart cs
    obtain ⟨a, hta, ha⟩ := exists_blanks_append_trimStart t
    obtain ⟨b, u, hb, hu, hw2⟩ := exists_unitForm hr
    refine ⟨c, ',' :: (a ++ (w.1 ++ b)), u, some w.1, hc, ScaleForm.present ha hrun hb, hu, rfl, ?_⟩
    calc cs = c ++ ',' :: t := by rw [← ht]; exact hcs
      _ = c ++ ',' :: (a ++ (w.1 ++ (b ++ (u ++ ')' :: r)))) := by rw [← hw2, ← hw]; exact hta ▸ rfl
      _ = c ++ (',' :: (a ++ (w.1 ++ b)) ++ (u ++ ')' :: r)) := by
        simp only [List.cons_append, List.append_assoc]

end SizeText

/-! ## the size -/

/-- a size is read as it is written -/
theorem SizeForm.read? {precision size : List Char} {scale : Option (List Char)}
    (h : SizeForm precision scale size) (x : List Char) :
    SizeText.read? (size ++ x) = some (⟨precision, scale.getD []⟩, x) := by
  cases h with
  | @mk a b c s u ha hb hprecision hc hscale hunit =>
    have hopen : trimStart (a ++ '(' :: (b ++ (precision ++ (c ++ (s ++ (u ++ [')']))))) ++ x) =
        '(' :: (b ++ (precision ++ (c ++ (s ++ (u ++ ')' :: x))))) := by
      rw [List.append_assoc, ha.trimStart]
      · simp only [List.cons_append, List.append_assoc, List.nil_append]
      · intro d hd
        cases hd
        rfl
    have hdigits : run? isDigit (trimStart (b ++ (precision ++ (c ++ (s ++ (u ++ ')' :: x)))))) =
        some (precision, c ++ (s ++ (u ++ ')' :: x))) := by
      rw [hb.trimStart fun d hd => isSpace_of_isDigit (hprecision.head hd)]
      exact run?_eq_some_iff.mpr ⟨rfl, hprecision,
        hc.head (fun _ => isDigit_of_isSpace) (hscale.head hunit x)⟩
    rw [SizeText.read?_eq, symbol?_eq_some.mpr hopen, Option.bind_some, hdigits, Option.bind_some,
      SizeText.scaleAndRest?_append hc hscale hunit]
    rfl

/-- what is read is written as a size -/
theorem exists_sizeForm {cs rest : List Char} {z : SizeText}
    (h : SizeText.read? cs = some (z, rest)) :
    ∃ size scale, SizeForm z.precision scale size ∧ z.scale = scale.getD [] ∧
      cs = size ++ rest := by
  rw [SizeText.read?_eq] at h
  obtain ⟨r, hr, h⟩ := Option.bind_eq_some_iff.mp h
  obtain ⟨w, hdigits, h⟩ := Option.bind_eq_some_iff.mp h
  obtain ⟨v, hv, h⟩ := Option.map_eq_some_iff.mp h
  cases h
  obtain ⟨hw, hrun, -⟩ := run?_eq_some_iff.mp hdigits
  obtain ⟨a, hcs, ha⟩ := exists_blanks_append_trimStart cs
  obtain ⟨b, hrb, hb⟩ := exists_blanks_append_trimStart r
  obtain ⟨c, s, u, scale, hc, hs, hu, hscale, hw2⟩ := SizeText.exists_scaleForm hv
  refine ⟨_, scale, SizeForm.mk ha hb hrun hc hs hu, hscale, ?_⟩
  rw [symbol?_eq_some.mp hr, hrb, hw, hw2] at hcs
  rw [hcs]
  simp only [List.cons_append, List.append_assoc, List.nil_append]

theorem SizeForm.scale_ne {precision size : List Char} {scale : Option (List Char)}
    (h : SizeForm precision scale size) : scale ≠ some [] := by
  cases h with
  | mk ha hb hprecision hc hscale hunit =>
    cases hscale with
    | absent =>
      intro hs
      cases hs
    | present _ hs _ =>
      intro hnil
      exact hs.ne (Option.some.inj hnil)

theorem eq_of_getD_nil {s t : Option (List Char)} (hs : s ≠ some []) (ht : t ≠ some [])
    (h : s.getD [] = t.getD []) : s = t := by
  cases s with
  | none =>
    cases t with
    | none => rfl
    | some y => exact absurd (congrArg some h.symm) ht
  | some x =>
    cases t with
    | none => exact absurd (congrArg some h) hs
    | some y => exact congrArg some h

/-- a text begins with one size at most -/
theorem SizeForm.unique {precision size precision' size' cs : List Char}
    {scale scale' : Option (List Char)} (h : SizeForm precision scale size)
    (h' : SizeForm precision' scale' size') (hcs : size <+: cs) (hcs' : size' <+: cs) :
    size' = size ∧ precision' = precision ∧ scale' = scale := by
  obtain ⟨r, rfl⟩ := hcs
  obtain ⟨r', hr'⟩ := hcs'
  have hread := h'.read? r'
  rw [hr', h.read? r] at hread
  obtain ⟨hsize, rfl⟩ := Prod.mk.inj (Option.some.inj hread)
  obtain ⟨hprecision, hscale⟩ := SizeText.mk.inj hsize
  exact ⟨List.append_cancel_right hr', hprecision.symm,
    eq_of_getD_nil h'.scale_ne h.scale_ne hscale.symm⟩

/-- the groups of a size that has been read -/
theorem SizeForm.groups {precision size : List Char} {scale : Option (List Char)}
    (h : SizeForm precision scale size) :
    SizeText.groups ⟨precision, scale.getD []⟩ =
      (3, precision) :: scale.toList.map fun digits => (4, digits) := by
  cases scale with
  | none => rfl
  | some digits =>
    have hne : digits ≠ [] := fun hnil => h.scale_ne (congrArg some hnil)
    simp [SizeText.groups, scaleGroup, hne]

/-! ## the column -/

theorem Front.first? {line name type after : List Char} (h : Front line name type after) :
    columnPattern.first? line = some (behind [(1, name), (2, type)] (sizeMatch after)) := by
  obtain ⟨⟨gap, hgap, rfl⟩, hname, htype, hends⟩ := h
  have hword : word? (name ++ (gap ++ (type ++ after))) =
      some (name, gap ++ (type ++ after)) :=
    run?_eq_some_iff.mpr ⟨rfl, hname, fun c hc => isWord_of_isSpace (hgap.head hc)⟩
  have hblanks : blanks? (gap ++ (type ++ after)) = some (type ++ after) := by
    rw [blanks?_append hgap, trimStart_of_head fun c hc => isSpace_of_isWord (htype.head hc)]
  have htypeWord : word? (type ++ after) = some (type, after) :=
    run?_eq_some_iff.mpr ⟨rfl, htype, hends⟩
  rw [first?_columnPattern, hword, Option.bind_some, hblanks, Option.bind_some, htypeWord]
  rfl

theorem exists_front {line : List Char} (h : (columnPattern.first? line).isSome = true) :
    ∃ name type after, Front line name type after := by
  obtain ⟨m, hm⟩ := Option.isSome_iff_exists.mp h
  rw [first?_columnPattern] at hm
  obtain ⟨n, hn, hm⟩ := Option.bind_eq_some_iff.mp hm
  obtain ⟨r, hr, hm⟩ := Option.bind_eq_some_iff.mp hm
  obtain ⟨t, ht, -⟩ := Option.map_eq_some_iff.mp hm
  obtain ⟨hline, hname, -⟩ := run?_eq_some_iff.mp hn
  obtain ⟨gap, hgap, hgapText⟩ := exists_run_of_blanks? hr
  obtain ⟨htypeText, htype, hends⟩ := run?_eq_some_iff.mp ht
  exact ⟨n.1, t.1, t.2, ⟨gap, hgap, by rw [hline, hgapText, htypeText]⟩, hname, htype, hends⟩

/-- what the column pattern and the reader make of a line -/
structure OneReading (line : List Char) : Prop where
  /-- the lines that match are those with a name, white space and a type in front -/
  accepts : (columnPattern.first? line).isSome = true ↔
    ∃ name type after, Front line name type after
  /-- a size behind the type is matched up to its closing parenthesis -/
  sized : ∀ {name type size rest precision : List Char} {scale : Option (List Char)},
    Front line name type (size ++ rest) → SizeForm precision scale size →
      columnPattern.first? line = some ((1, name) :: (2, type) :: (3, precision) ::
        scale.toList.map fun digits => (4, digits), rest)
  /-- without a size the match ends behind the type -/
  unsized : ∀ {name type after : List Char}, Front line name type after →
    (∀ precision scale size, SizeForm precision scale size → ¬ size <+: after) →
      columnPattern.first? line = some ([(1, name), (2, type)], after)
  /-- there is one size at most behind the type -/
  oneSize : ∀ {name type after size size' precision precision' : List Char}
    {scale scale' : Option (List Char)}, Front line name type after →
      SizeForm precision scale size → size <+: after →
      SizeForm precision' scale' size' → size' <+: after →
        size' = size ∧ precision' = precision ∧ scale' = scale
  /-- the reader gives what the pattern matches -/
  reader : ColumnLine.read? line = (columnPattern.first? line).map ColumnLine.ofMatch

/-- every line has one reading -/
theorem columnPattern_oneReading (line : List Char) : OneReading line where
  accepts := by
    constructor
    · exact exists_front
    · rintro ⟨name, type, after, h⟩
      rw [h.first?]
      rfl
  sized := by
    intro name type size rest precision scale hfront hsize
    rw [hfront.first?, sizeMatch_of_some (hsize.read? rest), hsize.groups]
    rfl
  unsized := by
    intro name type after hfront hnone
    have hread : SizeText.read? after = none := by
      cases h : SizeText.read? after with
      | none => rfl
      | some u =>
        obtain ⟨size, scale, hsize, -, hafter⟩ := exists_sizeForm h
        exact absurd ⟨u.2, hafter.symm⟩ (hnone _ _ _ hsize)
    rw [hfront.first?, sizeMatch_of_none hread]
    rfl
  oneSize := by
    intro name type after size size' precision precision' scale scale' _ h hcs h' hcs'
    exact h.unique h' hcs hcs'
  reader := ColumnLine.read?_eq_columnPattern line

/-- a size with white space wherever it may stand, and a unit -/
theorem sizeForm_spaced :
    SizeForm "10".toList (some "2".toList) " ( 10 , 2  byte )".toList := by
  have hblank : IsBlank [' '] := by decide
  have hprecision : IsRun isDigit "10".toList := ⟨by decide, by decide⟩
  have hdigits : IsRun isDigit "2".toList := ⟨by decide, by decide⟩
  have hgap : IsRun isSpace "  ".toList := ⟨by decide, by decide⟩
  have hunit : IsUnit "byte".toList := .inl (by decide)
  exact SizeForm.mk hblank hblank hprecision hblank (ScaleForm.present hblank hdigits IsBlank.nil)
    (UnitForm.present hgap hunit hblank)

theorem front_spaced : Front "A NUMBER ( 10 , 2  byte ) x".toList "A".toList "NUMBER".toList
    (" ( 10 , 2  byte )".toList ++ " x".toList) where
  text := ⟨[' '], ⟨by decide, by decide⟩, by decide⟩
  name := ⟨by decide, by decide⟩
  type := ⟨by decide, by decide⟩
  ends := EndsWord.cons (by decide) _

theorem columnPattern_oneReading_spaced :
    columnPattern.first? "A NUMBER ( 10 , 2  byte ) x".toList =
      some ([(1, "A".toList), (2, "NUMBER".toList), (3, "10".toList), (4, "2".toList)],
        " x".toList) :=
  (columnPattern_oneReading _).sized front_spaced sizeForm_spaced

/-- a unit that touches the digits is none, and what the groups held is gone with the size -/
example : columnPattern.first? "A CHAR(10,2BYTE)".toList =
    some ([(1, "A".toList), (2, "CHAR".toList)], "(10,2BYTE)".toList) := by
  decide

end DdlToJava.Ddl

import DdlToJava.Proofs.Identifier.Camel

/-!
# Prefixes of an identifier

Some identifiers are spelled in several ways that lead to the same Java name.

* A known prefix can be glued to the first segment or stand in front of it with an underscore.  The
  fields are the same exactly if in neither spelling a first segment of three characters is dropped
  (`fieldName_glued_iff`).
* A table prefix can be put in as a segment anywhere.  The type stays the same as long as another
  segment is kept (`typeName_insertSegment_iff`), for the first segment and the number of segments
  are looked at when the table prefixes are gone.

Both rest on `segmentsOf_eq_map`: no letter looks past an underscore for its small letter, so the
segments are put in small letters one by one.
-/

namespace DdlToJava.Text

/-! ## small letters on both sides of an underscore -/

/-- an underscore is neither a letter nor a mark that is looked through -/
theorem startsCased_append_underscore (a b : List Char) :
    startsCased (a ++ '_' :: b) = startsCased a := by
  induction a with
  | nil => rfl
  | cons c a ih =>
    unfold startsCased at ih ⊢
    rw [List.cons_append]
    by_cases hc : isTransparent c = true
    · rw [List.dropWhile_cons_of_pos hc, List.dropWhile_cons_of_pos hc, ih]
    · rw [List.dropWhile_cons_of_neg hc, List.dropWhile_cons_of_neg hc]

theorem lowerFrom_append_underscore (after : Bool) (a b : List Char) :
    lowerFrom after (a ++ '_' :: b) = lowerFrom after a ++ '_' :: lower b := by
  induction a generalizing after with
  | nil => exact lowerFrom_cons_ascii (by decide) after b
  | cons c a ih =>
    rw [List.cons_append, lowerFrom, lowerFrom, ih, startsCased_append_underscore,
      List.append_assoc]

theorem lower_append_underscore (a b : List Char) :
    lower (a ++ '_' :: b) = lower a ++ '_' :: lower b :=
  lowerFrom_append_underscore false a b

theorem lower_intercalate (ps : List (List Char)) :
    lower (['_'].intercalate ps) = ['_'].intercalate (ps.map lower) := by
  induction ps with
  | nil => rfl
  | cons p ps ih =>
    cases ps with
    | nil => rw [List.map_singleton, List.intercalate_singleton, List.intercalate_singleton]
    | cons q qs =>
      rw [List.map_cons, List.map_cons, List.intercalate_cons_cons, List.intercalate_cons_cons,
        List.append_assoc, List.append_assoc, List.singleton_append, List.singleton_append,
        lower_append_underscore, ih, List.map_cons]

theorem underscore_not_mem_lower {cs : List Char} (h : '_' ∉ cs) : '_' ∉ lower cs :=
  fun hmem => h (mem_lower (by decide) hmem)

/-! ## texts put together and taken apart -/

theorem length_lower_of_ascii {cs : List Char} (h : ∀ c ∈ cs, c.toNat < 128) :
    (lower cs).length = cs.length := by
  rw [lower_of_ascii h, List.length_map]

theorem lowerChar_ne_nil (c : Char) : lowerChar c ≠ [] := by
  unfold lowerChar
  split
  · exact List.cons_ne_nil _ _
  · split
    · exact List.cons_ne_nil _ _
    · exact List.cons_ne_nil _ _

theorem lower_eq_nil_iff {s : List Char} : lower s = [] ↔ s = [] := by
  cases s with
  | nil => exact Iff.rfl
  | cons c cs =>
    rw [lower, lowerFrom, List.append_eq_nil_iff]
    refine iff_of_false (fun h => ?_) (List.cons_ne_nil c cs)
    have hfront := h.1
    split at hfront
    · exact List.cons_ne_nil _ _ hfront
    · exact lowerChar_ne_nil c hfront

theorem capitalize_eq_nil_iff {s : List Char} : capitalize s = [] ↔ s = [] := by
  cases s with
  | nil => exact Iff.rfl
  | cons c cs =>
    rw [capitalize_cons, List.append_eq_nil_iff]
    exact iff_of_false (fun h => upperChar_ne_nil c h.1) (List.cons_ne_nil c cs)

theorem pieces_append_of_not_mem {sep : Char} {a b first : List Char} {rest : List (List Char)}
    (h : sep ∉ a) (hb : pieces sep b = first :: rest) :
    pieces sep (a ++ b) = (a ++ first) :: rest := by
  induction a with
  | nil => exact hb
  | cons c a ih =>
    rw [List.cons_append, pieces_cons_of_ne _ (List.ne_of_not_mem_cons h).symm,
      ih (List.not_mem_of_not_mem_cons h)]
    rfl

end DdlToJava.Text

namespace DdlToJava

open Text

namespace Identifier

/-! ## segments as they are written -/

/-- the segments of an identifier as they are written -/
def written (name : String) : List (List Char) := name.toList.splitOn '_'

theorem written_eq_pieces (name : String) : written name = pieces '_' name.toList :=
  (pieces_eq_splitOn '_' name.toList).symm

theorem underscore_not_mem_written {name : String} {s : List Char} (hs : s ∈ written name) :
    '_' ∉ s := by
  rw [written_eq_pieces] at hs
  exact not_mem_of_mem_pieces hs

theorem written_ne_nil (name : String) : written name ≠ [] := by
  rw [written_eq_pieces]
  exact pieces_ne_nil '_' _

/-- each segment is put in small letters as if it stood alone -/
theorem segmentsOf_eq_map (name : String) : segmentsOf name = (written name).map lower := by
  have hlacks : ∀ s ∈ (written name).map lower, '_' ∉ s := by
    intro s hs
    obtain ⟨p, hp, rfl⟩ := List.mem_map.mp hs
    exact underscore_not_mem_lower (underscore_not_mem_written hp)
  have hne : (written name).map lower ≠ [] := by
    rw [ne_eq, List.map_eq_nil_iff]
    exact written_ne_nil name
  have hpieces := pieces_intercalate hne hlacks
  rw [← lower_intercalate, written_eq_pieces, intercalate_pieces] at hpieces
  rw [← segments_eq, written_eq_pieces]
  exact hpieces

/-- the segments of a field name and of a type name -/
theorem fieldSegments_eq (rules : NamingRules) (name : String) :
    fieldSegments rules name = withoutShort rules (segmentsOf name) := by
  rw [fieldSegments, segments_eq, stripShort_eq]

theorem typeNameSegments_eq (rules : NamingRules) (name : String) :
    typeNameSegments rules name = typeParts rules (segmentsOf name) := by
  rw [typeNameSegments, segments_eq, typeSegments_eq]

/-! ## known prefixes -/

/-- the known prefixes are rows of `n` ASCII letters, and `n` is not zero -/
structure PrefixLength (rules : NamingRules) (n : Nat) : Prop where
  pos : 0 < n
  letters : ∀ p ∈ rules.knownPrefixes, ∀ c ∈ p.toList, c.isAlpha = true
  length : ∀ p ∈ rules.knownPrefixes, p.length = n

theorem IsAscii.append {a b : String} (ha : IsAscii a) (hb : IsAscii b) : IsAscii (a ++ b) := by
  unfold IsAscii
  rw [String.toList_append]
  exact List.forall_mem_append.mpr ⟨ha, hb⟩

section
variable {rules : NamingRules} {n : Nat} {p : String} {first : List Char} {rest : List (List Char)}

namespace PrefixLength

variable (h : PrefixLength rules n) (hp : p ∈ rules.knownPrefixes)
include h hp

theorem isAscii : IsAscii p := fun c hc =>
  toNat_lt_of_isAlphanum (isAlphanum_of_isAlpha (h.letters p hp c hc))

theorem length_lower : (lower p.toList).length = n := by
  rw [length_lower_of_ascii (h.isAscii hp), String.length_toList]
  exact h.length p hp

theorem not_mem_lower : '_' ∉ lower p.toList := by
  apply underscore_not_mem_lower
  intro hmem
  have hletter := h.letters p hp '_' hmem
  cases hletter

/-- behind a known prefix no other one is found: it would be as long -/
theorem gluedPrefix?_append (hfirst : first ≠ []) :
    gluedPrefix? rules (lower p.toList ++ first) = some (lower p.toList) := by
  have hgoesOn : GoesOnAfter p (lower p.toList ++ first) := by
    refine ⟨List.prefix_append _ _, fun hsame => hfirst ?_⟩
    exact List.append_right_eq_self.mp hsame.symm
  cases hfound : gluedPrefix? rules (lower p.toList ++ first) with
  | none =>
    have hnone := List.find?_eq_none.mp hfound (lower p.toList) (List.mem_map_of_mem hp)
    rw [Bool.and_eq_true, decide_eq_true_eq, goesOnAfter_iff] at hnone
    exact absurd hgoesOn hnone
  | some w =>
    obtain ⟨before, q, after, hlist, ⟨hq, -⟩, rfl⟩ := gluedPrefix?_eq_some_iff.mp hfound
    have hmem : q ∈ rules.knownPrefixes := by
      rw [hlist]
      exact List.mem_append_right before (List.mem_cons_self ..)
    have hlength : (lower q.toList).length = (lower p.toList).length := by
      rw [h.length_lower hmem, h.length_lower hp]
    have hfront := List.prefix_of_prefix_length_le hq.1 hgoesOn.1 hlength.le
    rw [hfront.eq_of_length hlength]

/-- no known prefix is shorter than another one -/
theorem gluedPrefix?_self : gluedPrefix? rules (lower p.toList) = none := by
  refine List.find?_eq_none.mpr fun w hw => ?_
  obtain ⟨q, hq, rfl⟩ := List.mem_map.mp hw
  rw [Bool.and_eq_true, decide_eq_true_eq, h.length_lower hp, h.length_lower hq]
  exact fun hfound => Nat.lt_irrefl n hfound.2

/-- the capital behind a glued prefix is the capital of a segment of its own -/
theorem fieldOfSegments_glued (hfirst : first ≠ []) :
    fieldOfSegments rules ((lower p.toList ++ first) :: rest) =
      lower p.toList ++ camel (first :: rest) := by
  rw [fieldOfSegments, fieldHead, h.gluedPrefix?_append hp hfirst]
  dsimp only
  rw [List.drop_left, camel_cons, List.append_assoc]

theorem fieldOfSegments_apart :
    fieldOfSegments rules (lower p.toList :: first :: rest) =
      lower p.toList ++ camel (first :: rest) := by
  rw [fieldOfSegments, fieldHead, h.gluedPrefix?_self hp]

theorem dropsFirst_glued_iff :
    DropsFirst rules ((lower p.toList ++ first) :: rest) ↔
      rules.stripThreeLetterPrefix = true ∧ rest ≠ [] ∧ n + first.length = 3 := by
  unfold DropsFirst
  rw [List.head?_cons, Option.map_some, Option.some.injEq, List.length_append, h.length_lower hp,
    List.length_cons, ← List.length_pos_iff]
  exact and_congr_right fun _ => and_congr_left fun _ => Nat.succ_le_succ_iff

theorem dropsFirst_apart_iff :
    DropsFirst rules (lower p.toList :: first :: rest) ↔
      rules.stripThreeLetterPrefix = true ∧ n = 3 := by
  unfold DropsFirst
  rw [List.head?_cons, Option.map_some, Option.some.injEq, h.length_lower hp, List.length_cons,
    List.length_cons, and_iff_right (Nat.le_add_left 2 rest.length)]

/-- when nothing is dropped from either spelling -/
theorem not_dropsFirst_iff :
    ¬ DropsFirst rules ((lower p.toList ++ first) :: rest) ∧
        ¬ DropsFirst rules (lower p.toList :: first :: rest) ↔
      rules.stripThreeLetterPrefix = false ∨ n ≠ 3 ∧ (rest = [] ∨ n + first.length ≠ 3) := by
  rw [h.dropsFirst_glued_iff hp, h.dropsFirst_apart_iff hp]
  cases rules.stripThreeLetterPrefix with
  | false => simp
  | true =>
    simp only [true_and, reduceCtorEq, false_or, not_and_or, ne_eq, not_not]
    exact and_comm

/-- Whatever is dropped from one spelling leaves it with fewer letters than the other: it is never
dropped from both, for a glued segment is longer than the prefix. -/
theorem length_kept_iff (hfirst : first ≠ []) :
    (withoutShort rules ((lower p.toList ++ first) :: rest)).flatten.length =
        (withoutShort rules (lower p.toList :: first :: rest)).flatten.length ↔
      ¬ DropsFirst rules ((lower p.toList ++ first) :: rest) ∧
        ¬ DropsFirst rules (lower p.toList :: first :: rest) := by
  have hpos := List.length_pos_iff.mpr hfirst
  have hn := h.pos
  unfold withoutShort
  by_cases hglued : DropsFirst rules ((lower p.toList ++ first) :: rest)
  · obtain ⟨-, -, hthree⟩ := (h.dropsFirst_glued_iff hp).mp hglued
    have hapart : ¬ DropsFirst rules (lower p.toList :: first :: rest) := by
      rw [h.dropsFirst_apart_iff hp]
      omega
    rw [if_pos hglued, if_neg hapart]
    refine iff_of_false (fun hsame => ?_) fun hnone => hnone.1 hglued
    simp only [List.tail_cons, List.flatten_cons, List.length_append, h.length_lower hp] at hsame
    omega
  · by_cases hapart : DropsFirst rules (lower p.toList :: first :: rest)
    · rw [if_neg hglued, if_pos hapart]
      refine iff_of_false (fun hsame => ?_) fun hnone => hnone.2 hapart
      simp only [List.tail_cons, List.flatten_cons, List.length_append, h.length_lower hp] at hsame
      omega
    · rw [if_neg hglued, if_neg hapart]
      refine iff_of_true ?_ ⟨hglued, hapart⟩
      simp only [List.flatten_cons, List.append_assoc]

end PrefixLength

section
variable {name : String}

/-- a glued prefix lengthens the first segment -/
theorem segmentsOf_glued (h : PrefixLength rules n) (hp : p ∈ rules.knownPrefixes)
    (hname : IsAscii name) (hsegments : segmentsOf name = first :: rest) :
    segmentsOf (p ++ name) = (lower p.toList ++ first) :: rest := by
  have hlower : lower (p ++ name).toList = lower p.toList ++ lower name.toList := by
    rw [lower_of_ascii ((h.isAscii hp).append hname), String.toList_append, List.map_append,
      lower_of_ascii (h.isAscii hp), lower_of_ascii hname]
  rw [← segments_eq, segments] at hsegments ⊢
  rw [hlower, pieces_append_of_not_mem (h.not_mem_lower hp) hsegments]

/-- a prefix with an underscore is a segment of its own -/
theorem segmentsOf_apart (h : PrefixLength rules n) (hp : p ∈ rules.knownPrefixes) :
    segmentsOf (p ++ "_" ++ name) = lower p.toList :: segmentsOf name := by
  have hchars : (p ++ "_" ++ name).toList = p.toList ++ '_' :: name.toList := by
    rw [String.toList_append, String.toList_append, List.append_assoc]
    rfl
  rw [← segments_eq, ← segments_eq, segments, segments, hchars, lower_append_underscore,
    pieces_append_sep (h.not_mem_lower hp)]

/-- a field name has as many letters as the segments it is made of -/
theorem length_fieldName (hname : IsAscii name) {field : String}
    (hfield : rules.fieldName name = .ok field) :
    field.length = (withoutShort rules (segmentsOf name)).flatten.length := by
  have hletters := congrArg List.length (toLower_fieldName hname hfield)
  rwa [List.length_map, String.length_toList, fieldSegments_eq] at hletters

/-- the two spellings have the same field exactly if nothing is dropped from either -/
theorem PrefixLength.fields_eq_iff (h : PrefixLength rules n) (hp : p ∈ rules.knownPrefixes)
    (hname : IsAscii name) (hsegments : segmentsOf name = first :: rest) (hfirst : first ≠ [])
    {glued apart : String} (hglued : rules.fieldName (p ++ name) = .ok glued)
    (hapart : rules.fieldName (p ++ "_" ++ name) = .ok apart) :
    glued = apart ↔
      rules.stripThreeLetterPrefix = false ∨ n ≠ 3 ∧ (rest = [] ∨ n + first.length ≠ 3) := by
  have hascii := h.isAscii hp
  have hunderscore : IsAscii "_" := by
    unfold IsAscii
    decide
  have hgluedLength := length_fieldName (hascii.append hname) hglued
  have hapartLength := length_fieldName ((hascii.append hunderscore).append hname) hapart
  rw [segmentsOf_glued h hp hname hsegments] at hgluedLength
  rw [segmentsOf_apart h hp, hsegments] at hapartLength
  rw [← h.not_dropsFirst_iff hp]
  constructor
  · intro hsame
    rw [← h.length_kept_iff hp hfirst, ← hgluedLength, ← hapartLength, hsame]
  · rintro ⟨hkeepsGlued, hkeepsApart⟩
    rw [← String.toList_inj, toList_fieldName hglued, toList_fieldName hapart, fieldSegments_eq,
      fieldSegments_eq, segmentsOf_glued h hp hname hsegments, segmentsOf_apart h hp, hsegments,
      withoutShort, withoutShort, if_neg hkeepsGlued, if_neg hkeepsApart,
      h.fieldOfSegments_glued hp hfirst, h.fieldOfSegments_apart hp]

theorem forall_mem_written (hname : IsAscii name) {s : List Char} (hs : s ∈ written name) :
    ∀ c ∈ s, c.toNat < 128 := by
  rw [written_eq_pieces] at hs
  exact fun c hc => hname c (mem_of_mem_pieces hc hs)

/-- a name without underscores is one segment -/
theorem not_mem_underscore_iff (hwritten : written name = first :: rest) :
    '_' ∉ name.toList ↔ rest = [] := by
  have hcount := length_pieces '_' name.toList
  rw [← written_eq_pieces, hwritten, List.length_cons] at hcount
  rw [← List.count_eq_zero, ← List.length_eq_zero_iff]
  omega

end

end

/-! ## table prefixes -/

/-- the identifier with the segment `g` put in behind the first `i` segments -/
def insertSegment (g : String) (i : Nat) (name : String) : String :=
  String.ofList (['_'].intercalate ((written name).take i ++ g.toList :: (written name).drop i))

section
variable {rules : NamingRules} {name g : String} {parts : List (List Char)} {s : List Char}

/-- the segment that was put in is a segment -/
theorem written_insertSegment (hg : '_' ∉ g.toList) (i : Nat) (name : String) :
    written (insertSegment g i name) =
      (written name).take i ++ g.toList :: (written name).drop i := by
  unfold insertSegment
  rw [written_eq_pieces (String.ofList _), String.toList_ofList, pieces_intercalate]
  · exact List.append_ne_nil_of_right_ne_nil _ (List.cons_ne_nil _ _)
  · rw [List.forall_mem_append, List.forall_mem_cons]
    exact ⟨fun s hs => underscore_not_mem_written (List.mem_of_mem_take hs), hg,
      fun s hs => underscore_not_mem_written (List.mem_of_mem_drop hs)⟩

theorem segmentsOf_insertSegment (hg : '_' ∉ g.toList) (i : Nat) (name : String) :
    segmentsOf (insertSegment g i name) =
      (segmentsOf name).take i ++ lower g.toList :: (segmentsOf name).drop i := by
  rw [segmentsOf_eq_map, written_insertSegment hg, segmentsOf_eq_map, List.map_append,
    List.map_cons, List.map_take, List.map_drop]

theorem insertSegment_ne_empty (hg : '_' ∉ g.toList) (i : Nat) (name : String) :
    insertSegment g i name ≠ "" := by
  intro hempty
  have hlength := congrArg List.length (written_insertSegment hg i name)
  have hone : written "" = [[]] := rfl
  have hpos := List.length_pos_iff.mpr (written_ne_nil name)
  rw [hempty, hone, List.length_append, List.length_singleton, List.length_take, List.length_cons,
    List.length_drop] at hlength
  omega

/-- a table prefix is gone before the segments are counted -/
theorem withoutPrefixes_insert (hs : ∃ p ∈ rules.tablePrefixes, lower p.toList = s) (i : Nat)
    (parts : List (List Char)) :
    withoutPrefixes rules (parts.take i ++ s :: parts.drop i) = withoutPrefixes rules parts := by
  obtain ⟨p, hp, hsame⟩ := hs
  unfold withoutPrefixes
  rw [List.filter_append, List.filter_cons_of_neg, ← List.filter_append, List.take_append_drop]
  rw [decide_eq_true_eq]
  exact fun hnone => hnone p hp hsame

theorem withoutPrefixes_ne_nil_iff :
    withoutPrefixes rules parts ≠ [] ↔
      ∃ s ∈ parts, ∀ p ∈ rules.tablePrefixes, lower p.toList ≠ s := by
  unfold withoutPrefixes
  rw [ne_eq, List.filter_eq_nil_iff]
  simp

/-- only an empty segment leaves no trace -/
theorem camel_insert_iff {i : Nat} :
    camel (parts.take i ++ s :: parts.drop i) = camel parts ↔ s = [] := by
  have hparts : camel parts = camel (parts.take i) ++ camel (parts.drop i) := by
    rw [← camel_append, List.take_append_drop]
  rw [camel_append, camel_cons, hparts, List.append_cancel_left_eq, List.append_left_eq_self,
    capitalize_eq_nil_iff]

end

end Identifier

open Identifier

/-- **A known prefix is read the same glued and with an underscore** exactly if no first segment of
three characters is dropped: neither the prefix itself, nor the prefix with the segment it is glued
to.  All known prefixes are of one length, so that none of them hides another. -/
theorem fieldName_glued_iff {rules : NamingRules} {n : Nat} (hknown : PrefixLength rules n)
    {p : String} (hp : p ∈ rules.knownPrefixes) {name : String} (hname : IsAscii name)
    {first : List Char} (hfirst : (written name).head? = some first) (hne : first ≠ []) :
    ∃ glued apart, rules.fieldName (p ++ name) = .ok glued ∧
      rules.fieldName (p ++ "_" ++ name) = .ok apart ∧
      (glued = apart ↔ rules.stripThreeLetterPrefix = false ∨
        n ≠ 3 ∧ ('_' ∉ name.toList ∨ n + first.length ≠ 3)) := by
  obtain ⟨others, hwritten⟩ := List.head?_eq_some_iff.mp hfirst
  have hsegments : segmentsOf name = lower first :: others.map lower := by
    rw [segmentsOf_eq_map, hwritten, List.map_cons]
  have hsmall : lower first ≠ [] := by rwa [ne_eq, lower_eq_nil_iff]
  have hascii : ∀ c ∈ first, c.toNat < 128 := by
    apply forall_mem_written hname
    rw [hwritten]
    exact List.mem_cons_self ..
  have hp0 : p ≠ "" := by
    rintro rfl
    exact absurd (hknown.length "" hp) hknown.pos.ne
  have hgluedName : p ++ name ≠ "" := fun h => hp0 (String.append_eq_empty_iff.mp h).1
  have hapartName : p ++ "_" ++ name ≠ "" := fun h =>
    hp0 (String.append_eq_empty_iff.mp (String.append_eq_empty_iff.mp h).1).1
  obtain ⟨glued, hglued⟩ := Ddl.fieldName_ok rules hgluedName
  obtain ⟨apart, hapart⟩ := Ddl.fieldName_ok rules hapartName
  refine ⟨glued, apart, hglued, hapart, ?_⟩
  rw [hknown.fields_eq_iff hp hname hsegments hsmall hglued hapart, not_mem_underscore_iff hwritten,
    length_lower_of_ascii hascii, List.map_eq_nil_iff]

/-- the prefixes of the built-in rules have two letters -/
theorem prefixLength_default : PrefixLength {} 2 := ⟨by decide, by decide, by decide⟩

/-- with a single letter behind it the glued prefix is dropped -/
theorem fieldName_glued_iff_nr :
    (∃ field, NamingRules.fieldName {} ("nr" ++ "CONTA__1x") = .ok field ∧
      NamingRules.fieldName {} ("nr" ++ "_" ++ "CONTA__1x") = .ok field) ∧
    ∃ glued apart, NamingRules.fieldName {} ("nr" ++ "c_conta") = .ok glued ∧
      NamingRules.fieldName {} ("nr" ++ "_" ++ "c_conta") = .ok apart ∧ glued ≠ apart := by
  have hnr : "nr" ∈ ({} : NamingRules).knownPrefixes := by decide
  have hlong : IsAscii "CONTA__1x" := by
    unfold IsAscii
    decide
  have hshort : IsAscii "c_conta" := by
    unfold IsAscii
    decide
  constructor
  · obtain ⟨glued, apart, hglued, hapart, hsame⟩ := fieldName_glued_iff prefixLength_default hnr
      hlong (by decide : (written "CONTA__1x").head? = some "CONTA".toList) (by decide)
    obtain rfl : glued = apart := hsame.mpr (by decide)
    exact ⟨glued, hglued, hapart⟩
  · obtain ⟨glued, apart, hglued, hapart, hsame⟩ := fieldName_glued_iff prefixLength_default hnr
      hshort (by decide : (written "c_conta").head? = some "c".toList) (by decide)
    exact ⟨glued, apart, hglued, hapart, fun h => absurd (hsame.mp h) (by decide)⟩

/-- **A table prefix can be put in as a segment anywhere** without a trace in the type, exactly if
there is nothing in it or some segment of the identifier is kept.  The first segment of three
characters is looked for only when the table prefixes are gone. -/
theorem typeName_insertSegment_iff (rules : NamingRules) {name g : String} (hne : name ≠ "")
    (hg : '_' ∉ g.toList) (htable : ∃ p ∈ rules.tablePrefixes, lower p.toList = lower g.toList)
    (i : Nat) :
    ∃ type inserted, rules.typeName name = .ok type ∧
      rules.typeName (insertSegment g i name) = .ok inserted ∧
      (inserted = type ↔ g = "" ∨
        ∃ s ∈ written name, ∀ p ∈ rules.tablePrefixes, lower p.toList ≠ lower s) := by
  obtain ⟨type, htype⟩ := Ddl.typeName_ok rules hne
  obtain ⟨inserted, hinserted⟩ := Ddl.typeName_ok rules (insertSegment_ne_empty hg i name)
  refine ⟨type, inserted, htype, hinserted, ?_⟩
  have hkept : withoutPrefixes rules (segmentsOf (insertSegment g i name)) =
      withoutPrefixes rules (segmentsOf name) := by
    rw [segmentsOf_insertSegment hg, withoutPrefixes_insert htable]
  have hsome : withoutPrefixes rules (segmentsOf name) ≠ [] ↔
      ∃ s ∈ written name, ∀ p ∈ rules.tablePrefixes, lower p.toList ≠ lower s := by
    simp only [withoutPrefixes_ne_nil_iff, segmentsOf_eq_map, List.mem_map,
      exists_exists_and_eq_and]
  rw [← String.toList_inj, toList_typeName htype, toList_typeName hinserted, typeNameSegments_eq,
    typeNameSegments_eq, ← hsome, typeParts, typeParts, hkept]
  by_cases hall : withoutPrefixes rules (segmentsOf name) = []
  · rw [if_pos hall, if_pos hall, segmentsOf_insertSegment hg, camel_insert_iff, lower_eq_nil_iff,
      String.toList_eq_nil_iff, or_iff_left (not_not_intro hall)]
  · rw [if_neg hall, if_neg hall]
    exact iff_of_true rfl (Or.inr hall)

/-- a prefix in front of a segment that is dropped, and one beside a segment that is a prefix -/
theorem typeName_insertSegment_iff_tb :
    (insertSegment "tB" 0 "ABC_Item" = "tB_ABC_Item" ∧
      ∃ type, NamingRules.typeName {} "ABC_Item" = .ok type ∧
        NamingRules.typeName {} "tB_ABC_Item" = .ok type) ∧
    (insertSegment "tB" 1 "TB" = "TB_tB" ∧
      ∃ type inserted, NamingRules.typeName {} "TB" = .ok type ∧
        NamingRules.typeName {} "TB_tB" = .ok inserted ∧ inserted ≠ type) := by
  have htable : ∃ p ∈ ({} : NamingRules).tablePrefixes, lower p.toList = lower "tB".toList :=
    ⟨"tb", by decide, by decide⟩
  have hfront : insertSegment "tB" 0 "ABC_Item" = "tB_ABC_Item" := by decide +kernel
  have hend : insertSegment "tB" 1 "TB" = "TB_tB" := by decide +kernel
  refine ⟨⟨hfront, ?_⟩, hend, ?_⟩
  · obtain ⟨type, inserted, htype, hinserted, hsame⟩ :=
      typeName_insertSegment_iff {} (by decide : "ABC_Item" ≠ "") (by decide) htable 0
    rw [hfront] at hinserted
    obtain rfl : inserted = type := hsame.mpr (by decide)
    exact ⟨inserted, htype, hinserted⟩
  · obtain ⟨type, inserted, htype, hinserted, hsame⟩ :=
      typeName_insertSegment_iff {} (by decide : "TB" ≠ "") (by decide) htable 1
    rw [hend] at hinserted
    exact ⟨type, inserted, htype, hinserted, fun h => absurd (hsame.mp h) (by decide)⟩

end DdlToJava

import DdlToJava.Proofs.Identifier.Usable

/-!
# Where the capitals of a Java name stand

In ASCII a Java name is a row of segments of the identifier in small letters, run together without
the underscores, and some of its letters are capitals (`Camel`).  A letter is a capital exactly

* in a type name, where a segment begins (`StartsAt`);
* in a field name, where a segment behind the first begins, or behind the known prefix that the
  first segment goes on after (`BehindPrefix`).

`HasCapitals P cs` says that the capitals of `cs` are its letters at the places `P`.  It is proved
for one segment (`hasCapitals_capitalize`, `hasCapitals_fieldHead`), goes through concatenation
(`HasCapitals.append`) and so holds of the segments run together (`hasCapitals_camel`).
-/

namespace DdlToJava

open Text

namespace Identifier

/-! ## the segments that are kept -/

theorem pieces_eq_splitOn (sep : Char) (cs : List Char) : pieces sep cs = cs.splitOn sep := by
  have h := List.splitOn_intercalate sep (fun _ hp => not_mem_of_mem_pieces hp)
    (pieces_ne_nil sep cs)
  rw [intercalate_pieces] at h
  exact h.symm

/-- the segments of an identifier: what stands between the underscores, in small letters -/
def segmentsOf (name : String) : List (List Char) := (lower name.toList).splitOn '_'

theorem segments_eq (name : String) : segments name.toList = segmentsOf name :=
  pieces_eq_splitOn '_' (lower name.toList)

/-- is the first segment dropped for its length? -/
def DropsFirst (rules : NamingRules) (parts : List (List Char)) : Prop :=
  rules.stripThreeLetterPrefix = true ∧ 2 ≤ parts.length ∧ parts.head?.map List.length = some 3

instance (rules : NamingRules) (parts : List (List Char)) : Decidable (DropsFirst rules parts) :=
  inferInstanceAs (Decidable (_ ∧ _ ∧ _))

/-- the segments without a first one of three characters -/
def withoutShort (rules : NamingRules) (parts : List (List Char)) : List (List Char) :=
  if DropsFirst rules parts then parts.tail else parts

theorem stripShort_eq (rules : NamingRules) (parts : List (List Char)) :
    stripShort rules parts = withoutShort rules parts := by
  unfold withoutShort DropsFirst
  match parts with
  | [] => simp [stripShort_nil]
  | [s] => simp [stripShort_single]
  | s :: t :: rest => simp [stripShort]

/-- the segments that are no table prefixes in small letters -/
def withoutPrefixes (rules : NamingRules) (parts : List (List Char)) : List (List Char) :=
  parts.filter fun s => ∀ p ∈ rules.tablePrefixes, lower p.toList ≠ s

/-- the segments that a type name is made of -/
def typeParts (rules : NamingRules) (parts : List (List Char)) : List (List Char) :=
  if withoutPrefixes rules parts = [] then parts
  else withoutShort rules (withoutPrefixes rules parts)

theorem filter_isTablePrefix (rules : NamingRules) (parts : List (List Char)) :
    parts.filter (fun s => !isTablePrefix rules s) = withoutPrefixes rules parts := by
  unfold withoutPrefixes isTablePrefix
  refine List.filter_congr fun s _ => ?_
  rw [Bool.eq_iff_iff]
  simp

theorem typeSegments_eq (rules : NamingRules) (parts : List (List Char)) :
    typeSegments rules parts = typeParts rules parts := by
  unfold typeSegments typeParts
  rw [filter_isTablePrefix, ← stripShort_eq]
  by_cases h : withoutPrefixes rules parts = []
  · rw [if_pos h, h, stripShort_nil]
  · rw [if_neg h]
    split
    · next hnil => exact absurd hnil (stripShort_ne_nil rules h)
    · rfl

/-! ## places -/

/-- segment `i` is not empty, and begins at place `k` of the segments run together -/
def StartsAt (parts : List (List Char)) (i k : Nat) : Prop :=
  (∃ c p, parts[i]? = some (c :: p)) ∧ (parts.take i).flatten.length = k

/-- the segment goes on after the known prefix `p` in small letters -/
def GoesOnAfter (p : String) (segment : List Char) : Prop :=
  lower p.toList <+: segment ∧ lower p.toList ≠ segment

/-- place `k` is behind the first known prefix that the first segment goes on after -/
def BehindPrefix (rules : NamingRules) (parts : List (List Char)) (k : Nat) : Prop :=
  ∃ before p after, rules.knownPrefixes = before ++ p :: after ∧
    (∃ head ∈ parts.head?, GoesOnAfter p head ∧ ∀ q ∈ before, ¬ GoesOnAfter q head) ∧
    (lower p.toList).length = k

/-! ## capitals -/

/-- the capitals of the text are its letters at the places `P` -/
def HasCapitals (P : Nat → Prop) (cs : List Char) : Prop :=
  ∀ k c, cs[k]? = some c → (c.isUpper = true ↔ c.isAlpha = true ∧ P k)

section
variable {P Q R : Nat → Prop} {a b cs : List Char}

theorem HasCapitals.congr (h : HasCapitals P cs) (hPQ : ∀ k, P k ↔ Q k) : HasCapitals Q cs := by
  intro k c hk
  rw [h k c hk, hPQ]

theorem HasCapitals.append (ha : HasCapitals P a) (hb : HasCapitals Q b)
    (hP : ∀ k < a.length, P k ↔ R k) (hQ : ∀ k, Q k ↔ R (a.length + k)) :
    HasCapitals R (a ++ b) := by
  intro k c hk
  by_cases hlt : k < a.length
  · rw [List.getElem?_append_left hlt] at hk
    rw [ha k c hk, hP k hlt]
  · rw [List.getElem?_append_right (Nat.le_of_not_lt hlt)] at hk
    rw [hb _ c hk, hQ, Nat.add_sub_cancel' (Nat.le_of_not_lt hlt)]

/-- there are no capitals in small letters -/
theorem hasCapitals_small (h : ∀ c ∈ cs, IsSmall c) : HasCapitals (fun _ => False) cs := by
  intro k c hk
  have hsmall := (h c (List.mem_of_getElem? hk)).not_upper
  rw [hsmall]
  simp

theorem isUpper_toUpper_iff {c : Char} (h : IsSmall c) :
    c.toUpper.isUpper = true ↔ c.toUpper.isAlpha = true := by
  have hall : c.isUpper = false → (c.toUpper.isUpper = true ↔ c.toUpper.isAlpha = true) :=
    forall_ascii h.ascii (by decide +kernel)
  exact hall h.not_upper

/-- a capital first letter is the only one -/
theorem hasCapitals_capitalize (h : ∀ c ∈ cs, IsSmall c) :
    HasCapitals (fun k => k = 0) (capitalize cs) := by
  cases cs with
  | nil =>
    intro k c hk
    cases hk
  | cons d cs =>
    have hd := h d (List.mem_cons_self ..)
    have hfirst : HasCapitals (fun k => k = 0) [d.toUpper] := by
      intro k c hk
      obtain ⟨hk0, hc⟩ := List.getElem?_eq_some_iff.mp hk
      have hzero : k = 0 := by simpa using hk0
      subst hzero
      have hc : d.toUpper = c := hc
      rw [← hc, isUpper_toUpper_iff hd, and_iff_left rfl]
    rw [capitalize_cons, hd.upperChar]
    apply hfirst.append (hasCapitals_small fun c hc => h c (List.mem_cons_of_mem d hc))
    · exact fun k _ => Iff.rfl
    · intro k
      simp

theorem length_capitalize (h : ∀ c ∈ cs, IsSmall c) : (capitalize cs).length = cs.length := by
  cases cs with
  | nil => rfl
  | cons d cs =>
    rw [capitalize_cons, (h d (List.mem_cons_self ..)).upperChar]
    rfl

end

/-! ## segments with capitals -/

section
variable {p : List Char} {ps : List (List Char)} {i k : Nat}

theorem startsAt_zero_iff : StartsAt (p :: ps) 0 k ↔ p ≠ [] ∧ k = 0 := by
  unfold StartsAt
  cases p with
  | nil => simp
  | cons c p => simp [eq_comm]

theorem startsAt_succ_iff :
    StartsAt (p :: ps) (i + 1) k ↔ p.length ≤ k ∧ StartsAt ps i (k - p.length) := by
  unfold StartsAt
  rw [List.getElem?_cons_succ, List.take_succ_cons, List.flatten_cons, List.length_append]
  constructor
  · rintro ⟨hseg, rfl⟩
    exact ⟨Nat.le_add_right _ _, hseg, by omega⟩
  · rintro ⟨hle, hseg, hlen⟩
    exact ⟨hseg, by omega⟩

/-- no segment behind the first one begins inside it -/
theorem le_of_startsAt_succ (h : ∃ i, 0 < i ∧ StartsAt (p :: ps) i k) : p.length ≤ k := by
  obtain ⟨i, hi, hstart⟩ := h
  obtain ⟨j, rfl⟩ := Nat.exists_eq_succ_of_ne_zero (Nat.pos_iff_ne_zero.mp hi)
  exact (startsAt_succ_iff.mp hstart).1

/-- the segments behind the first one begin behind it -/
theorem exists_startsAt_behind_iff :
    (∃ i, 0 < i ∧ StartsAt (p :: ps) i (p.length + k)) ↔ ∃ i, StartsAt ps i k := by
  constructor
  · rintro ⟨i, hi, hstart⟩
    obtain ⟨j, rfl⟩ := Nat.exists_eq_succ_of_ne_zero (Nat.pos_iff_ne_zero.mp hi)
    obtain ⟨-, hj⟩ := startsAt_succ_iff.mp hstart
    rw [Nat.add_sub_cancel_left] at hj
    exact ⟨j, hj⟩
  · rintro ⟨j, hj⟩
    refine ⟨j + 1, Nat.succ_pos j, startsAt_succ_iff.mpr ⟨Nat.le_add_right _ _, ?_⟩⟩
    rwa [Nat.add_sub_cancel_left]

theorem exists_startsAt_iff :
    (∃ i, StartsAt (p :: ps) i k) ↔
      (p ≠ [] ∧ k = 0) ∨ ∃ i, 0 < i ∧ StartsAt (p :: ps) i k := by
  constructor
  · rintro ⟨i, hi⟩
    cases i with
    | zero => exact Or.inl (startsAt_zero_iff.mp hi)
    | succ i => exact Or.inr ⟨i + 1, Nat.succ_pos i, hi⟩
  · rintro (h | ⟨i, -, hi⟩)
    · exact ⟨0, startsAt_zero_iff.mpr h⟩
    · exact ⟨i, hi⟩

/-- the segments with capitals have them where they begin -/
theorem hasCapitals_camel {parts : List (List Char)} (h : ∀ p ∈ parts, ∀ c ∈ p, IsSmall c) :
    HasCapitals (fun k => ∃ i, StartsAt parts i k) (camel parts) := by
  induction parts with
  | nil =>
    intro k c hk
    cases hk
  | cons p ps ih =>
    have hp := h p (List.mem_cons_self ..)
    rw [camel_cons]
    apply (hasCapitals_capitalize hp).append (ih fun q hq => h q (List.mem_cons_of_mem p hq))
    · intro k hk
      rw [length_capitalize hp] at hk
      have hne : p ≠ [] := List.ne_nil_of_length_pos (Nat.zero_lt_of_lt hk)
      rw [exists_startsAt_iff, and_iff_right hne,
        or_iff_left fun hbehind => Nat.not_le.mpr hk (le_of_startsAt_succ hbehind)]
    · intro k
      have hfirst : ¬ (p ≠ [] ∧ p.length + k = 0) := by
        rintro ⟨hne, hzero⟩
        exact hne (List.eq_nil_of_length_eq_zero (Nat.eq_zero_of_add_eq_zero_right hzero))
      rw [length_capitalize hp, exists_startsAt_iff, or_iff_right hfirst,
        exists_startsAt_behind_iff]

end

/-! ## the first segment of a field name -/

section
variable {rules : NamingRules} {head : List Char} {rest : List (List Char)} {k : Nat}

theorem goesOnAfter_iff {p : String} :
    (lower p.toList).isPrefixOf head = true ∧ (lower p.toList).length < head.length ↔
      GoesOnAfter p head := by
  unfold GoesOnAfter
  rw [List.isPrefixOf_iff_prefix]
  refine and_congr_right fun hfront => ⟨?_, fun hne => ?_⟩
  · rintro hlt rfl
    exact Nat.lt_irrefl _ hlt
  · exact Nat.lt_of_le_of_ne hfront.length_le fun hlen => hne (hfront.eq_of_length hlen)

/-- the prefix that is found is the first that the segment goes on after -/
theorem gluedPrefix?_eq_some_iff {w : List Char} :
    gluedPrefix? rules head = some w ↔
      ∃ before p after, rules.knownPrefixes = before ++ p :: after ∧
        (GoesOnAfter p head ∧ ∀ q ∈ before, ¬ GoesOnAfter q head) ∧ lower p.toList = w := by
  unfold gluedPrefix?
  rw [List.find?_map, Option.map_eq_some_iff]
  simp only [List.find?_eq_some_iff_append, Function.comp_apply, Bool.and_eq_true,
    decide_eq_true_eq, Bool.not_eq_true', ← Bool.not_eq_true, goesOnAfter_iff]
  constructor
  · rintro ⟨p, ⟨hp, before, after, hlist, hbefore⟩, rfl⟩
    exact ⟨before, p, after, hlist, ⟨hp, hbefore⟩, rfl⟩
  · rintro ⟨before, p, after, hlist, ⟨hp, hbefore⟩, rfl⟩
    exact ⟨p, ⟨hp, before, after, hlist, hbefore⟩, rfl⟩

theorem behindPrefix_iff :
    BehindPrefix rules (head :: rest) k ↔ ∃ w, gluedPrefix? rules head = some w ∧ w.length = k := by
  simp only [gluedPrefix?_eq_some_iff]
  constructor
  · rintro ⟨before, p, after, hlist, ⟨h, hh, hfirst⟩, hlen⟩
    obtain rfl : head = h := by simpa using hh
    exact ⟨_, ⟨before, p, after, hlist, hfirst, rfl⟩, hlen⟩
  · rintro ⟨_, ⟨before, p, after, hlist, hfirst, rfl⟩, hlen⟩
    exact ⟨before, p, after, hlist, ⟨head, rfl, hfirst⟩, hlen⟩

theorem length_fieldHead (h : ∀ c ∈ head, IsSmall c) :
    (fieldHead rules head).length = head.length := by
  unfold fieldHead
  cases hp : gluedPrefix? rules head with
  | none => rfl
  | some w =>
    have hcat := isPrefix_of_gluedPrefix? hp
    have hdrop : ∀ c ∈ head.drop w.length, IsSmall c := fun c hc => h c (List.mem_of_mem_drop hc)
    dsimp only
    rw [List.length_append, length_capitalize hdrop, ← List.length_append, hcat]

/-- the capital of a first segment stands behind its prefix -/
theorem hasCapitals_fieldHead (h : ∀ c ∈ head, IsSmall c) :
    HasCapitals (BehindPrefix rules (head :: rest)) (fieldHead rules head) := by
  unfold fieldHead
  cases hp : gluedPrefix? rules head with
  | none =>
    apply (hasCapitals_small h).congr
    intro k
    rw [behindPrefix_iff, hp]
    simp
  | some w =>
    have hcat := isPrefix_of_gluedPrefix? hp
    have hw : ∀ c ∈ w, IsSmall c := by
      intro c hc
      apply h
      rw [← hcat]
      exact List.mem_append_left _ hc
    have hdrop : ∀ c ∈ head.drop w.length, IsSmall c := fun c hc => h c (List.mem_of_mem_drop hc)
    apply (hasCapitals_small hw).append (hasCapitals_capitalize hdrop)
    · intro k hk
      rw [behindPrefix_iff, hp]
      simp [Nat.ne_of_gt hk]
    · intro k
      rw [behindPrefix_iff, hp]
      simp [eq_comm]

/-- a field name has its capitals behind the prefix and where the segments behind the first one
begin -/
theorem hasCapitals_fieldOfSegments {parts : List (List Char)}
    (h : ∀ p ∈ parts, ∀ c ∈ p, IsSmall c) :
    HasCapitals (fun k => (∃ i, 0 < i ∧ StartsAt parts i k) ∨ BehindPrefix rules parts k)
      (fieldOfSegments rules parts) := by
  cases parts with
  | nil =>
    intro k c hk
    cases hk
  | cons head rest =>
    have hhead := h head (List.mem_cons_self ..)
    have hrest : ∀ p ∈ rest, ∀ c ∈ p, IsSmall c := fun p hp => h p (List.mem_cons_of_mem head hp)
    have hcapitals : HasCapitals (BehindPrefix rules (head :: rest)) (fieldHead rules head) :=
      hasCapitals_fieldHead hhead
    apply hcapitals.append (hasCapitals_camel hrest)
    · intro k hk
      rw [length_fieldHead hhead] at hk
      rw [or_iff_right fun hbehind => Nat.not_le.mpr hk (le_of_startsAt_succ hbehind)]
    · intro k
      have hnot : ¬ BehindPrefix rules (head :: rest) (head.length + k) := by
        rw [behindPrefix_iff]
        rintro ⟨w, hw, hlen⟩
        obtain ⟨_, p, _, _, ⟨hp, -⟩, rfl⟩ := gluedPrefix?_eq_some_iff.mp hw
        have hlt := (goesOnAfter_iff.mpr hp).2
        omega
      rw [length_fieldHead hhead, or_iff_left hnot, exists_startsAt_behind_iff]

end

/-! ## names -/

/-- the name is the segments run together, with capitals at the places `P` and nowhere else -/
structure Camel (parts : List (List Char)) (P : Nat → Prop) (name : String) : Prop where
  ascii : IsAscii name
  noUnderscore : '_' ∉ name.toList
  lower_eq : lower name.toList = parts.flatten
  capitals : HasCapitals P name.toList

/-- only ASCII characters have ASCII letters for small letters -/
theorem isAscii_of_toLower {name : String} {cs : List Char}
    (hletters : name.toList.map Char.toLower = cs) (hcs : ∀ c ∈ cs, c.toNat < 128) :
    IsAscii name := by
  intro c hc
  by_contra hnot
  apply hnot
  apply hcs
  rw [← hletters]
  exact List.mem_map.mpr ⟨c, hc, toLower_of_not_ascii hnot⟩

/-- a name whose small letters are segments of an ASCII identifier -/
theorem camel_of_toLower {name : String} (hascii : IsAscii name) {java : String}
    {parts : List (List Char)} (hparts : parts ⊆ segments name.toList)
    (hletters : java.toList.map Char.toLower = parts.flatten) {P : Nat → Prop}
    (hcapitals : HasCapitals P java.toList) : Camel parts P java := by
  have hjava : IsAscii java := by
    apply isAscii_of_toLower hletters
    intro c hc
    obtain ⟨p, hp, hcp⟩ := List.mem_flatten.mp hc
    exact (isSmall_of_mem_segments hascii (hparts hp) c hcp).ascii
  refine ⟨hjava, ?_, (lower_of_ascii hjava).trans hletters, hcapitals⟩
  intro hmem
  have hflat : '_' ∈ parts.flatten := by
    rw [← hletters]
    exact List.mem_map.mpr ⟨'_', hmem, rfl⟩
  obtain ⟨p, hp, hunderscore⟩ := List.mem_flatten.mp hflat
  exact not_mem_of_mem_pieces (hparts hp) hunderscore

section
variable {rules : NamingRules} {name : String}

theorem camel_fieldName (hascii : IsAscii name) {field : String}
    (hfield : rules.fieldName name = .ok field) :
    Camel (fieldSegments rules name)
      (fun k => (∃ i, 0 < i ∧ StartsAt (fieldSegments rules name) i k) ∨
        BehindPrefix rules (fieldSegments rules name) k) field := by
  have hsub : fieldSegments rules name ⊆ segments name.toList := stripShort_subset rules _
  apply camel_of_toLower hascii hsub (toLower_fieldName hascii hfield)
  rw [toList_fieldName hfield]
  exact hasCapitals_fieldOfSegments fun p hp => isSmall_of_mem_segments hascii (hsub hp)

theorem camel_typeName (hascii : IsAscii name) {type : String}
    (htype : rules.typeName name = .ok type) :
    Camel (typeNameSegments rules name) (fun k => ∃ i, StartsAt (typeNameSegments rules name) i k)
      type := by
  have hsub : typeNameSegments rules name ⊆ segments name.toList := typeSegments_subset rules _
  apply camel_of_toLower hascii hsub (toLower_typeName hascii htype)
  rw [toList_typeName htype]
  exact hasCapitals_camel fun p hp => isSmall_of_mem_segments hascii (hsub hp)

end

end Identifier

open Identifier

/-- **A Java name loses and invents no letters.**  Both names of an ASCII identifier are the
segments that are kept, run together; a field name has its capitals where the segments behind the
first one begin and behind a known prefix of the first, a type name where the segments begin. -/
theorem names_camel (rules : NamingRules) {name : String} (hne : name ≠ "")
    (hascii : IsAscii name) :
    ∃ field type, rules.fieldName name = .ok field ∧ rules.typeName name = .ok type ∧
      Camel (withoutShort rules (segmentsOf name))
        (fun k => (∃ i, 0 < i ∧ StartsAt (withoutShort rules (segmentsOf name)) i k) ∨
          BehindPrefix rules (withoutShort rules (segmentsOf name)) k) field ∧
      Camel (typeParts rules (segmentsOf name))
        (fun k => ∃ i, StartsAt (typeParts rules (segmentsOf name)) i k) type := by
  obtain ⟨field, hfield⟩ := Ddl.fieldName_ok rules hne
  obtain ⟨type, htype⟩ := Ddl.typeName_ok rules hne
  have hfieldParts : fieldSegments rules name = withoutShort rules (segmentsOf name) := by
    rw [fieldSegments, segments_eq, stripShort_eq]
  have htypeParts : typeNameSegments rules name = typeParts rules (segmentsOf name) := by
    rw [typeNameSegments, segments_eq, typeSegments_eq]
  refine ⟨field, type, hfield, htype, ?_, ?_⟩
  · rw [← hfieldParts]
    exact camel_fieldName hascii hfield
  · rw [← htypeParts]
    exact camel_typeName hascii htype

/-- an identifier that has a prefix glued to its second segment and an empty one behind it -/
def glued : String := "COD_NRCONTA__1x_y"

def gluedParts : List (List Char) := ["nrconta".toList, [], "1x".toList, "y".toList]

theorem names_camel_glued :
    NamingRules.fieldName {} glued = .ok "nrConta1xY" ∧
      NamingRules.typeName {} glued = .ok "Nrconta1xY" ∧
      Camel gluedParts
        (fun k => (∃ i, 0 < i ∧ StartsAt gluedParts i k) ∨ BehindPrefix {} gluedParts k)
        "nrConta1xY" ∧
      Camel gluedParts (fun k => ∃ i, StartsAt gluedParts i k) "Nrconta1xY" := by
  have hascii : IsAscii glued := by
    unfold IsAscii
    decide
  have hf : NamingRules.fieldName {} glued = .ok "nrConta1xY" := by decide +kernel
  have ht : NamingRules.typeName {} glued = .ok "Nrconta1xY" := by decide +kernel
  have hfieldParts : withoutShort {} (segmentsOf glued) = gluedParts := by decide +kernel
  have htypeParts : typeParts {} (segmentsOf glued) = gluedParts := by decide +kernel
  obtain ⟨field, type, hfield, htype, hfieldCamel, htypeCamel⟩ :=
    names_camel {} (by decide) hascii
  cases hf.symm.trans hfield
  cases ht.symm.trans htype
  rw [hfieldParts] at hfieldCamel
  rw [htypeParts] at htypeCamel
  exact ⟨hf, ht, hfieldCamel, htypeCamel⟩

end DdlToJava

import DdlToJava.Proofs.JavaType.Token
import DdlToJava.Proofs.Text.Case
import DdlToJava.Proofs.Text.Rows
import Mathlib.Algebra.Order.Ring.Int

/-!
# How a database type is read

A type name has one reading: the first class that has a token in it, both in capitals (`Reads`).
What a reading gives for a precision and a scale is said by the rules of `Gives`, without the order
in which anything is tried:

* `nines_eq`              a run of nines is the numeral of the largest number with so many digits;
* `reads_iff`             the reading is the class that is found first;
* `javaType_eq_ok_iff`    a Java type is found exactly if the reading gives it;
* `javaType_withTokens`   neither the order of the tokens nor the ASCII case of a letter matters;
* `Gives.lacksMinus`      no constraint has a minus sign in it.

`javaType_coherent` puts them together.
-/

namespace DdlToJava

open Text TypeClass JavaType

/-! ## numbers in a constraint -/

theorem toDigits_ten_pow_sub_one (n : Nat) :
    Nat.toDigits 10 (10 ^ (n + 1) - 1) = List.replicate (n + 1) '9' := by
  induction n with
  | zero => rfl
  | succ n ih =>
    have hpos : 0 < 10 ^ n := Nat.pow_pos (by decide)
    have hsplit : 10 ^ (n + 1 + 1) - 1 = 10 * (10 ^ (n + 1) - 1) + 9 := by
      rw [Nat.pow_succ 10 (n + 1), Nat.pow_succ]
      omega
    have hfront : 0 < 10 ^ (n + 1) - 1 := by
      rw [Nat.pow_succ]
      omega
    rw [hsplit, ← Nat.toDigits_append_toDigits (by decide) hfront (by decide), ih,
      List.replicate_succ' (n := n + 1)]
    rfl

/-- the nines are the numeral of the largest number with so many digits -/
theorem nines_eq {n : Nat} (h : 0 < n) : nines n = toString (10 ^ n - 1) := by
  obtain ⟨m, rfl⟩ := Nat.exists_eq_succ_of_ne_zero (Nat.pos_iff_ne_zero.mp h)
  rw [Nat.toString_eq_ofList_toDigits, toDigits_ten_pow_sub_one]
  rfl

theorem toString_of_nonneg {z : Int} (h : 0 ≤ z) : toString z = toString z.toNat := by
  cases z with
  | ofNat n => rfl
  | negSucc n => exact absurd h (Int.not_le.mpr (Int.negSucc_lt_zero n))

/-- there is no minus sign in the text -/
def LacksMinus (s : String) : Prop := '-' ∉ s.toList

instance (s : String) : Decidable (LacksMinus s) := inferInstanceAs (Decidable ('-' ∉ s.toList))

theorem LacksMinus.append {a b : String} (ha : LacksMinus a) (hb : LacksMinus b) :
    LacksMinus (a ++ b) := by
  unfold LacksMinus
  rw [String.toList_append, List.mem_append]
  exact not_or_intro ha hb

theorem lacksMinus_natRepr (n : Nat) : LacksMinus (toString n) := not_mem_natRepr rfl n

/-! ## order and case -/

/-- the text with its ASCII letters in small -/
def small (s : String) : List Char := s.toList.map Char.toLower

/-- the same tokens but for their order and the case of ASCII letters -/
def SameTokens (a b : List String) : Prop := (a.map small).Perm (b.map small)

instance (a b : List String) : Decidable (SameTokens a b) :=
  inferInstanceAs (Decidable ((a.map small).Perm (b.map small)))

theorem upperChar_toLower (c : Char) : upperChar c.toLower = upperChar c := by
  by_cases h : c.toNat < 128
  · exact forall_ascii h (by decide +kernel)
  · rw [toLower_of_not_ascii h]

/-- in capitals a text does not show which of its ASCII letters were small -/
theorem upper_small (s : String) : upper (small s) = upper s.toList := by
  unfold small
  induction s.toList with
  | nil => rfl
  | cons c cs ih => rw [List.map_cons, upper_cons, upper_cons, upperChar_toLower, ih]

theorem hasToken_iff_small {tokens : List String} {typeName : String} :
    HasToken tokens typeName ↔ ∃ t ∈ tokens.map small, upper t <:+: upper (small typeName) := by
  simp only [List.mem_map, exists_exists_and_eq_and, upper_small]
  rfl

theorem SameTokens.hasToken_iff {a b : List String} {typeName other : String}
    (h : SameTokens a b) (hname : small typeName = small other) :
    HasToken a typeName ↔ HasToken b other := by
  rw [hasToken_iff_small, hasToken_iff_small, hname]
  exact exists_congr fun t => and_congr_left fun _ => h.mem_iff

/-- the rules with other tokens -/
def TypeRules.withTokens (types : TypeRules) (number string date : List String) : TypeRules where
  number := { types.number with tokens := number }
  string := { types.string with tokens := string }
  date := { types.date with tokens := date }

/-! ## readings -/

/-- the readings of a type name: a class that has a token in it, if no class before it has one -/
inductive Reads (types : TypeRules) (typeName : String) : TypeClass → Prop where
  | number (h : HasToken types.number.tokens typeName) : Reads types typeName .number
  | text (hnumber : ¬ HasToken types.number.tokens typeName)
      (h : HasToken types.string.tokens typeName) : Reads types typeName .text
  | date (hnumber : ¬ HasToken types.number.tokens typeName)
      (htext : ¬ HasToken types.string.tokens typeName)
      (h : HasToken types.date.tokens typeName) : Reads types typeName .date
  | other (hnumber : ¬ HasToken types.number.tokens typeName)
      (htext : ¬ HasToken types.string.tokens typeName)
      (hdate : ¬ HasToken types.date.tokens typeName) : Reads types typeName .other

section
variable {types : TypeRules} {typeName : String} {p s : Int} {c : TypeClass} {type : JavaType}

theorem classify_eq (types : TypeRules) (typeName : String) :
    types.classify typeName =
      if HasToken types.number.tokens typeName then .number
      else if HasToken types.string.tokens typeName then .text
      else if HasToken types.date.tokens typeName then .date
      else .other := by
  unfold TypeRules.classify
  simp only [mentions_iff]

/-- the reading is the class that is found -/
theorem reads_iff : Reads types typeName c ↔ c = types.classify typeName := by
  rw [classify_eq]
  constructor
  · intro h
    cases h with
    | number h => rw [if_pos h]
    | text hnumber h => rw [if_neg hnumber, if_pos h]
    | date hnumber htext h => rw [if_neg hnumber, if_neg htext, if_pos h]
    | other hnumber htext hdate => rw [if_neg hnumber, if_neg htext, if_neg hdate]
  · rintro rfl
    split_ifs with hnumber htext hdate
    · exact .number hnumber
    · exact .text hnumber htext
    · exact .date hnumber htext hdate
    · exact .other hnumber htext hdate

theorem classify_congr {numbers strings dates : List String} {other : String}
    (hnumber : SameTokens types.number.tokens numbers)
    (hstring : SameTokens types.string.tokens strings)
    (hdate : SameTokens types.date.tokens dates) (hname : small typeName = small other) :
    (types.withTokens numbers strings dates).classify other = types.classify typeName := by
  have htokens {a b : List String} (h : SameTokens a b) :
      HasToken b other ↔ HasToken a typeName := (h.hasToken_iff hname).symm
  rw [classify_eq, classify_eq]
  unfold TypeRules.withTokens
  simp only [htokens hnumber, htokens hstring, htokens hdate]

/-! ## constraints -/

/-- the Java type of a whole number -/
def NumberRules.wholeType (rules : NumberRules) (p : Int) : String :=
  if rules.largeThreshold < p then rules.largeType else rules.defaultType

/-- the mark of the Java type behind an upper bound -/
def NumberRules.mark (rules : NumberRules) (p : Int) : String :=
  if rules.largeThreshold < p then "L" else ""

/-- what a reading gives for the precision `p` and the scale `s` -/
inductive Gives (types : TypeRules) (p s : Int) : TypeClass → JavaType → Prop where
  | decimal (whole fraction : Nat) (hs : 0 < s) (hfraction : (fraction : Int) = s)
      (hsum : (whole + fraction : Int) = max p s) :
      Gives types p s .number ⟨types.number.decimalType,
        "@Digits(integer = " ++ toString whole ++ ", fraction = " ++ toString fraction ++ ")"⟩
  | unbounded (hs : s ≤ 0) (hp : p ≤ 0) :
      Gives types p s .number ⟨types.number.wholeType p, "@Min(0)"⟩
  | bounded (hs : s ≤ 0) (hp : 0 < p) (hlimit : p < 2 ^ 63) :
      Gives types p s .number ⟨types.number.wholeType p,
        "@Min(0) @Max(" ++ toString (10 ^ p.toNat - 1) ++ types.number.mark p ++ ")"⟩
  | sized (hp : 0 < p) :
      Gives types p s .text ⟨types.string.targetType, "@Size(max = " ++ toString p ++ ")"⟩
  | unsized (hp : p ≤ 0) : Gives types p s .text ⟨types.string.targetType, ""⟩
  | date : Gives types p s .date ⟨types.date.targetType, ""⟩
  | other : Gives types p s .other ⟨types.string.targetType, ""⟩

theorem digits_eq {whole fraction : Nat} (hfraction : (fraction : Int) = s)
    (hsum : (whole + fraction : Int) = max p s) :
    digits p s =
      "@Digits(integer = " ++ toString whole ++ ", fraction = " ++ toString fraction ++ ")" := by
  have hwhole : max (p - s) 0 = (whole : Int) := by omega
  unfold digits
  rw [hwhole, ← hfraction]
  rfl

theorem bounds_of_nonpos (hp : p ≤ 0) (suffix : String) : bounds p suffix = .ok "@Min(0)" := by
  unfold bounds
  rw [if_pos hp]

theorem bounds_of_pos (hp : 0 < p) (hlimit : p < 2 ^ 63) (suffix : String) :
    bounds p suffix =
      .ok ("@Min(0) @Max(" ++ toString (10 ^ p.toNat - 1) ++ suffix ++ ")") := by
  have hlong : lengthLimit = 2 ^ 63 := rfl
  unfold bounds
  rw [if_neg (by omega), if_neg (by omega), nines_eq (by omega)]

theorem bounds_of_le (hlimit : 2 ^ 63 ≤ p) (suffix : String) :
    bounds p suffix = .error .tooManyNines := by
  have hlong : lengthLimit = 2 ^ 63 := rfl
  unfold bounds
  rw [if_neg (by omega), if_pos (by omega)]

theorem NumberRules.javaType_whole (rules : NumberRules) (hs : s ≤ 0) :
    rules.javaType p s = (bounds p (rules.mark p)).map fun b => ⟨rules.wholeType p, b⟩ := by
  unfold NumberRules.javaType NumberRules.wholeType NumberRules.mark
  rw [if_neg (Int.not_lt.mpr hs)]
  by_cases h : rules.largeThreshold < p
  · rw [if_pos h, if_pos h, if_pos h]
  · rw [if_neg h, if_neg h, if_neg h]

theorem gives_number_iff :
    Gives types p s .number type ↔ types.number.javaType p s = .ok type := by
  constructor
  · intro h
    cases h with
    | decimal whole fraction hs hfraction hsum =>
      unfold NumberRules.javaType
      rw [if_pos hs, digits_eq hfraction hsum]
    | unbounded hs hp =>
      rw [NumberRules.javaType_whole _ hs, bounds_of_nonpos hp]
      rfl
    | bounded hs hp hlimit =>
      rw [NumberRules.javaType_whole _ hs, bounds_of_pos hp hlimit]
      rfl
  · intro h
    by_cases hs : s ≤ 0
    · rw [NumberRules.javaType_whole _ hs] at h
      by_cases hp : p ≤ 0
      · rw [bounds_of_nonpos hp] at h
        cases h
        exact .unbounded hs hp
      · by_cases hlimit : p < 2 ^ 63
        · rw [bounds_of_pos (by omega) hlimit] at h
          cases h
          exact .bounded hs (by omega) hlimit
        · rw [bounds_of_le (by omega)] at h
          cases h
    · have hfraction : (s.toNat : Int) = s := by omega
      have hsum : ((p - s).toNat + s.toNat : Int) = max p s := by omega
      unfold NumberRules.javaType at h
      rw [if_pos (by omega), digits_eq hfraction hsum] at h
      cases h
      exact .decimal _ _ (by omega) hfraction hsum

theorem gives_text_iff :
    Gives types p s .text type ↔ type = ⟨types.string.targetType, size p⟩ := by
  unfold size
  by_cases hp : 0 < p
  · rw [if_pos hp]
    constructor
    · intro h
      cases h with
      | sized _ => rfl
      | unsized hp' => omega
    · rintro rfl
      exact .sized hp
  · rw [if_neg hp]
    constructor
    · intro h
      cases h with
      | sized hp' => exact absurd hp' hp
      | unsized _ => rfl
    · rintro rfl
      exact .unsized (by omega)

theorem gives_classify_iff :
    Gives types p s (types.classify typeName) type ↔ types.javaType typeName p s = .ok type := by
  unfold TypeRules.javaType
  cases types.classify typeName with
  | number => exact gives_number_iff
  | text => rw [gives_text_iff, Except.ok.injEq, eq_comm]
  | date =>
    constructor
    · rintro ⟨⟩
      rfl
    · rintro ⟨⟩
      exact .date
  | other =>
    constructor
    · rintro ⟨⟩
      rfl
    · rintro ⟨⟩
      exact .other

/-- a Java type is found exactly if the reading of the type name gives it -/
theorem javaType_eq_ok_iff :
    types.javaType typeName p s = .ok type ↔
      ∃ c, Reads types typeName c ∧ Gives types p s c type := by
  rw [← gives_classify_iff]
  constructor
  · exact fun h => ⟨_, reads_iff.mpr rfl, h⟩
  · rintro ⟨c, hreads, h⟩
    rwa [← reads_iff.mp hreads]

theorem Gives.lacksMinus (h : Gives types p s c type) : LacksMinus type.constraint := by
  have hdigits (n : Nat) : LacksMinus (toString n) := lacksMinus_natRepr n
  cases h with
  | decimal whole fraction _ _ _ =>
    exact ((((by decide : LacksMinus "@Digits(integer = ").append (hdigits whole)).append
      (by decide)).append (hdigits fraction)).append (by decide)
  | unbounded _ _ => exact (by decide : LacksMinus "@Min(0)")
  | bounded _ _ _ =>
    have hmark : LacksMinus (types.number.mark p) := by
      unfold NumberRules.mark
      split
      · decide
      · decide
    exact (((by decide : LacksMinus "@Min(0) @Max(").append (hdigits _)).append hmark).append
      (by decide)
  | sized hp =>
    rw [toString_of_nonneg (Int.le_of_lt hp)]
    exact ((by decide : LacksMinus "@Size(max = ").append (hdigits _)).append (by decide)
  | unsized _ => exact (by decide : LacksMinus "")
  | date => exact (by decide : LacksMinus "")
  | other => exact (by decide : LacksMinus "")

theorem javaType_withTokens {numbers strings dates : List String} {other : String}
    (hnumber : SameTokens types.number.tokens numbers)
    (hstring : SameTokens types.string.tokens strings)
    (hdate : SameTokens types.date.tokens dates) (hname : small typeName = small other) :
    (types.withTokens numbers strings dates).javaType other p s =
      types.javaType typeName p s := by
  unfold TypeRules.javaType
  rw [classify_congr hnumber hstring hdate hname]
  rfl

end

/-- **A database type has one reading, and the reading decides the Java type.**  Neither the order
of the tokens in a class nor the case of an ASCII letter matters, and no constraint has a negative
number in it. -/
theorem javaType_coherent (types : TypeRules) (typeName : String) (p s : Int) :
    (∃! c, Reads types typeName c) ∧
      (∀ type, types.javaType typeName p s = .ok type ↔
        ∃ c, Reads types typeName c ∧ Gives types p s c type) ∧
      (∀ type, types.javaType typeName p s = .ok type → LacksMinus type.constraint) ∧
      ∀ numbers strings dates other, SameTokens types.number.tokens numbers →
        SameTokens types.string.tokens strings → SameTokens types.date.tokens dates →
        small typeName = small other →
          (types.withTokens numbers strings dates).javaType other p s =
            types.javaType typeName p s := by
  refine ⟨?_, ?_, ?_, ?_⟩
  · exact ⟨types.classify typeName, reads_iff.mpr rfl, fun c h => reads_iff.mp h⟩
  · exact fun type => javaType_eq_ok_iff
  · intro type h
    obtain ⟨c, -, hgives⟩ := javaType_eq_ok_iff.mp h
    exact hgives.lacksMinus
  · intro numbers strings dates other hnumber hstring hdate hname
    exact javaType_withTokens hnumber hstring hdate hname

/-- a type name with tokens of two classes in it -/
theorem javaType_coherent_overlap :
    TypeRules.javaType {} "charDate" 7 (-2) = .ok ⟨"String", "@Size(max = 7)"⟩ ∧
      LacksMinus "@Size(max = 7)" ∧
      (TypeRules.withTokens {}
        ["Number"] ["TEXT", "char", "varChar2"] ["TIMESTAMP", "date"]).javaType
        "CHARDATE" 7 (-2) = .ok ⟨"String", "@Size(max = 7)"⟩ := by
  obtain ⟨-, hiff, hminus, hcongr⟩ := javaType_coherent {} "charDate" 7 (-2)
  have hok : TypeRules.javaType {} "charDate" 7 (-2) = .ok ⟨"String", "@Size(max = 7)"⟩ :=
    (hiff _).mpr ⟨.text, .text (by decide +kernel) (by decide +kernel), .sized (by decide)⟩
  refine ⟨hok, hminus _ hok, ?_⟩
  rw [hcongr _ _ _ "CHARDATE" (by decide +kernel) (by decide +kernel) (by decide +kernel)
    (by decide +kernel), hok]

end DdlToJava

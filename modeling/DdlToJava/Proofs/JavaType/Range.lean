import DdlToJava.Proofs.JavaType.Reading

/-!
# Whether an upper bound fits its Java type

The upper bound on a whole number of precision `p` is the largest number with `p` digits, whatever
the Java type.  With the default names of the Java types `bound_fits_iff` says when it is in range:
an `Integer` has room for nine digits and a `Long` for eighteen.
-/

namespace DdlToJava

open JavaType

/-- the Java types of whole numbers, as they are named by default -/
inductive Whole where
  | integer
  | long
  deriving DecidableEq, Repr

namespace Whole

def name : Whole → String
  | .integer => "Integer"
  | .long => "Long"

/-- the largest number of the type -/
def largest : Whole → Nat
  | .integer => 2 ^ 31 - 1
  | .long => 2 ^ 63 - 1

/-- how many nines there are in its largest run of nines -/
def room : Whole → Nat
  | .integer => 9
  | .long => 18

/-- the largest number with `n` digits is in the range of the type if there is room for them -/
theorem ten_pow_le_largest_iff (w : Whole) (n : Nat) : 10 ^ n - 1 ≤ w.largest ↔ n ≤ w.room := by
  have hroom : 10 ^ w.room - 1 ≤ w.largest := by cases w <;> decide
  have hmore : w.largest < 10 ^ (w.room + 1) - 1 := by cases w <;> decide
  constructor
  · intro h
    by_contra hlt
    have hpow : 10 ^ (w.room + 1) ≤ 10 ^ n := Nat.pow_le_pow_right (by decide) (by omega)
    omega
  · intro h
    have hpow : 10 ^ n ≤ 10 ^ w.room := Nat.pow_le_pow_right (by decide) h
    omega

end Whole

/-- **The upper bound fits its Java type up to nine digits, and above the threshold up to
eighteen.** -/
theorem bound_fits_iff {types : TypeRules} (hdefault : types.number.defaultType = "Integer")
    (hlarge : types.number.largeType = "Long") {typeName : String}
    (hnumber : HasToken types.number.tokens typeName) {p s : Int} (hs : s ≤ 0) (hp : 1 ≤ p)
    (hlimit : p < 2 ^ 63) :
    ∃ (w : Whole) (suffix : String),
      types.javaType typeName p s =
        .ok ⟨w.name, "@Min(0) @Max(" ++ toString (10 ^ p.toNat - 1) ++ suffix ++ ")"⟩ ∧
      (10 ^ p.toNat - 1 ≤ w.largest ↔
        (p ≤ types.number.largeThreshold ∧ p ≤ 9) ∨ (types.number.largeThreshold < p ∧ p ≤ 18)) ∧
      (suffix = "L" ↔ w = .long) ∧ (suffix = "" ↔ w = .integer) := by
  have hgives : Gives types p s .number _ :=
    .bounded hs (Int.lt_of_lt_of_le Int.zero_lt_one hp) hlimit
  have hjava := javaType_eq_ok_iff.mpr ⟨_, .number hnumber, hgives⟩
  by_cases hthreshold : types.number.largeThreshold < p
  · refine ⟨.long, "L", ?_, ?_, by decide, by decide⟩
    · rw [hjava, NumberRules.wholeType, NumberRules.mark, if_pos hthreshold, if_pos hthreshold,
        hlarge]
      rfl
    · rw [Whole.ten_pow_le_largest_iff, Whole.room]
      omega
  · refine ⟨.integer, "", ?_, ?_, by decide, by decide⟩
    · rw [hjava, NumberRules.wholeType, NumberRules.mark, if_neg hthreshold, if_neg hthreshold,
        hdefault]
      rfl
    · rw [Whole.ten_pow_le_largest_iff, Whole.room]
      omega

/-- rules that take every whole number for a large one -/
def lowThreshold : TypeRules := { number := { largeThreshold := -1 } }

theorem bound_fits_iff_low :
    HasToken lowThreshold.number.tokens "number" ∧
    ∃ (w : Whole) (suffix : String),
      lowThreshold.javaType "number" 19 (-2) =
        .ok ⟨w.name, "@Min(0) @Max(" ++ toString (10 ^ 19 - 1) ++ suffix ++ ")"⟩ ∧
      (10 ^ 19 - 1 ≤ w.largest ↔
        ((19 : Int) ≤ -1 ∧ (19 : Int) ≤ 9) ∨ ((-1 : Int) < 19 ∧ (19 : Int) ≤ 18)) ∧
      (suffix = "L" ↔ w = .long) ∧ (suffix = "" ↔ w = .integer) :=
  ⟨by decide +kernel,
    bound_fits_iff rfl rfl (by decide +kernel) (by decide) (by decide) (by decide)⟩

end DdlToJava

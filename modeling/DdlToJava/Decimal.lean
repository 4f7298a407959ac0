/-!
# Decimal fractions and the numbers of a machine

A written number with a point or an exponent is a `Decimal`, exact at any size.  A machine keeps
the nearest number of the form `m · 2 ^ e` with `m` below `2 ^ 53`, of two nearest the one with
the even `m`; a number beyond the largest of them is infinite.  `Decimal.nearest` computes that
number by exact arithmetic.
-/

namespace DdlToJava

/-- the number `±digits · 10 ^ exponent` -/
structure Decimal where
  negative : Bool := false
  digits : Nat
  exponent : Int := 0
  deriving DecidableEq, Repr

/-- the number `±mantissa · 2 ^ exponent` -/
structure Binary where
  negative : Bool := false
  mantissa : Nat
  exponent : Int := 0
  deriving DecidableEq, Repr

/-- the whole number next to `a / b`, of two the even one -/
def roundDiv (a b : Nat) : Nat :=
  let q := a / b
  let twice := 2 * (a % b)
  if twice > b ∨ (twice = b ∧ q % 2 = 1) then q + 1 else q

theorem roundDiv_one (a : Nat) : roundDiv a 1 = a := by
  simp [roundDiv, Nat.mod_one]

namespace Binary

/-- how many binary digits a mantissa has -/
def mantissaBits : Nat := 53

/-- the least exponent -/
def minExponent : Int := -1074

/-- a number from here on is infinite -/
def overflow : Nat := Nat.pow 2 1024

/-- the number, if it is whole -/
def toInt? (b : Binary) : Option Int :=
  let whole : Option Nat :=
    if 0 ≤ b.exponent then some (b.mantissa * Nat.pow 2 b.exponent.toNat)
    else
      let scale := Nat.pow 2 (-b.exponent).toNat
      if b.mantissa % scale = 0 then some (b.mantissa / scale) else none
  whole.map fun n => if b.negative then -(n : Int) else n

end Binary

namespace Decimal

/-- the quotient `a / b` as the nearest mantissa at the exponent `e` -/
def mantissaAt (a b : Nat) (e : Int) : Nat :=
  if 0 ≤ e then roundDiv a (b * Nat.pow 2 e.toNat) else roundDiv (a * Nat.pow 2 (-e).toNat) b

/-- the exponent at which `a / b` has a mantissa of full length, or the least one -/
def exponentFor (a b : Nat) : Int :=
  let e : Int := (a.log2 : Int) - b.log2 - Binary.mantissaBits
  let full : Bool :=
    if 0 ≤ e then a < b * Nat.pow 2 (e.toNat + Binary.mantissaBits)
    else a * Nat.pow 2 (-e).toNat < b * Nat.pow 2 Binary.mantissaBits
  max (if full then e else e + 1) Binary.minExponent

/-- the machine number nearest to `±a / b`; nothing if it is infinite -/
def nearestQuotient (negative : Bool) (a b : Nat) : Option Binary :=
  let e := exponentFor a b
  let m := mantissaAt a b e
  if 0 ≤ e ∧ Binary.overflow ≤ m * Nat.pow 2 e.toNat then none else some ⟨negative, m, e⟩

/-- a number whose first digit stands at such a place or above is infinite -/
def infinitePlace : Int := 400

/-- a number whose first digit stands at such a place or below is zero -/
def zeroPlace : Int := -400

/-- the machine number nearest to a decimal; nothing if it is infinite -/
def nearest (d : Decimal) : Option Binary :=
  if d.digits = 0 then some ⟨d.negative, 0, 0⟩
  else
    let place : Int := (Nat.toDigits 10 d.digits).length + d.exponent
    if infinitePlace ≤ place then none
    else if place ≤ zeroPlace then some ⟨d.negative, 0, 0⟩
    else if 0 ≤ d.exponent then
      nearestQuotient d.negative (d.digits * Nat.pow 10 d.exponent.toNat) 1
    else nearestQuotient d.negative d.digits (Nat.pow 10 (-d.exponent).toNat)

end Decimal

end DdlToJava

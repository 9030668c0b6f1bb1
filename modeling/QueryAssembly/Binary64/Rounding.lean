import QueryAssembly.Binary64.Basic
import QueryAssembly.Decimal.Numeral

/-!
# From decimal fractions to floating point

`Decimal.nearest?` gives the magnitude nearest to a decimal fraction, ties going to the even
significand, and nothing when the fraction rounds beyond the largest magnitude.  The position of
the leading digit settles fractions that are far too large or far too small before any power of ten
is formed, so an enormous written exponent costs nothing.
-/

namespace QueryAssembly

namespace Binary64

/-- The natural number nearest to a quotient, ties going to the even one. -/
def roundHalfEven (numerator denominator : Nat) : Nat :=
  let quotient := numerator / denominator
  let twice := 2 * (numerator % denominator)
  if twice < denominator then quotient
  else if twice = denominator then quotient + quotient % 2
  else quotient + 1

@[simp] theorem roundHalfEven_mul_self (value denominator : Nat) (positive : 0 < denominator) :
    roundHalfEven (value * denominator) denominator = value := by
  simp [roundHalfEven, positive]

/-- The code of the magnitude nearest to `numerator / denominator` units of `2 ^ -1074`, were there
no largest magnitude. -/
def nearestCode (numerator denominator : Nat) : Nat :=
  let scale := (numerator / denominator).log2 - 52
  scale * fractionCount + roundHalfEven numerator (denominator * Nat.pow 2 scale)

/-- The magnitude with a given code, when that code is not beyond the largest. -/
def Magnitude.ofCode? (code : Nat) : Option Magnitude :=
  if bound : code < 0x7FF0000000000000 then some ⟨code, bound⟩ else none

end Binary64

namespace Decimal

/-- The number of digits before the point when the fraction is written out; negative when zeros
follow the point. -/
def position (decimal : Decimal) : Int :=
  ((Nat.toDigits 10 decimal.significand).length : Int) + decimal.exponent

/-- The magnitude nearest to a decimal fraction; none when it is beyond the largest magnitude. -/
def nearest? (decimal : Decimal) : Option Binary64.Magnitude :=
  if decimal.significand = 0 ∨ decimal.position < -323 then some .zero
  else if 309 < decimal.position then none
  else
    Binary64.Magnitude.ofCode? (Binary64.nearestCode
      (decimal.significand * Nat.pow 10 decimal.exponent.toNat * Binary64.unitsInOne)
      (Nat.pow 10 (-decimal.exponent).toNat))

end Decimal

namespace Binary64

/-- The number nearest to a signed decimal fraction; an infinity beyond the largest magnitude. -/
def ofDecimal (negative : Bool) (decimal : Decimal) : Binary64 :=
  match decimal.nearest? with
  | some magnitude => .finite ⟨negative, magnitude⟩
  | none => .infinity negative

/-- The number nearest to an integer. -/
def ofInt (value : Int) : Binary64 :=
  ofDecimal (decide (value < 0)) ⟨value.natAbs, 0⟩

end Binary64

end QueryAssembly

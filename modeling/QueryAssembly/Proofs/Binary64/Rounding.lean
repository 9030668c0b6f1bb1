import QueryAssembly.Binary64.Rounding

/-!
# Rounding what needs no rounding

A magnitude is the nearest one to its own value, however the value is written as a quotient, and no
integer of 64 bits is rounded beyond the largest magnitude.
-/

namespace QueryAssembly.Binary64

namespace Magnitude

theorem scale_mul_add_significand (magnitude : Magnitude) :
    magnitude.scale * fractionCount + magnitude.significand = magnitude.code := by
  have quotient := Nat.div_mul_le_self magnitude.code fractionCount
  simp only [significand, scale, fractionCount] at quotient ⊢
  omega

theorem scale_eq_zero {magnitude : Magnitude} (subnormal : magnitude.code < fractionCount) :
    magnitude.scale = 0 := by
  have quotient : magnitude.code / fractionCount = 0 := Nat.div_eq_of_lt subnormal
  rw [scale, quotient]

theorem fractionCount_le_significand {magnitude : Magnitude}
    (normal : fractionCount ≤ magnitude.code) : fractionCount ≤ magnitude.significand := by
  simp only [significand, scale, fractionCount] at normal ⊢
  omega

theorem significand_lt (magnitude : Magnitude) : magnitude.significand < 2 * fractionCount := by
  simp only [significand, scale, fractionCount]
  omega

theorem scale_le (magnitude : Magnitude) : magnitude.scale ≤ 2045 := by
  have bound := magnitude.code_lt
  simp only [scale, fractionCount]
  omega

theorem significand_pos {magnitude : Magnitude} (positive : magnitude.code ≠ 0) :
    0 < magnitude.significand := by
  simp only [significand, scale, fractionCount]
  omega

theorem units_pos {magnitude : Magnitude} (positive : magnitude.code ≠ 0) :
    0 < magnitude.units :=
  Nat.mul_pos (significand_pos positive) (Nat.pow_pos (by decide))

theorem log2_units {magnitude : Magnitude} (positive : magnitude.code ≠ 0) :
    magnitude.units.log2 - 52 = magnitude.scale := by
  have units_ne := Nat.ne_of_gt (units_pos positive)
  by_cases subnormal : magnitude.code < fractionCount
  · have scale_zero := scale_eq_zero subnormal
    have units_eq : magnitude.units = magnitude.code := by
      simp [units, significand, scale_zero]
    have small : magnitude.units.log2 < 52 := by
      rw [Nat.log2_lt units_ne, units_eq]
      exact subnormal
    omega
  · have lower := fractionCount_le_significand (Nat.le_of_not_lt subnormal)
    have upper := significand_lt magnitude
    have exact_log : magnitude.units.log2 = 52 + magnitude.scale := by
      rw [Nat.log2_eq_iff units_ne, Nat.add_right_comm, Nat.pow_add, Nat.pow_add]
      exact ⟨Nat.mul_le_mul_right _ lower,
        Nat.mul_lt_mul_of_pos_right upper (Nat.pow_pos (by decide))⟩
    omega

/-- A value is the nearest one to itself. -/
theorem nearestCode_units {magnitude : Magnitude} (positive : magnitude.code ≠ 0)
    {denominator : Nat} (denominator_pos : 0 < denominator) :
    nearestCode (magnitude.units * denominator) denominator = magnitude.code := by
  have scaled_pos : 0 < denominator * Nat.pow 2 magnitude.scale :=
    Nat.mul_pos denominator_pos (Nat.pow_pos (by decide))
  have regrouped : magnitude.units * denominator =
      magnitude.significand * (denominator * Nat.pow 2 magnitude.scale) := by
    rw [units, Nat.mul_assoc, Nat.mul_comm denominator]
  rw [nearestCode, Nat.mul_div_cancel _ denominator_pos, log2_units positive, regrouped,
    roundHalfEven_mul_self _ _ scaled_pos, scale_mul_add_significand]

theorem ofCode?_code (magnitude : Magnitude) : ofCode? magnitude.code = some magnitude := by
  rw [ofCode?, dif_pos magnitude.code_lt]

end Magnitude

theorem roundHalfEven_le (numerator denominator : Nat) :
    roundHalfEven numerator denominator ≤ numerator / denominator + 1 := by
  simp only [roundHalfEven]
  split
  · omega
  · split <;> omega

theorem log2_le_log2_of_lt {left right : Nat} (below : left < right) :
    left.log2 ≤ right.log2 := by
  by_cases zero : left = 0
  · simp [zero, Nat.log2_zero]
  · rw [Nat.le_log2 (by omega)]
    exact Nat.le_trans (Nat.log2_self_le zero) (Nat.le_of_lt below)

/-- A quotient below a bound has a code that the logarithm of the bound limits. -/
theorem nearestCode_le {numerator denominator bound : Nat}
    (below : numerator / denominator < bound) :
    nearestCode numerator denominator ≤ (bound.log2 - 52) * fractionCount + 2 * fractionCount := by
  unfold nearestCode
  generalize quotient_eq : numerator / denominator = quotient at below ⊢
  have scale_le : quotient.log2 - 52 ≤ bound.log2 - 52 :=
    Nat.sub_le_sub_right (log2_le_log2_of_lt below) 52
  have rounded := roundHalfEven_le numerator (denominator * Nat.pow 2 (quotient.log2 - 52))
  have significand_lt :
      numerator / (denominator * Nat.pow 2 (quotient.log2 - 52)) < 2 * fractionCount := by
    have power : quotient < 2 ^ (53 + (quotient.log2 - 52)) :=
      Nat.lt_of_lt_of_le Nat.lt_log2_self (Nat.pow_le_pow_right (by decide) (by omega))
    rw [← Nat.div_div_eq_div_mul, quotient_eq, Nat.pow_eq,
      Nat.div_lt_iff_lt_mul (Nat.pow_pos (by decide))]
    rw [Nat.pow_add] at power
    exact power
  exact Nat.add_le_add (Nat.mul_le_mul_right fractionCount scale_le)
    (Nat.le_trans rounded significand_lt)

/-- A quotient that is not too large has a nearest magnitude. -/
theorem exists_ofCode?_nearestCode {numerator denominator bound : Nat}
    (below : numerator / denominator < bound) (not_large : bound.log2 ≤ 2000) :
    ∃ magnitude, Magnitude.ofCode? (nearestCode numerator denominator) = some magnitude := by
  have code_le := nearestCode_le below
  have code_lt : nearestCode numerator denominator < 0x7FF0000000000000 := by
    simp only [fractionCount] at code_le
    omega
  exact ⟨⟨_, code_lt⟩, dif_pos code_lt⟩

/-- One has some units, and no integer of 64 bits has too many. -/
theorem unitsInOne_bounds : 0 < unitsInOne ∧ (0x10000000000000000 * unitsInOne).log2 ≤ 2000 := by
  decide +kernel

/-- An integer of 64 bits, signed or not, is rounded to a finite number. -/
theorem ofInt_finite {value : Int} (lower : -0x8000000000000000 ≤ value)
    (upper : value < 0x10000000000000000) :
    ∃ rounded, Binary64.ofInt value = .finite rounded := by
  have small : value.natAbs < 0x10000000000000000 := by omega
  have few_digits : (Nat.toDigits 10 value.natAbs).length ≤ 20 := by
    rw [Nat.length_toDigits_le_iff (by decide) (by decide)]
    omega
  have found : ∃ magnitude, (Decimal.mk value.natAbs 0).nearest? = some magnitude := by
    unfold Decimal.nearest?
    split
    · exact ⟨.zero, rfl⟩
    · split
      · rename_i beyond
        simp only [Decimal.position] at beyond
        omega
      · have below : value.natAbs * unitsInOne < 0x10000000000000000 * unitsInOne :=
          Nat.mul_lt_mul_of_pos_right small unitsInOne_bounds.1
        refine exists_ofCode?_nearestCode ?_ unitsInOne_bounds.2
        simpa using below
  obtain ⟨magnitude, nearest⟩ := found
  exact ⟨⟨decide (value < 0), magnitude⟩, by rw [ofInt, ofDecimal, nearest]⟩

end QueryAssembly.Binary64

import QueryAssembly.Binary64.Shortest
import QueryAssembly.Proofs.Binary64.Rounding
import QueryAssembly.Proofs.Json.Numerals

/-!
# The shortest numeral reads back

Whatever numeral is chosen for a magnitude, it is proper, is no integer and denotes a decimal
fraction to which the magnitude is nearest.  The candidates are tested for just that, and of the
exact expansion it is proved here.
-/

namespace QueryAssembly.Binary64.Magnitude

theorem reads_iff {magnitude : Magnitude} {numeral : Numeral} :
    magnitude.reads numeral = true ↔
      numeral.isProper = true ∧ numeral.isInteger = false ∧
        numeral.decimal.nearest? = some magnitude := by
  simp [reads, and_assoc]

theorem units_lt_of_scale_le {magnitude : Magnitude} {top : Nat}
    (scale_le : magnitude.scale ≤ top) :
    magnitude.units < Nat.pow 2 top * (2 * fractionCount) := by
  have power_le := Nat.pow_le_pow_right (by decide : 2 > 0) scale_le
  rw [units, Nat.mul_comm]
  exact Nat.mul_lt_mul_of_le_of_lt power_le magnitude.significand_lt (Nat.pow_pos (by decide))

theorem lt_length_toDigits_mul {value factor places : Nat} (some_place : 0 < places)
    (positive : 0 < value) (large : Nat.pow 10 places ≤ factor) :
    places < (Nat.toDigits 10 (value * factor)).length := by
  rw [← Nat.not_le, Nat.length_toDigits_le_iff (by decide) some_place, Nat.not_lt]
  exact Nat.le_trans large (Nat.le_mul_of_pos_left factor positive)

theorem length_toDigits_mul_le {value factor bound places : Nat} (some_place : 0 < places)
    (below : value < bound) (positive : 0 < factor) (small : bound * factor ≤ Nat.pow 10 places) :
    (Nat.toDigits 10 (value * factor)).length ≤ places := by
  rw [Nat.length_toDigits_le_iff (by decide) some_place]
  exact Nat.lt_of_lt_of_le (Nat.mul_lt_mul_of_pos_right below positive) small

theorem nearest?_of_length {significand places denominator : Nat} (positive : 0 < significand)
    (tens : Nat.pow 10 places = denominator)
    (not_short : places < (Nat.toDigits 10 significand).length + 324)
    (not_long : (Nat.toDigits 10 significand).length ≤ places + 309) :
    (Decimal.mk significand (-(places : Int))).nearest? =
      ofCode? (nearestCode (significand * unitsInOne) denominator) := by
  have no_tens : (-(places : Int)).toNat = 0 := by omega
  have all_tens : (- -(places : Int)).toNat = places := by omega
  rw [Decimal.nearest?, if_neg, if_neg, no_tens, all_tens, tens, Nat.pow_eq, Nat.pow_zero,
    Nat.mul_one]
  · simp only [Decimal.position]
    omega
  · simp only [Decimal.position]
    omega

/-- The exact expansion has enough digits not to be taken for zero, and too few to be beyond the
largest magnitude. -/
theorem nearest?_expansion {magnitude : Magnitude} (positive : magnitude.code ≠ 0) :
    magnitude.expansion.decimal.nearest? = some magnitude := by
  have decimals_pos : 0 < decimalsInUnit := by decide +kernel
  have units_pos := units_pos positive
  have units_lt := units_lt_of_scale_le magnitude.scale_le
  have value_pos : 0 < magnitude.units * decimalsInUnit := Nat.mul_pos units_pos decimals_pos
  have tens_pos : 0 < decimalsInUnit * unitsInOne :=
    Nat.mul_pos decimals_pos unitsInOne_bounds.1
  have not_short : 750 < (Nat.toDigits 10 (magnitude.units * decimalsInUnit)).length :=
    lt_length_toDigits_mul (by decide) units_pos (by decide +kernel)
  have not_long : (Nat.toDigits 10 (magnitude.units * decimalsInUnit)).length ≤ 1383 :=
    length_toDigits_mul_le (by decide) units_lt decimals_pos (by decide +kernel)
  have decimal : magnitude.expansion.decimal =
      ⟨magnitude.units * decimalsInUnit, -((1074 : Nat) : Int)⟩ := by
    simp [expansion, Numeral.decimal, Numeral.digits, Nat.ofDigitChars_toDigits]
  have tens : Nat.pow 10 1074 = decimalsInUnit * unitsInOne := by decide +kernel
  rw [decimal, nearest?_of_length value_pos tens (by omega) (by omega), Nat.mul_assoc,
    nearestCode_units positive tens_pos, ofCode?_code]

/-- The numeral of a magnitude reads back as that magnitude, and as no integer, from whatever power on
the point is written out. -/
theorem reads_shortest (least : Int) (magnitude : Magnitude) :
    magnitude.reads (magnitude.shortest least) = true := by
  unfold shortest
  split
  · rename_i code_zero
    have zero : magnitude = .zero := by
      obtain ⟨code, bound⟩ := magnitude
      cases code_zero
      rfl
    have nearest : (Numeral.decimal ⟨['0'], some ['0'], none⟩).nearest? = some .zero :=
      if_pos (by decide)
    rw [zero]
    exact reads_iff.mpr ⟨by decide, rfl, nearest⟩
  · rename_i positive
    cases found : (magnitude.candidates least).find? magnitude.reads with
    | some numeral => exact List.find?_some found
    | none =>
      exact reads_iff.mpr
        ⟨Numeral.isProper_of_toDigits _ _, rfl, nearest?_expansion positive⟩

end QueryAssembly.Binary64.Magnitude

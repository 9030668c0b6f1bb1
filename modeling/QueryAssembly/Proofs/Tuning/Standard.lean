import QueryAssembly.Tuning.Basic

/-!
# The standard tuning

The numbers of the standard tuning, as the floating point numbers nearest to ten and to a tenth.
-/

namespace QueryAssembly.Tuning

theorem phraseBoost_standard :
    standard.phraseBoost = .finite ⟨false, ⟨0x4024000000000000, by decide⟩⟩ := by
  have ten : (Decimal.mk 10 0).nearest? = some ⟨0x4024000000000000, by decide⟩ := by
    decide +kernel
  simp [standard, Binary64.ofDecimal, ten]

theorem minScore_standard :
    standard.minScore = .finite ⟨false, ⟨0x3FB999999999999A, by decide⟩⟩ := by
  have tenth : (Decimal.mk 1 (-1)).nearest? = some ⟨0x3FB999999999999A, by decide⟩ := by
    decide +kernel
  simp [standard, Binary64.ofDecimal, tenth]

end QueryAssembly.Tuning

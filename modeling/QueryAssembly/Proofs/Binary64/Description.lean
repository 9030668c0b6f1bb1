import QueryAssembly.Proofs.Binary64.Literal
import QueryAssembly.Proofs.Binary64.Shortest
import QueryAssembly.Request.Description

/-!
# Described numbers are literals

The description of a floating point number is a literal that denotes the number, so different numbers
have different descriptions.  No description has a parenthesis in it.
-/

namespace QueryAssembly

open Json.Token (SpellsPower)

theorem parenthesis_notMem_of_isDigit {digits : List Char}
    (all : ∀ character ∈ digits, character.isDigit = true) : ')' ∉ digits := by
  intro found
  exact absurd (all ')' found) (by decide)

namespace Json.Token.SpellsPower

/-- The described power of ten is one way to write it. -/
theorem exponentDescription (exponent : Option Int) :
    SpellsPower exponent (Numeral.exponentDescription exponent) := by
  match exponent with
  | .none => exact .none
  | some (.ofNat power) =>
    have digits : ∀ character ∈ Nat.toDigits 10 power, character.isDigit = true :=
      fun _ found => Nat.isDigit_of_mem_toDigits (by decide) (by decide) found
    have spelled := plain (.inl rfl) digits Nat.toDigits_ne_nil
    rwa [Nat.ofDigitChars_ten_toDigits] at spelled
  | some (.negSucc power) => exact exponentCharacters (some (.negSucc power))

theorem parenthesis_notMem {exponent : Option Int} {power : List Char}
    (spells : SpellsPower exponent power) : ')' ∉ power := by
  cases spells with
  | none => exact List.not_mem_nil
  | plain marks all | plus marks all | minus marks all =>
    rcases marks with rfl | rfl <;> simp [parenthesis_notMem_of_isDigit all]

end Json.Token.SpellsPower

namespace Numeral

variable {numeral : Numeral}

theorem spellsLiteral_description (proper : numeral.isProper = true) :
    numeral.SpellsLiteral numeral.description := by
  obtain ⟨whole, fraction, exponent⟩ := numeral
  obtain ⟨all, some_digit, -, -⟩ := isProper_iff.mp proper
  have power := SpellsPower.exponentDescription exponent
  cases fraction with
  | none =>
    have digits : ∀ character ∈ whole, character.isDigit = true := by simpa [Numeral.digits] using all
    simpa [description, fractionCharacters] using SpellsLiteral.whole digits some_digit power
  | some behind =>
    have given : whole ++ behind ≠ [] := by simp [some_digit]
    simpa [description, fractionCharacters] using SpellsLiteral.pointed all given power

theorem SpellsLiteral.parenthesis_notMem {characters : List Char}
    (spells : numeral.SpellsLiteral characters) : ')' ∉ characters := by
  cases spells with
  | whole all some_digit power =>
    simp [parenthesis_notMem_of_isDigit all, power.parenthesis_notMem]
  | @pointed before behind _ _ all some_digit power =>
    have digits : ')' ∉ before ++ behind := parenthesis_notMem_of_isDigit all
    simp only [List.mem_append, not_or] at digits
    simp [digits, power.parenthesis_notMem]

end Numeral

namespace Binary64

/-- Reading a description gives the number that is described. -/
theorem ofLiteral?_describe (value : Binary64) : ofLiteral? value.describe = some value := by
  rw [ofLiteral?_eq_some_iff]
  match value with
  | .infinity false => exact ⟨false, [], _, rfl, .none, .infinity (by decide)⟩
  | .infinity true => exact ⟨true, ['-'], ['i', 'n', 'f'], rfl, .minus, .infinity (by decide)⟩
  | .nan => exact ⟨false, [], _, rfl, .none, .nan (by decide)⟩
  | .finite ⟨negative, magnitude⟩ =>
    obtain ⟨proper, -, nearest⟩ :=
      Magnitude.reads_iff.mp (magnitude.reads_shortest Numeral.leastDescribed)
    have denotes : DenotesUnsigned negative _ _ :=
      .decimal (Numeral.spellsLiteral_description proper)
    rw [ofDecimal, nearest] at denotes
    refine ⟨negative, Finite.sign ⟨negative, magnitude⟩, _, String.toList_ofList, ?_, denotes⟩
    cases negative with
    | false => exact .none
    | true => exact .minus

theorem describe_injective : Function.Injective describe := by
  intro left right same
  have read := ofLiteral?_describe left
  rw [same, ofLiteral?_describe right] at read
  exact (Option.some.inj read).symm

theorem parenthesis_notMem_describe (value : Binary64) : ')' ∉ value.describe.toList := by
  match value with
  | .infinity false | .infinity true | .nan => decide
  | .finite ⟨negative, magnitude⟩ =>
    obtain ⟨proper, -, -⟩ :=
      Magnitude.reads_iff.mp (magnitude.reads_shortest Numeral.leastDescribed)
    have absent := (Numeral.spellsLiteral_description proper).parenthesis_notMem
    cases negative <;> simp [describe, Finite.description, Finite.sign, absent]

example : (ofDecimal false ⟨1, 16⟩).describe = "1e16" := by decide +kernel
example : (ofDecimal true ⟨15, -6⟩).describe = "-1.5e-5" := by decide +kernel

end Binary64

end QueryAssembly

import QueryAssembly.Proofs.Json.Scripts

/-!
# Integer literals

A literal of decimal digits may have any length, and a number holds it only within 64 bits.  Where
it does, the number is printed with the characters of the literal
(`IntegerLiteral.characters_of_integer`); everything else is taken for a floating point number or is
out of range, and `-0` is a floating point number too (`IntegerLiteral.number_eq_integer_iff`).
-/

namespace QueryAssembly

theorem digitValue_lt_ten {character : Char} (digit : character.isDigit = true) :
    character.toNat - '0'.toNat < 10 := by
  have upper : character.toNat ≤ '9'.toNat := (Char.isDigit_iff_toNat.mp digit).2
  have nine : '9'.toNat = 57 := rfl
  have zero : '0'.toNat = 48 := rfl
  omega

theorem toDigits_digitValue {character : Char} (digit : character.isDigit = true) :
    Nat.toDigits 10 (character.toNat - '0'.toNat) = [character] := by
  have lower : '0'.toNat ≤ character.toNat := (Char.isDigit_iff_toNat.mp digit).1
  have zero : '0'.toNat = 48 := rfl
  rw [Nat.toDigits_of_lt_base (digitValue_lt_ten digit)]
  refine congrArg (fun character => [character]) (Char.toNat_inj.mp ?_)
  rw [Nat.toNat_digitChar_of_lt_ten (digitValue_lt_ten digit)]
  omega

/-- Digits read on from a positive number are the digits written behind it. -/
theorem toDigits_ofDigitChars {digits : List Char}
    (all : ∀ character ∈ digits, character.isDigit = true) {before : Nat} (positive : 0 < before) :
    Nat.toDigits 10 (Nat.ofDigitChars 10 digits before) = Nat.toDigits 10 before ++ digits := by
  induction digits generalizing before with
  | nil => simp
  | cons first rest ih =>
    obtain ⟨digit, others⟩ := List.forall_mem_cons.mp all
    have small := digitValue_lt_ten digit
    have grown : 0 < 10 * before + (first.toNat - '0'.toNat) := by omega
    rw [Nat.ofDigitChars_cons, ih others grown,
      ← Nat.toDigits_append_toDigits (by decide) positive small, toDigits_digitValue digit,
      List.append_assoc, List.singleton_append]

namespace Json

theorem Number.integer?_eq_some_iff {negative : Bool} {absolute : Nat} {value : Int}
    {lower : -0x8000000000000000 ≤ value} {upper : value < 0x10000000000000000} :
    integer? negative absolute = some (.integer value lower upper) ↔
      (if negative then -(absolute : Int) else absolute) = value ∧
        ¬(negative = true ∧ absolute = 0) := by
  unfold integer?
  cases negative with
  | true =>
    by_cases fits : 0 < absolute ∧ absolute ≤ 0x8000000000000000
    · have positive : absolute ≠ 0 := Nat.ne_of_gt fits.1
      simp [fits, positive]
    · simp only [fits, ↓reduceDIte, if_true, true_and, reduceCtorEq, false_iff]
      rintro ⟨rfl, positive⟩
      omega
  | false =>
    by_cases fits : absolute < 0x10000000000000000
    · simp [fits]
    · simp only [fits, ↓reduceDIte, Bool.false_eq_true, if_false, reduceCtorEq, false_iff]
      rintro ⟨rfl, -⟩
      omega

/-- A decimal integer as it is written: a minus sign perhaps, and digits without leading zeros. -/
structure IntegerLiteral where
  /-- There is a minus sign. -/
  negative : Bool
  /-- The digits. -/
  digits : List Char
  /-- There are no other characters. -/
  all : ∀ character ∈ digits, character.isDigit = true
  /-- There is a digit. -/
  some_digit : digits ≠ []
  /-- A zero does not stand before other digits. -/
  no_leading : ∀ second rest, digits ≠ '0' :: second :: rest

namespace IntegerLiteral

variable (literal : IntegerLiteral)

/-- The characters of a literal. -/
def characters : List Char :=
  (if literal.negative then ['-'] else []) ++ literal.digits

/-- The absolute value of a literal. -/
def magnitude : Nat := Nat.ofDigitChars 10 literal.digits 0

/-- The value of a literal. -/
def value : Int := if literal.negative then -literal.magnitude else literal.magnitude

/-- The numeral of a literal. -/
def numeral : Numeral := ⟨literal.digits, none, none⟩

/-- The number that a literal is taken for. -/
def number : Except Fault Number := Number.ofNumeral literal.negative literal.numeral

/-- The script of a literal. -/
def script : Script := .number literal.number

theorem script_ne_null : literal.script ≠ .null := nofun

/-- The script of a literal is written with its characters. -/
theorem writtenAs : literal.script.WrittenAs (String.ofList literal.characters) := by
  have proper : literal.numeral.isProper = true :=
    Numeral.isProper_iff.mpr ⟨by simpa [numeral, Numeral.digits] using literal.all,
      literal.some_digit, literal.no_leading, nofun⟩
  have spells := Token.Spells.number literal.negative (.proper proper .none)
  have ends : Token.EndsNumeral [] := trivial
  refine ⟨rfl, ?_⟩
  rw [String.toList_ofList]
  simpa [script, number, characters, numeral, Numeral.fractionCharacters, Script.tokenList] using
    Spelled.single spells ends .nil

/-- The digits are those of the absolute value. -/
theorem toDigits_magnitude : Nat.toDigits 10 literal.magnitude = literal.digits := by
  obtain ⟨negative, digits, all, some_digit, no_leading⟩ := literal
  obtain ⟨first, rest, rfl⟩ := List.exists_cons_of_ne_nil some_digit
  obtain ⟨digit, others⟩ := List.forall_mem_cons.mp all
  have whole : magnitude ⟨negative, first :: rest, all, some_digit, no_leading⟩ =
      Nat.ofDigitChars 10 rest (first.toNat - '0'.toNat) := by
    rw [magnitude, Nat.ofDigitChars_cons, Nat.mul_zero, Nat.zero_add]
  rw [whole]
  rcases Nat.eq_zero_or_pos (first.toNat - '0'.toNat) with zero | positive
  · have first_zero : [first] = ['0'] := by
      rw [← toDigits_digitValue digit, zero]
      rfl
    cases first_zero
    cases rest with
    | nil => rfl
    | cons second further => exact absurd rfl (no_leading second further)
  · rw [toDigits_ofDigitChars others positive, toDigits_digitValue digit, List.singleton_append]

theorem characters_eq_negative_zero_iff :
    literal.characters = ['-', '0'] ↔ literal.negative = true ∧ literal.magnitude = 0 := by
  have digits := literal.toDigits_magnitude
  unfold characters
  cases literal.negative with
  | true =>
    have alone : literal.digits = ['0'] ↔ literal.magnitude = 0 := by
      constructor
      · intro zero
        rw [magnitude, zero]
        rfl
      · intro zero
        rw [← digits, zero]
        rfl
    simpa using alone
  | false =>
    refine iff_of_false (fun same => ?_) nofun
    have minus := literal.all '-' (by simp_all)
    cases minus

/-- A number holds just the literals that fit, and `-0` is not one of them. -/
theorem number_eq_integer_iff {value : Int} {lower : -0x8000000000000000 ≤ value}
    {upper : value < 0x10000000000000000} :
    literal.number = .ok (.integer value lower upper) ↔
      literal.value = value ∧ literal.characters ≠ ['-', '0'] := by
  have integral : literal.numeral.isInteger = true := rfl
  have whole : Nat.ofDigitChars 10 literal.numeral.whole 0 = literal.magnitude := rfl
  rw [Ne, characters_eq_negative_zero_iff, IntegerLiteral.value,
    ← @Number.integer?_eq_some_iff _ _ _ lower upper]
  simp only [number, Number.ofNumeral, Number.ofNumeral?, integral, if_true, whole]
  cases Number.integer? literal.negative literal.magnitude with
  | some held => simp
  | none => cases literal.numeral.decimal.nearest? <;> simp

theorem number_eq_natural_iff {natural : Nat} {lower : -0x8000000000000000 ≤ (natural : Int)}
    {upper : (natural : Int) < 0x10000000000000000} :
    literal.number = .ok (.integer natural lower upper) ↔
      literal.negative = false ∧ literal.magnitude = natural := by
  rw [number_eq_integer_iff, Ne, characters_eq_negative_zero_iff, value]
  cases literal.negative with
  | true =>
    simp only [if_true, true_and, Bool.true_eq_false, false_and, iff_false, not_and, not_not]
    omega
  | false =>
    simp only [Bool.false_eq_true, if_false, true_and, false_and, not_false_iff, and_true,
      Int.ofNat_inj]

/-- An integer is printed with the characters of its literal. -/
theorem characters_of_integer {value : Int} {lower : -0x8000000000000000 ≤ value}
    {upper : value < 0x10000000000000000}
    (held : literal.number = .ok (.integer value lower upper)) :
    (Number.integer value lower upper).characters = literal.characters := by
  obtain ⟨same, no_zero⟩ := literal.number_eq_integer_iff.mp held
  rw [Ne, characters_eq_negative_zero_iff] at no_zero
  rw [Number.characters, ← same, IntegerLiteral.value, characters, ← toDigits_magnitude]
  cases sign : literal.negative with
  | true =>
    have positive : literal.magnitude ≠ 0 := fun zero => no_zero ⟨sign, zero⟩
    simp [Nat.pos_of_ne_zero positive]
  | false => simp

end IntegerLiteral

end Json

end QueryAssembly

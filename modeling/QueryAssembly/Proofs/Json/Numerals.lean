import QueryAssembly.Json.Token

/-!
# Numerals in a text

A numeral is read back from its characters, in whichever of the ways its power of ten is written and
whatever follows, unless what follows goes on with the numeral: a digit does, and so do a point and
the mark of a power of ten.
-/

namespace QueryAssembly

theorem Numeral.isProper_iff {numeral : Numeral} :
    numeral.isProper = true ↔
      (∀ character ∈ numeral.digits, character.isDigit = true) ∧ numeral.whole ≠ [] ∧
        (∀ first second, numeral.whole ≠ '0' :: first :: second) ∧ numeral.fraction ≠ some [] := by
  obtain ⟨whole, fraction, exponent⟩ := numeral
  simp only [isProper, Bool.and_eq_true, List.all_eq_true, and_assoc]
  refine and_congr_right fun _ => ?_
  match whole, fraction with
  | [], _ => simp
  | [_], none | [_], some [] | [_], some (_ :: _) => simp
  | first :: _ :: _, none | first :: _ :: _, some [] | first :: _ :: _, some (_ :: _) =>
    by_cases zero : first = '0' <;> simp [zero]

/-- Only zero is written with a leading zero. -/
theorem eq_zero_of_head?_toDigits {value : Nat}
    (zero_first : (Nat.toDigits 10 value).head? = some '0') : value = 0 := by
  induction value using Nat.strongRecOn with
  | ind value ih =>
    by_cases small : value < 10
    · rw [Nat.toDigits_of_lt_base small, List.head?_singleton, Option.some.injEq,
        Nat.digitChar_eq_zero] at zero_first
      exact zero_first
    · rw [Nat.toDigits_of_base_le (by decide) (by omega), List.head?_append] at zero_first
      have leading : (Nat.toDigits 10 (value / 10)).head? = some '0' := by
        cases digits : Nat.toDigits 10 (value / 10) with
        | nil => exact absurd digits Nat.toDigits_ne_nil
        | cons first further => simpa [digits] using zero_first
      have := ih (value / 10) (by omega) leading
      omega

theorem Numeral.isProper_of_toDigits (value : Nat) (exponent : Option Int) :
    (Numeral.mk (Nat.toDigits 10 value) none exponent).isProper = true := by
  refine isProper_iff.mpr ⟨?_, Nat.toDigits_ne_nil, ?_, by simp⟩
  · intro character found
    rw [digits, Option.getD_none, List.append_nil] at found
    exact Nat.isDigit_of_mem_toDigits (by decide) (by decide) found
  · intro first second (leading : Nat.toDigits 10 value = '0' :: first :: second)
    have zero : value = 0 := eq_zero_of_head?_toDigits (by rw [leading, List.head?_cons])
    rw [zero, Nat.toDigits_zero] at leading
    cases leading

namespace Json.Token

/-- No digit stands here. -/
def NoDigit : List Char → Prop
  | [] => True
  | character :: _ => character.isDigit = false

/-- Nothing stands here that would go on with a numeral. -/
def EndsNumeral : List Char → Prop
  | [] => True
  | character :: _ =>
    character.isDigit = false ∧ character ≠ '.' ∧ character ≠ 'e' ∧ character ≠ 'E'

variable {rest : List Char}

theorem EndsNumeral.noDigit (ends : EndsNumeral rest) : NoDigit rest := by
  cases rest with
  | nil => trivial
  | cons character further => exact ends.1

theorem takeWhile_isDigit_append {digits : List Char}
    (all : ∀ character ∈ digits, character.isDigit = true) (stop : NoDigit rest) :
    (digits ++ rest).takeWhile Char.isDigit = digits := by
  rw [List.takeWhile_append_of_pos all]
  cases rest with
  | nil => simp
  | cons character further =>
    have refused : ¬character.isDigit = true := by simp [show character.isDigit = false from stop]
    rw [List.takeWhile_cons_of_neg refused, List.append_nil]

theorem scanPower_append {digits : List Char}
    (all : ∀ character ∈ digits, character.isDigit = true) (some_digit : digits ≠ [])
    (stop : NoDigit rest) :
    scanPower (digits ++ rest) = .ok (Nat.ofDigitChars 10 digits 0, digits.length) := by
  unfold scanPower
  rw [takeWhile_isDigit_append all stop]
  split
  · exact absurd rfl some_digit
  · rfl

/-- How a power of ten may be written, from its mark on. -/
inductive SpellsPower : Option Int → List Char → Prop where
  /-- None is written. -/
  | none : SpellsPower none []
  /-- Without a sign. -/
  | plain {mark : Char} {digits : List Char} (marks : mark = 'e' ∨ mark = 'E')
    (all : ∀ character ∈ digits, character.isDigit = true) (some_digit : digits ≠ []) :
    SpellsPower (some (Nat.ofDigitChars 10 digits 0)) (mark :: digits)
  /-- With the sign of a positive power. -/
  | plus {mark : Char} {digits : List Char} (marks : mark = 'e' ∨ mark = 'E')
    (all : ∀ character ∈ digits, character.isDigit = true) (some_digit : digits ≠ []) :
    SpellsPower (some (Nat.ofDigitChars 10 digits 0)) (mark :: '+' :: digits)
  /-- With the sign of a negative power. -/
  | minus {mark : Char} {digits : List Char} (marks : mark = 'e' ∨ mark = 'E')
    (all : ∀ character ∈ digits, character.isDigit = true) (some_digit : digits ≠ []) :
    SpellsPower (some (-Nat.ofDigitChars 10 digits 0)) (mark :: '-' :: digits)

namespace SpellsPower

variable {exponent : Option Int} {power : List Char}

theorem scanExponent_append (spells : SpellsPower exponent power) (ends : EndsNumeral rest) :
    scanExponent (power ++ rest) = .ok (exponent, power.length) := by
  cases spells with
  | none =>
    cases rest with
    | nil => rfl
    | cons character further => simp [scanExponent, ends.2.2.1, ends.2.2.2]
  | @plain mark digits marks all some_digit =>
    obtain ⟨first, others, rfl⟩ := List.exists_cons_of_ne_nil some_digit
    have digit := all first List.mem_cons_self
    have found := scanPower_append all some_digit ends.noDigit
    have no_minus : first ≠ '-' := by
      rintro rfl
      cases digit
    have no_plus : first ≠ '+' := by
      rintro rfl
      cases digit
    rw [List.cons_append] at found
    simp [scanExponent, marks, no_minus, no_plus, found, Except.map]
  | plus marks all some_digit =>
    simp [scanExponent, marks, scanPower_append all some_digit ends.noDigit, Except.map]
  | minus marks all some_digit =>
    simp [scanExponent, marks, scanPower_append all some_digit ends.noDigit, Except.map]

theorem noDigit_append (spells : SpellsPower exponent power) (ends : EndsNumeral rest) :
    NoDigit (power ++ rest) := by
  cases spells with
  | none => exact ends.noDigit
  | plain marks | plus marks | minus marks => rcases marks with rfl | rfl <;> rfl

theorem append_ne_point (spells : SpellsPower exponent power) (ends : EndsNumeral rest)
    (further : List Char) : power ++ rest ≠ '.' :: further := by
  intro same
  cases spells with
  | none =>
    have point : rest = '.' :: further := same
    rw [point] at ends
    exact ends.2.1 rfl
  | plain marks | plus marks | minus marks => rcases marks with rfl | rfl <;> cases same

/-- The printed power of ten is one way to write it. -/
theorem exponentCharacters (exponent : Option Int) :
    SpellsPower exponent (Numeral.exponentCharacters exponent) := by
  have all (value : Nat) : ∀ character ∈ Nat.toDigits 10 value, character.isDigit = true :=
    fun _ found => Nat.isDigit_of_mem_toDigits (by decide) (by decide) found
  have whole (value : Nat) : Nat.ofDigitChars 10 (Nat.toDigits 10 value) 0 = value :=
    Nat.ofDigitChars_toDigits (by decide) (by decide)
  match exponent with
  | .none => exact .none
  | some (.ofNat power) =>
    have spelled := plus (.inl rfl) (all power) Nat.toDigits_ne_nil
    rwa [whole] at spelled
  | some (.negSucc power) =>
    have spelled := minus (.inl rfl) (all (power + 1)) Nat.toDigits_ne_nil
    rwa [whole] at spelled

end SpellsPower

theorem scanFraction_append {fraction : Option (List Char)}
    (all : ∀ character ∈ fraction.getD [], character.isDigit = true) (given : fraction ≠ some [])
    (stop : NoDigit rest) (no_point : ∀ further, rest ≠ '.' :: further) :
    scanFraction (Numeral.fractionCharacters fraction ++ rest) =
      .ok (fraction, (Numeral.fractionCharacters fraction).length) := by
  match fraction with
  | none =>
    show scanFraction rest = .ok (none, 0)
    unfold scanFraction
    split
    · rename_i further
      exact absurd rfl (no_point further)
    · rfl
  | some digits =>
    have found : (digits ++ rest).takeWhile Char.isDigit = digits :=
      takeWhile_isDigit_append all stop
    simp only [Numeral.fractionCharacters, List.cons_append, scanFraction, found]
    split
    · exact absurd rfl given
    · simp

theorem noDigit_fractionCharacters (fraction : Option (List Char)) (stop : NoDigit rest) :
    NoDigit (Numeral.fractionCharacters fraction ++ rest) := by
  cases fraction with
  | none => exact stop
  | some digits => exact (by decide : ('.' : Char).isDigit = false)

/-- A numeral is written with its digits as they are and its power of ten in any of the ways. -/
inductive SpellsNumeral : Numeral → List Char → Prop where
  /-- The whole part, the fraction and the power of ten. -/
  | proper {numeral : Numeral} {power : List Char} (proper : numeral.isProper = true)
    (spells : SpellsPower numeral.exponent power) :
    SpellsNumeral numeral
      (numeral.whole ++ (Numeral.fractionCharacters numeral.fraction ++ power))

/-- A written numeral is read back, and no character of what follows is taken. -/
theorem SpellsNumeral.scanNumeral_append {numeral : Numeral} {characters : List Char}
    (spells : SpellsNumeral numeral characters) (ends : EndsNumeral rest) :
    scanNumeral (characters ++ rest) = .ok (numeral, characters.length) := by
  obtain ⟨proper, power_spells⟩ := spells
  obtain ⟨all, some_digit, no_zero, given⟩ := Numeral.isProper_iff.mp proper
  obtain ⟨whole, fraction, exponent⟩ := numeral
  have whole_digits : ∀ character ∈ whole, character.isDigit = true :=
    fun character found => all character (List.mem_append_left _ found)
  have fraction_digits : ∀ character ∈ fraction.getD [], character.isDigit = true :=
    fun character found => all character (List.mem_append_right _ found)
  have after_fraction := power_spells.noDigit_append ends
  have first := takeWhile_isDigit_append whole_digits
    (noDigit_fractionCharacters fraction after_fraction)
  have second := scanFraction_append fraction_digits given after_fraction
    (power_spells.append_ne_point ends)
  have third := power_spells.scanExponent_append ends
  simp only [List.append_assoc, scanNumeral, first]
  rw [List.drop_left, second]
  simp only [bind, Except.bind]
  rw [← List.append_assoc, ← List.length_append, List.drop_left, third]
  simp [pure, Except.pure, Nat.add_assoc]

theorem SpellsNumeral.characters {numeral : Numeral} (proper : numeral.isProper = true) :
    SpellsNumeral numeral numeral.characters := by
  rw [Numeral.characters, List.append_assoc]
  exact .proper proper (.exponentCharacters numeral.exponent)

end Json.Token

end QueryAssembly

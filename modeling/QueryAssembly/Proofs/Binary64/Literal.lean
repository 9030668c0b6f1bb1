import QueryAssembly.Binary64.Literal
import QueryAssembly.Proofs.Json.Scanning

/-!
# What literals denote

A literal is an optional sign before a word or a numeral, and a numeral has a digit before or after
its point.  `Binary64.Denotes` says so without a reader, and the reader finds exactly what is denoted
(`Binary64.ofLiteral?_eq_some_iff`): no other character may stand in the literal, no space either.
-/

namespace QueryAssembly

open Json.Token (NoDigit SpellsPower noDigit_dropWhile isDigit_of_mem_takeWhile
  takeWhile_isDigit_append)

theorem natural?_eq_some_iff {characters : List Char} {value : Nat} :
    natural? characters = some value ↔
      characters ≠ [] ∧ (∀ character ∈ characters, character.isDigit = true) ∧
        Nat.ofDigitChars 10 characters 0 = value := by
  cases characters with
  | nil => simp [natural?]
  | cons first rest =>
    rw [← List.all_eq_true]
    by_cases digits : (first :: rest).all Char.isDigit = true
    · simp [natural?, digits]
    · simp [natural?, digits]

theorem dropWhile_isDigit_append {digits rest : List Char}
    (all : ∀ character ∈ digits, character.isDigit = true) (stop : NoDigit rest) :
    (digits ++ rest).dropWhile Char.isDigit = rest := by
  have whole : digits ++ (digits ++ rest).dropWhile Char.isDigit = digits ++ rest := by
    have parts := @List.takeWhile_append_dropWhile _ Char.isDigit (digits ++ rest)
    rwa [takeWhile_isDigit_append all stop] at parts
  exact List.append_cancel_left whole

/-! ### Numerals -/

namespace Numeral

/-- How a literal without sign may be written. -/
inductive SpellsLiteral : Numeral → List Char → Prop where
  /-- Digits alone. -/
  | whole {digits power : List Char} {exponent : Option Int}
    (all : ∀ character ∈ digits, character.isDigit = true) (some_digit : digits ≠ [])
    (spells : SpellsPower exponent power) :
    SpellsLiteral ⟨digits, none, exponent⟩ (digits ++ power)
  /-- Digits on one side of a point or on both. -/
  | pointed {before behind power : List Char} {exponent : Option Int}
    (all : ∀ character ∈ before ++ behind, character.isDigit = true)
    (some_digit : before ++ behind ≠ []) (spells : SpellsPower exponent power) :
    SpellsLiteral ⟨before, some behind, exponent⟩ (before ++ '.' :: (behind ++ power))

theorem spellsPower_of_literalExponent? {characters : List Char} {exponent : Option Int}
    (read : literalExponent? characters = some exponent) : SpellsPower exponent characters := by
  unfold literalExponent? at read
  split at read
  · cases read
    exact .none
  · rename_i mark rest
    split at read
    · rename_i marks
      split at read
      all_goals
        obtain ⟨power, lifted, same⟩ := Option.map_eq_some_iff.mp read
        obtain ⟨value, digits, held⟩ := Option.bind_eq_some_iff.mp lifted
        obtain ⟨some_digit, all, rfl⟩ := natural?_eq_some_iff.mp digits
        cases held
        cases same
      · exact .minus marks all some_digit
      · exact .plus marks all some_digit
      · exact .plain marks all some_digit
    · cases read

theorem literalExponent?_of_spellsPower {characters : List Char} {exponent : Option Int}
    (spells : SpellsPower exponent characters) :
    literalExponent? characters = some exponent := by
  have found {digits : List Char} (all : ∀ character ∈ digits, character.isDigit = true)
      (some_digit : digits ≠ []) :
      natural? digits = some (Nat.ofDigitChars 10 digits 0) :=
    natural?_eq_some_iff.mpr ⟨some_digit, all, rfl⟩
  cases spells with
  | none => rfl
  | minus marks all some_digit => simp [literalExponent?, marks, found all some_digit]
  | plus marks all some_digit => simp [literalExponent?, marks, found all some_digit]
  | @plain mark digits marks all some_digit =>
    obtain ⟨first, others, rfl⟩ := List.exists_cons_of_ne_nil some_digit
    have digit := all first List.mem_cons_self
    have no_minus : first ≠ '-' := by
      rintro rfl
      cases digit
    have no_plus : first ≠ '+' := by
      rintro rfl
      cases digit
    simp [literalExponent?, marks, no_minus, no_plus, found all some_digit]

theorem ofLiteral?_eq_some_iff {characters : List Char} {numeral : Numeral} :
    ofLiteral? characters = some numeral ↔ SpellsLiteral numeral characters := by
  constructor
  · intro read
    have whole : characters.takeWhile Char.isDigit ++ characters.dropWhile Char.isDigit =
        characters := List.takeWhile_append_dropWhile
    have digits (character : Char) (found : character ∈ characters.takeWhile Char.isDigit) :
        character.isDigit = true := isDigit_of_mem_takeWhile found
    unfold ofLiteral? at read
    generalize characters.takeWhile Char.isDigit = before at read whole digits
    generalize characters.dropWhile Char.isDigit = further at read whole
    subst whole
    dsimp only at read
    split at read
    · rename_i rest
      split at read
      · cases read
      · rename_i some_digit
        obtain ⟨exponent, power, rfl⟩ := Option.map_eq_some_iff.mp read
        have spells := spellsPower_of_literalExponent? power
        have parts : rest.takeWhile Char.isDigit ++ rest.dropWhile Char.isDigit = rest :=
          List.takeWhile_append_dropWhile
        have behind (character : Char) (found : character ∈ rest.takeWhile Char.isDigit) :
            character.isDigit = true := isDigit_of_mem_takeWhile found
        have pointed : SpellsLiteral ⟨before, some (rest.takeWhile Char.isDigit), exponent⟩
            (before ++ '.' :: (rest.takeWhile Char.isDigit ++ rest.dropWhile Char.isDigit)) := by
          refine .pointed (fun character found => ?_) ?_ spells
          · exact (List.mem_append.mp found).elim (digits character) (behind character)
          · simpa using some_digit
        rwa [parts] at pointed
    · split at read
      · cases read
      · rename_i some_digit
        obtain ⟨exponent, power, rfl⟩ := Option.map_eq_some_iff.mp read
        exact .whole digits (by simpa using some_digit) (spellsPower_of_literalExponent? power)
  · intro spells
    cases spells with
    | @whole digits power exponent all some_digit spells =>
      have stop : NoDigit (power ++ []) := spells.noDigit_append trivial
      have ends : Json.Token.EndsNumeral [] := trivial
      have no_point (rest : List Char) := spells.append_ne_point ends rest
      simp only [List.append_nil] at stop no_point
      simp only [ofLiteral?, takeWhile_isDigit_append all stop, dropWhile_isDigit_append all stop]
      simp [some_digit, literalExponent?_of_spellsPower spells]
    | @pointed before behind power exponent all some_digit spells =>
      have stop : NoDigit (power ++ []) := spells.noDigit_append trivial
      rw [List.append_nil] at stop
      have point : NoDigit ('.' :: (behind ++ power)) := rfl
      obtain ⟨before_digits, behind_digits⟩ := List.forall_mem_append.mp all
      simp only [ofLiteral?, takeWhile_isDigit_append before_digits point,
        dropWhile_isDigit_append before_digits point, takeWhile_isDigit_append behind_digits stop,
        dropWhile_isDigit_append behind_digits stop, literalExponent?_of_spellsPower spells]
      simpa using some_digit

end Numeral

/-- A numeral begins with a digit or a point. -/
theorem Numeral.SpellsLiteral.exists_first {numeral : Numeral} {characters : List Char}
    (spells : numeral.SpellsLiteral characters) :
    ∃ first rest, characters = first :: rest ∧ (first.isDigit = true ∨ first = '.') := by
  cases spells with
  | whole all some_digit =>
    obtain ⟨first, others, rfl⟩ := List.exists_cons_of_ne_nil some_digit
    exact ⟨first, _, rfl, .inl (all first List.mem_cons_self)⟩
  | @pointed before behind power exponent all some_digit =>
    cases before with
    | nil => exact ⟨'.', _, rfl, .inr rfl⟩
    | cons first others => exact ⟨first, _, rfl, .inl (all first (by simp))⟩

theorem toLower_of_isDigit {character : Char} (digit : character.isDigit = true) :
    character.toLower = character := by
  simp only [Char.isDigit, Bool.and_eq_true, decide_eq_true_eq] at digit
  refine dif_neg fun upper => ?_
  have below : character.val ≤ '9'.val := digit.2
  have above : 'A'.val ≤ character.val := upper.1
  exact absurd (Nat.le_trans above below) (by decide)

/-! ### Numbers -/

namespace Binary64

/-- What stands before a number of a given sign; a plus sign may be left out. -/
inductive SpellsSign : Bool → List Char → Prop where
  /-- No sign. -/
  | none : SpellsSign false []
  /-- The sign of a positive number. -/
  | plus : SpellsSign false ['+']
  /-- The sign of a negative number. -/
  | minus : SpellsSign true ['-']

/-- What a literal denotes after its sign; case does not matter in a word. -/
inductive DenotesUnsigned (negative : Bool) (characters : List Char) : Binary64 → Prop where
  /-- A word for infinity. -/
  | infinity (word : String.ofList (characters.map Char.toLower) ∈ ["inf", "infinity"]) :
    DenotesUnsigned negative characters (.infinity negative)
  /-- The word for no number. -/
  | nan (word : String.ofList (characters.map Char.toLower) = "nan") :
    DenotesUnsigned negative characters .nan
  /-- The floating point number nearest to a decimal. -/
  | decimal {numeral : Numeral} (spells : numeral.SpellsLiteral characters) :
    DenotesUnsigned negative characters (ofDecimal negative numeral.decimal)

/-- What a text denotes as a floating point number. -/
def Denotes (text : String) (value : Binary64) : Prop :=
  ∃ negative sign characters, text.toList = sign ++ characters ∧ SpellsSign negative sign ∧
    DenotesUnsigned negative characters value

/-- No word begins as a numeral or with a sign. -/
theorem ne_word_of_first {first : Char} {rest : List Char}
    (begins : first.isDigit = true ∨ first = '.' ∨ first = '-' ∨ first = '+') {word : String}
    (known : word ∈ ["inf", "infinity", "nan"]) :
    String.ofList ((first :: rest).map Char.toLower) ≠ word := by
  have unchanged : first.toLower = first := by
    rcases begins with digit | rfl | rfl | rfl
    · exact toLower_of_isDigit digit
    all_goals rfl
  rintro rfl
  have letter : first = 'i' ∨ first = 'n' := by
    simp only [List.map_cons, unchanged, List.mem_cons, List.not_mem_nil, or_false,
      ← String.toList_inj, String.toList_ofList] at known
    rcases known with same | same | same
    · exact .inl (List.cons.inj same).1
    · exact .inl (List.cons.inj same).1
    · exact .inr (List.cons.inj same).1
  rcases letter with rfl | rfl <;> revert begins <;> decide

theorem DenotesUnsigned.exists_first {negative : Bool} {characters : List Char} {value : Binary64}
    (denotes : DenotesUnsigned negative characters value) :
    ∃ first rest, characters = first :: rest ∧ first ≠ '-' ∧ first ≠ '+' := by
  have of_word {word : String} (known : word ∈ ["inf", "infinity", "nan"])
      (same : String.ofList (characters.map Char.toLower) = word) :
      ∃ first rest, characters = first :: rest ∧ first ≠ '-' ∧ first ≠ '+' := by
    cases characters with
    | nil =>
      subst same
      exact absurd known (by decide)
    | cons first rest =>
      refine ⟨first, rest, rfl, ?_, ?_⟩
      · rintro rfl
        exact ne_word_of_first (.inr (.inr (.inl rfl))) known same
      · rintro rfl
        exact ne_word_of_first (.inr (.inr (.inr rfl))) known same
  cases denotes with
  | infinity word => exact of_word (List.mem_append_left ["nan"] word) rfl
  | nan word => exact of_word (by decide) word
  | decimal spells =>
    obtain ⟨first, rest, rfl, begins⟩ := spells.exists_first
    refine ⟨first, rest, rfl, ?_, ?_⟩
    all_goals
      rintro rfl
      revert begins
      decide

theorem ofUnsignedLiteral?_eq_some_iff {negative : Bool} {characters : List Char}
    {value : Binary64} :
    ofUnsignedLiteral? negative characters = some value ↔
      DenotesUnsigned negative characters value := by
  constructor
  · intro read
    simp only [ofUnsignedLiteral?] at read
    split at read
    · rename_i word
      cases read
      exact .infinity (by simpa using word)
    · split at read
      · rename_i word
        cases read
        exact .nan word
      · obtain ⟨numeral, spells, rfl⟩ := Option.map_eq_some_iff.mp read
        exact .decimal (Numeral.ofLiteral?_eq_some_iff.mp spells)
  · intro denotes
    cases denotes with
    | infinity word =>
      have infinite : String.ofList (characters.map Char.toLower) = "inf" ∨
          String.ofList (characters.map Char.toLower) = "infinity" := by simpa using word
      simp [ofUnsignedLiteral?, infinite]
    | nan word => simp [ofUnsignedLiteral?, word]
    | decimal spells =>
      obtain ⟨first, rest, rfl, begins⟩ := spells.exists_first
      have no_word (word : String) (known : word ∈ ["inf", "infinity", "nan"]) :
          String.ofList ((first :: rest).map Char.toLower) ≠ word :=
        ne_word_of_first (begins.imp_right .inl) known
      have finite : ¬(String.ofList ((first :: rest).map Char.toLower) = "inf" ∨
          String.ofList ((first :: rest).map Char.toLower) = "infinity") :=
        not_or.mpr ⟨no_word _ (by decide), no_word _ (by decide)⟩
      simp only [ofUnsignedLiteral?, if_neg finite, if_neg (no_word "nan" (by decide)),
        Numeral.ofLiteral?_eq_some_iff.mpr spells, Option.map_some]

/-- The reader finds what a text denotes, and nothing else. -/
theorem ofLiteral?_eq_some_iff {text : String} {value : Binary64} :
    ofLiteral? text = some value ↔ Denotes text value := by
  unfold ofLiteral? Denotes
  constructor
  · intro read
    split at read
    · rename_i rest opens
      exact ⟨true, ['-'], rest, opens, .minus, ofUnsignedLiteral?_eq_some_iff.mp read⟩
    · rename_i rest opens
      exact ⟨false, ['+'], rest, opens, .plus, ofUnsignedLiteral?_eq_some_iff.mp read⟩
    · exact ⟨false, [], _, rfl, .none, ofUnsignedLiteral?_eq_some_iff.mp read⟩
  · rintro ⟨negative, sign, characters, written, spells, denotes⟩
    have read := ofUnsignedLiteral?_eq_some_iff.mpr denotes
    rw [written]
    cases spells with
    | minus => exact read
    | plus => exact read
    | none =>
      obtain ⟨first, rest, rfl, no_minus, no_plus⟩ := denotes.exists_first
      simpa [no_minus, no_plus] using read

end Binary64

end QueryAssembly

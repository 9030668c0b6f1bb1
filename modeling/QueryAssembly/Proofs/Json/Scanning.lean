import QueryAssembly.Proofs.Json.Spelling
import QueryAssembly.Proofs.Outcome

/-!
# What is cut off was spelled

Every token that is sound in form was spelled by the characters that were cut off for it, so a text
without a broken token spells the tokens it is cut into (`Token.spaced_tokensAfter`).
-/

namespace QueryAssembly.Json

/-! ### Numerals -/

namespace Token

theorem noDigit_dropWhile (characters : List Char) :
    NoDigit (characters.dropWhile Char.isDigit) := by
  induction characters with
  | nil => trivial
  | cons character rest ih =>
    by_cases digit : character.isDigit = true
    · rw [List.dropWhile_cons_of_pos digit]
      exact ih
    · rw [List.dropWhile_cons_of_neg digit]
      exact Bool.of_not_eq_true digit

theorem isDigit_of_mem_takeWhile {character : Char} {characters : List Char}
    (found : character ∈ characters.takeWhile Char.isDigit) : character.isDigit = true :=
  List.all_eq_true.mp List.all_takeWhile character found

theorem exists_of_scanPower {characters : List Char} {power width : Nat}
    (scanned : scanPower characters = .ok (power, width)) :
    ∃ digits rest, characters = digits ++ rest ∧
      (∀ character ∈ digits, character.isDigit = true) ∧ digits ≠ [] ∧
      Nat.ofDigitChars 10 digits 0 = power ∧ digits.length = width ∧ NoDigit rest := by
  refine ⟨characters.takeWhile Char.isDigit, characters.dropWhile Char.isDigit,
    List.takeWhile_append_dropWhile.symm, fun _ => isDigit_of_mem_takeWhile, ?_⟩
  unfold scanPower at scanned
  split at scanned
  · cases scanned
  · rename_i some_digit
    cases scanned
    exact ⟨some_digit, rfl, rfl, noDigit_dropWhile characters⟩

theorem exists_of_scanExponent {characters : List Char} {exponent : Option Int} {width : Nat}
    (scanned : scanExponent characters = .ok (exponent, width)) (stop : NoDigit characters) :
    ∃ power rest, characters = power ++ rest ∧ SpellsPower exponent power ∧
      power.length = width ∧ NoDigit rest := by
  unfold scanExponent at scanned
  split at scanned
  · cases scanned
    exact ⟨[], [], rfl, .none, rfl, stop⟩
  · rename_i mark further
    split at scanned
    · rename_i marks
      split at scanned
      all_goals
        obtain ⟨⟨power, taken⟩, digits_scanned, same⟩ := map_ok_iff.mp scanned
        obtain ⟨digits, rest, rfl, all, some_digit, rfl, rfl, after⟩ :=
          exists_of_scanPower digits_scanned
        cases same
      · exact ⟨mark :: '-' :: digits, rest, rfl, .minus marks all some_digit, rfl, after⟩
      · exact ⟨mark :: '+' :: digits, rest, rfl, .plus marks all some_digit, rfl, after⟩
      · exact ⟨mark :: digits, rest, rfl, .plain marks all some_digit, rfl, after⟩
    · cases scanned
      exact ⟨[], mark :: further, rfl, .none, rfl, stop⟩

theorem exists_of_scanFraction {characters : List Char} {fraction : Option (List Char)}
    {width : Nat} (scanned : scanFraction characters = .ok (fraction, width))
    (stop : NoDigit characters) :
    ∃ rest, characters = Numeral.fractionCharacters fraction ++ rest ∧
      (∀ character ∈ fraction.getD [], character.isDigit = true) ∧ fraction ≠ some [] ∧
      (Numeral.fractionCharacters fraction).length = width ∧ NoDigit rest := by
  unfold scanFraction at scanned
  split at scanned
  · rename_i further
    split at scanned
    · cases scanned
    · rename_i some_digit
      cases scanned
      refine ⟨further.dropWhile Char.isDigit, ?_, fun _ => isDigit_of_mem_takeWhile, ?_, rfl,
        noDigit_dropWhile further⟩
      · rw [Numeral.fractionCharacters, List.cons_append, List.takeWhile_append_dropWhile]
      · exact fun same => some_digit (Option.some.inj same)
  · cases scanned
    refine ⟨characters, rfl, fun _ found => absurd found List.not_mem_nil, ?_, rfl, stop⟩
    exact (Option.some_ne_none []).symm

theorem exists_of_scanNumeral {characters : List Char} {numeral : Numeral} {width : Nat}
    (scanned : scanNumeral characters = .ok (numeral, width)) :
    ∃ written rest, characters = written ++ rest ∧ SpellsNumeral numeral written ∧
      written.length = width ∧ NoDigit rest := by
  have split_off : characters.takeWhile Char.isDigit ++ characters.dropWhile Char.isDigit =
      characters := List.takeWhile_append_dropWhile
  have digits (character : Char) (found : character ∈ characters.takeWhile Char.isDigit) :
      character.isDigit = true := isDigit_of_mem_takeWhile found
  have after := noDigit_dropWhile characters
  unfold scanNumeral at scanned
  generalize characters.takeWhile Char.isDigit = whole at scanned split_off digits
  generalize characters.dropWhile Char.isDigit = further at split_off after
  subst split_off
  split at scanned
  · cases scanned
  · cases scanned
  · rename_i some_digit no_zero
    obtain ⟨⟨fraction, fraction_width⟩, fraction_scanned, scanned⟩ := bind_ok_iff.mp scanned
    rw [List.drop_left] at fraction_scanned
    obtain ⟨rest, rfl, fraction_digits, given, rfl, stop⟩ :=
      exists_of_scanFraction fraction_scanned after
    obtain ⟨⟨exponent, exponent_width⟩, exponent_scanned, same⟩ := bind_ok_iff.mp scanned
    rw [← List.append_assoc, ← List.length_append, List.drop_left] at exponent_scanned
    obtain ⟨power, rest, rfl, spells, rfl, stop⟩ := exists_of_scanExponent exponent_scanned stop
    cases same
    have proper : (Numeral.mk whole fraction exponent).isProper = true := by
      refine Numeral.isProper_iff.mpr ⟨fun character found => ?_, some_digit, ?_, given⟩
      · exact (List.mem_append.mp found).elim (digits character) (fraction_digits character)
      · exact fun first second zero => no_zero first second zero
    refine ⟨_, rest, ?_, .proper proper spells, ?_, stop⟩
    · simp only [List.append_assoc]
    · simp only [List.length_append, Nat.add_assoc]

end Token

/-! ### Strings -/

namespace Body

/-- Characters begin with the spelling of a body and its closing quotation mark. -/
def SpelledBy (body : Body) (characters : List Char) : Prop :=
  ∃ written rest, characters = written ++ '"' :: rest ∧
    Piece.SpellsAll body.pieces written ∧ body.width = written.length + 1

theorem SpelledBy.cons {body : Body} {characters : List Char} (spelled : body.SpelledBy characters)
    {piece : Piece} {here : List Char} (spells : piece.Spells here) :
    (body.cons piece here.length).SpelledBy (here ++ characters) := by
  obtain ⟨written, rest, rfl, others, width⟩ := spelled
  refine ⟨here ++ written, rest, (List.append_assoc ..).symm, .cons spells others, ?_⟩
  rw [Body.cons, width, List.length_append, Nat.add_assoc]

/-- A string that comes to its closing quotation mark was spelled. -/
theorem spelledBy_scan {characters : List Char} (closed : (scan characters).stop = .closed) :
    (scan characters).SpelledBy characters := by
  fun_induction scan characters with
  | case2 rest => exact ⟨[], rest, rfl, .nil, rfl⟩
  | case3 first second third fourth rest unit denoted ih => exact (ih closed).cons (.unit denoted)
  | case5 rest =>
    simp only [ended] at closed
    split at closed <;> cases closed
  | case6 letter rest _ _ character known ih => exact (ih closed).cons (.letter known)
  | case10 character rest no_quote _ _ escape trailing no_control ih =>
    have no_escape : character ≠ '\\' := by
      rintro rfl
      cases rest with
      | nil => exact trailing rfl rfl
      | cons letter further => exact escape letter further rfl rfl
    exact (ih closed).cons (.plain no_quote no_escape no_control)
  | case1 | case4 | case7 | case8 | case9 => cases closed

end Body

/-! ### Tokens -/

namespace Token

/-- A token was spelled by a first character and as many characters behind it as it takes. -/
def SpelledBy (cut : Token × Nat) (first : Char) (characters : List Char) : Prop :=
  ∃ written rest, characters = written ++ rest ∧ cut.1.Spells (first :: written) ∧
    cut.2 = written.length ∧ (cut.1.IsNumber → NoDigit rest)

variable {first : Char} {characters : List Char}

theorem spelledBy_single {token : Token} (spells : token.Spells [first])
    (no_number : ¬token.IsNumber) : SpelledBy (token, 0) first characters :=
  ⟨[], characters, rfl, spells, rfl, fun number => absurd number no_number⟩

theorem append_of_wordFault {due : List Char} (sound : wordFault due characters = none) :
    ∃ rest, characters = due ++ rest := by
  induction due generalizing characters with
  | nil => exact ⟨characters, rfl⟩
  | cons first further ih =>
    cases characters with
    | nil => cases sound
    | cons character rest =>
      by_cases same : character = first
      · rw [wordFault, if_pos same] at sound
        obtain ⟨others, rfl⟩ := ih sound
        exact ⟨others, by rw [same, List.cons_append]⟩
      · rw [wordFault, if_neg same] at sound
        cases sound

theorem spelledBy_word {token : Token} {due : List Char} (spells : token.Spells (first :: due))
    (no_number : ¬token.IsNumber) (sound : (word token due characters).1.isBroken = false) :
    SpelledBy (word token due characters) first characters := by
  unfold word at sound ⊢
  cases found : wordFault due characters with
  | none =>
    obtain ⟨rest, same⟩ := append_of_wordFault found
    exact ⟨due, rest, same, spells, rfl, fun number => absurd number no_number⟩
  | some fault =>
    rw [found] at sound
    cases sound

theorem spelledBy_string? (sound : (string? characters).1.isBroken = false) :
    SpelledBy (string? characters) '"' characters := by
  cases stop : (Body.scan characters).stop with
  | closed =>
    obtain ⟨written, rest, same, spells, width⟩ := Body.spelledBy_scan stop
    have cut : string? characters =
        (.string ((Body.join .closed (Body.scan characters).pieces).map String.ofList),
          written.length + 1) := by
      simp only [string?, stop, BodyEnd.fault, width, Body.text]
    rw [cut]
    refine ⟨written ++ ['"'], rest, ?_, .string spells, ?_, False.elim⟩
    · rw [same, List.append_assoc, List.singleton_append]
    · rw [List.length_append, List.length_singleton]
  | endOfText | control | badEscape | badUnit =>
    simp only [string?, stop, BodyEnd.fault] at sound
    split at sound <;> cases sound

theorem exists_of_number? {negative : Bool}
    (sound : (number? negative characters).1.isBroken = false) :
    ∃ numeral written rest, characters = written ++ rest ∧ SpellsNumeral numeral written ∧
      number? negative characters =
        (.number (Number.ofNumeral negative numeral), written.length) ∧ NoDigit rest := by
  cases scanned : scanNumeral characters with
  | error fault =>
    simp only [number?, scanned] at sound
    cases sound
  | ok outcome =>
    obtain ⟨numeral, width⟩ := outcome
    obtain ⟨written, rest, same, spells, rfl, stop⟩ := exists_of_scanNumeral scanned
    refine ⟨numeral, written, rest, same, spells, ?_, stop⟩
    simp only [number?, scanned, Number.ofNumeral]
    cases Number.ofNumeral? negative numeral <;> rfl

/-- A token that is sound in form was spelled. -/
theorem spelledBy_lex (sound : (lex first characters).1.isBroken = false) :
    SpelledBy (lex first characters) first characters := by
  by_cases digit : first.isDigit = true
  · rw [lex_digit digit] at sound ⊢
    obtain ⟨numeral, written, rest, same, spells, cut, stop⟩ := exists_of_number? sound
    obtain ⟨leading, further, rfl, -⟩ := spells.exists_digit
    cases same
    rw [cut]
    exact ⟨further, rest, rfl, .number false spells, Nat.add_sub_cancel .., fun _ => stop⟩
  · unfold lex at sound ⊢
    split at sound
    · exact spelledBy_single .openList id
    · exact spelledBy_single .closeList id
    · exact spelledBy_single .openObject id
    · exact spelledBy_single .closeObject id
    · exact spelledBy_single .comma id
    · exact spelledBy_single .colon id
    · exact spelledBy_word .null id sound
    · exact spelledBy_word .yes id sound
    · exact spelledBy_word .no id sound
    · exact spelledBy_string? sound
    · obtain ⟨numeral, written, rest, rfl, spells, cut, stop⟩ := exists_of_number? sound
      show SpelledBy (number? true (written ++ rest)) '-' (written ++ rest)
      rw [cut]
      exact ⟨written, rest, rfl, .number true spells, rfl, fun _ => stop⟩
    · rw [if_neg digit] at sound
      cases sound

/-- What goes on with a number that has come to its end is broken. -/
theorem endsNumeral_of_forall_sound (stop : NoDigit characters)
    (sound : ∀ token ∈ tokensAfter 0 characters, token.isBroken = false) :
    EndsNumeral characters := by
  cases characters with
  | nil => trivial
  | cons character rest =>
    have refused (mark : Char) (read skipped : Fault) (no_gap : isGap mark = false)
        (cut : lex mark rest = (.broken read skipped, 0)) : character ≠ mark := by
      rintro rfl
      have broken := sound (.broken read skipped) (by simp [tokensAfter, no_gap, cut, isBroken])
      cases broken
    exact ⟨stop, refused '.' _ _ rfl rfl, refused 'e' _ _ rfl rfl, refused 'E' _ _ rfl rfl⟩

/-- A text without a broken token spells the tokens that it is cut into: each takes its first
character at least, so what is left grows shorter. -/
theorem spaced_tokensAfter (sound : ∀ token ∈ tokensAfter 0 characters, token.isBroken = false) :
    Spaced (tokensAfter 0 characters) characters := by
  induction length : characters.length using Nat.strongRecOn generalizing characters with
  | ind count ih =>
    cases characters with
    | nil => exact .nil
    | cons character rest =>
      by_cases gap : isGap character = true
      · have skipped : tokensAfter 0 (character :: rest) = tokensAfter 0 rest := by
          rw [tokensAfter, if_pos gap]
        rw [skipped] at sound ⊢
        exact .gap gap (ih rest.length (by simp [← length]) sound rfl)
      · have first_sound : (lex character rest).1.isBroken = false := by
          refine sound _ ?_
          rw [tokensAfter, if_neg gap]
          dsimp only
          split <;> simp
        obtain ⟨written, after, rfl, spells, width, stop⟩ := spelledBy_lex first_sound
        have cut : tokensAfter 0 (character :: (written ++ after)) =
            (lex character (written ++ after)).1 :: tokensAfter 0 after := by
          rw [tokensAfter, if_neg gap]
          simp only [first_sound, Bool.false_eq_true, if_false, width, tokensAfter_append]
        rw [cut] at sound ⊢
        have others (token : Token) (found : token ∈ tokensAfter 0 after) :
            token.isBroken = false := sound token (List.mem_cons_of_mem _ found)
        have shorter : after.length < count := by
          rw [← length, List.length_cons, List.length_append]
          omega
        exact .token spells (fun number => endsNumeral_of_forall_sound (stop number) others)
          (ih after.length shorter others rfl)

end Token

end QueryAssembly.Json

import QueryAssembly.Json.Printer
import QueryAssembly.Json.Token

/-!
# Strings in a text

A string is scanned into the pieces that it was spelled with, whichever way each of them is spelled.
A printed string spells every character by one piece, escaped or not, and no piece is half of a
surrogate pair, so the pieces denote the characters that were printed.
-/

namespace QueryAssembly.Json

namespace Body

theorem hexDigit?_digitChar {value : Nat} (small : value < 16) :
    hexDigit? (Nat.digitChar value) = some value := by
  revert value
  decide

theorem unit?_hexPair {value : Nat} (control : value < 0x20) :
    unit? '0' '0' (Nat.digitChar (value / 16)) (Nat.digitChar (value % 16)) = some value := by
  have high := hexDigit?_digitChar (by omega : value / 16 < 16)
  have low := hexDigit?_digitChar (by omega : value % 16 < 16)
  have zero : hexDigit? '0' = some 0 := by decide
  simp only [unit?, zero, high, low, Option.bind_eq_bind, Option.bind_some, Option.pure_def,
    Option.some.injEq]
  omega

theorem scan_escape {letter character : Char} (known : escapeLetter? letter = some character)
    (rest : List Char) :
    scan ('\\' :: letter :: rest) = (scan rest).cons (.character character) 2 := by
  have no_unit : letter ≠ 'u' := by
    rintro rfl
    cases known
  simp [scan, known, no_unit]

theorem scan_plain {character : Char} (no_quote : character ≠ '"') (no_escape : character ≠ '\\')
    (no_control : ¬character.toNat < 0x20) (rest : List Char) :
    scan (character :: rest) = (scan rest).cons (.character character) 1 := by
  simp [scan, no_escape, no_control]

theorem scan_unit {first second third fourth : Char} {unit : Nat}
    (denoted : unit? first second third fourth = some unit) (rest : List Char) :
    scan ('\\' :: 'u' :: first :: second :: third :: fourth :: rest) =
      (scan rest).cons (.unit unit) 6 := by
  simp [scan, denoted]

end Body

namespace Piece

/-- The ways to spell a piece of a string. -/
inductive Spells : Piece → List Char → Prop where
  /-- A character as it is. -/
  | plain {character : Char} (no_quote : character ≠ '"') (no_escape : character ≠ '\\')
    (no_control : ¬character.toNat < 0x20) : Spells (.character character) [character]
  /-- A character by its letter. -/
  | letter {letter character : Char} (known : Body.escapeLetter? letter = some character) :
    Spells (.character character) ['\\', letter]
  /-- A unit by four digits. -/
  | unit {first second third fourth : Char} {unit : Nat}
    (denoted : Body.unit? first second third fourth = some unit) :
    Spells (.unit unit) ['\\', 'u', first, second, third, fourth]

/-- Pieces are spelled one after the other. -/
inductive SpellsAll : List Piece → List Char → Prop where
  /-- No piece. -/
  | nil : SpellsAll [] []
  /-- A piece before others. -/
  | cons {piece : Piece} {pieces : List Piece} {here further : List Char}
    (spells : piece.Spells here) (others : SpellsAll pieces further) :
    SpellsAll (piece :: pieces) (here ++ further)

theorem Spells.scan_append {piece : Piece} {written : List Char} (spells : piece.Spells written)
    (rest : List Char) :
    Body.scan (written ++ rest) = (Body.scan rest).cons piece written.length := by
  cases spells with
  | plain no_quote no_escape no_control =>
    exact Body.scan_plain no_quote no_escape no_control rest
  | letter known => exact Body.scan_escape known rest
  | unit denoted => exact Body.scan_unit denoted rest

/-- What is spelled is scanned up to the closing quotation mark and no further. -/
theorem SpellsAll.scan_append {pieces : List Piece} {written : List Char}
    (spells : SpellsAll pieces written) (rest : List Char) :
    Body.scan (written ++ '"' :: rest) = ⟨pieces, .closed, written.length + 1⟩ := by
  induction spells with
  | nil => rfl
  | @cons piece pieces here further spells _ ih =>
    rw [List.append_assoc, spells.scan_append, ih, Body.cons, List.length_append, Nat.add_assoc]

/-- A piece stands for a character, which is a control character when it is escaped as a unit. -/
def StandsFor (piece : Piece) (character : Char) : Prop :=
  piece = .character character ∨ piece = .unit character.toNat ∧ character.toNat < 0x20

end Piece

/-- A printed character spells one piece. -/
theorem exists_spells_escapedCharacter (character : Char) :
    ∃ piece : Piece, piece.StandsFor character ∧ piece.Spells (escapedCharacter character) := by
  have escaped {letter : Char} (known : Body.escapeLetter? letter = some character)
      (written : escapedCharacter character = ['\\', letter]) :
      ∃ piece : Piece, piece.StandsFor character ∧ piece.Spells (escapedCharacter character) := by
    rw [written]
    exact ⟨.character character, .inl rfl, .letter known⟩
  by_cases quote : character = '"'
  · subst quote
    exact escaped rfl rfl
  by_cases backslash : character = '\\'
  · subst backslash
    exact escaped rfl rfl
  by_cases backspace : character = '\x08'
  · subst backspace
    exact escaped rfl rfl
  by_cases tab : character = '\t'
  · subst tab
    exact escaped rfl rfl
  by_cases line : character = '\n'
  · subst line
    exact escaped rfl rfl
  by_cases page : character = '\x0c'
  · subst page
    exact escaped rfl rfl
  by_cases carriage : character = '\r'
  · subst carriage
    exact escaped rfl rfl
  by_cases control : character.toNat < 0x20
  · have written : escapedCharacter character =
        ['\\', 'u', '0', '0'] ++ hexPair character.toNat := by
      simp [escapedCharacter, quote, backslash, backspace, tab, line, page, carriage, control]
    rw [written]
    exact ⟨.unit character.toNat, .inr ⟨rfl, control⟩, .unit (Body.unit?_hexPair control)⟩
  · have written : escapedCharacter character = [character] := by
      simp [escapedCharacter, quote, backslash, backspace, tab, line, page, carriage, control]
    rw [written]
    exact ⟨.character character, .inl rfl, .plain quote backslash control⟩

theorem Body.join_cons {piece : Piece} {character : Char} (stands : piece.StandsFor character)
    (stop : BodyEnd) (rest : List Piece) :
    join stop (piece :: rest) = (join stop rest).map (character :: ·) := by
  rcases stands with rfl | ⟨rfl, control⟩
  · rw [join]
  · have not_leading : isLeadingSurrogate character.toNat = false := by
      simp only [isLeadingSurrogate, Bool.and_eq_false_iff, decide_eq_false_iff_not]
      omega
    have not_trailing : isTrailingSurrogate character.toNat = false := by
      simp only [isTrailingSurrogate, Bool.and_eq_false_iff, decide_eq_false_iff_not]
      omega
    match rest with
    | [] => simp [join, not_leading, not_trailing]
    | .character _ :: _ => simp [join, not_leading, not_trailing]
    | .unit _ :: _ => simp [join, not_leading, not_trailing]

/-- Printed characters spell pieces that denote them. -/
theorem exists_spellsAll_printed (characters : List Char) :
    ∃ pieces, Body.join .closed pieces = .ok characters ∧
      Piece.SpellsAll pieces (characters.flatMap escapedCharacter) := by
  induction characters with
  | nil => exact ⟨[], rfl, .nil⟩
  | cons character further ih =>
    obtain ⟨pieces, joined, others⟩ := ih
    obtain ⟨piece, stands, spells⟩ := exists_spells_escapedCharacter character
    refine ⟨piece :: pieces, ?_, .cons spells others⟩
    rw [Body.join_cons stands, joined]
    rfl

/-- The string whose pieces are given. -/
theorem Token.string?_append {pieces : List Piece} {written : List Char}
    (spells : Piece.SpellsAll pieces written) (rest : List Char) :
    Token.string? (written ++ '"' :: rest) =
      (.string ((Body.join .closed pieces).map String.ofList), written.length + 1) := by
  rw [string?, spells.scan_append]
  rfl

end QueryAssembly.Json

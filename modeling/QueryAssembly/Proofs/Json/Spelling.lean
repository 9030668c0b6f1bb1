import QueryAssembly.Proofs.Json.Numerals
import QueryAssembly.Proofs.Json.Strings

/-!
# The spelling of tokens

`Token.Spells` lists the ways to spell a token, and `Token.Spaced` says that tokens are spelled one
after the other with white space anywhere between them.  A number reaches as far as its characters
go on.  Spelled tokens are the tokens that a text is cut into (`Token.Spaced.tokensAfter_eq`).
-/

namespace QueryAssembly.Json

/-- The value of a signed numeral, or its fault. -/
def Number.ofNumeral (negative : Bool) (numeral : Numeral) : Except Fault Number :=
  match ofNumeral? negative numeral with
  | some value => .ok value
  | none => .error .numberOutOfRange

theorem Number.ofNumeral_of_some {negative : Bool} {numeral : Numeral} {number : Number}
    (denoted : ofNumeral? negative numeral = some number) :
    ofNumeral negative numeral = .ok number := by
  rw [ofNumeral, denoted]

namespace Token

/-- The ways to spell a token. -/
inductive Spells : Token → List Char → Prop where
  | openList : Spells .openList ['[']
  | closeList : Spells .closeList [']']
  | openObject : Spells .openObject ['\x7b']
  | closeObject : Spells .closeObject ['\x7d']
  | comma : Spells .comma [',']
  | colon : Spells .colon [':']
  | null : Spells .null ['n', 'u', 'l', 'l']
  | yes : Spells (.bool true) ['t', 'r', 'u', 'e']
  | no : Spells (.bool false) ['f', 'a', 'l', 's', 'e']
  | number (negative : Bool) {numeral : Numeral} {characters : List Char}
    (spells : SpellsNumeral numeral characters) :
    Spells (.number (Number.ofNumeral negative numeral))
      ((if negative then ['-'] else []) ++ characters)
  | string {pieces : List Piece} {written : List Char} (spells : Piece.SpellsAll pieces written) :
    Spells (.string ((Body.join .closed pieces).map String.ofList)) ('"' :: (written ++ ['"']))

/-- Only a number could go on with the characters behind it. -/
def IsNumber : Token → Prop
  | .number _ => True
  | _ => False

/-- Tokens are spelled one after the other, with white space anywhere between them. -/
inductive Spaced : List Token → List Char → Prop where
  /-- No token. -/
  | nil : Spaced [] []
  /-- White space. -/
  | gap {character : Char} {tokens : List Token} {rest : List Char}
    (blank : isGap character = true) (spaced : Spaced tokens rest) :
    Spaced tokens (character :: rest)
  /-- A token before others. -/
  | token {token : Token} {tokens : List Token} {written rest : List Char}
    (spells : token.Spells written) (ends : token.IsNumber → EndsNumeral rest)
    (spaced : Spaced tokens rest) :
    Spaced (token :: tokens) (written ++ rest)

variable {rest : List Char}

theorem number?_append {numeral : Numeral} {characters : List Char}
    (spells : SpellsNumeral numeral characters) (negative : Bool) (ends : EndsNumeral rest) :
    number? negative (characters ++ rest) =
      (.number (Number.ofNumeral negative numeral), characters.length) := by
  simp only [number?, spells.scanNumeral_append ends, Number.ofNumeral]
  cases Number.ofNumeral? negative numeral <;> rfl

theorem lex_digit {first : Char} (digit : first.isDigit = true) (rest : List Char) :
    lex first rest =
      ((number? false (first :: rest)).1, (number? false (first :: rest)).2 - 1) := by
  unfold lex
  split <;> simp_all

theorem isGap_digit {first : Char} (digit : first.isDigit = true) : isGap first = false := by
  have differs (gap : Char) (no_digit : gap.isDigit = false) : first ≠ gap := by
    rintro rfl
    rw [no_digit] at digit
    cases digit
  simp [isGap, differs]

theorem tokensAfter_of_lex {first : Char} {taken : List Char} {token : Token}
    (no_gap : isGap first = false) (sound : token.isBroken = false)
    (cut : lex first (taken ++ rest) = (token, taken.length)) :
    tokensAfter 0 (first :: taken ++ rest) = token :: tokensAfter 0 rest := by
  have taken_off := tokensAfter_append taken rest
  simp [tokensAfter, no_gap, cut, sound, taken_off]

theorem SpellsNumeral.exists_digit {numeral : Numeral} {characters : List Char}
    (spells : SpellsNumeral numeral characters) :
    ∃ first further, characters = first :: further ∧ first.isDigit = true := by
  obtain ⟨proper, -⟩ := spells
  obtain ⟨all, some_digit, -, -⟩ := Numeral.isProper_iff.mp proper
  obtain ⟨first, further, whole⟩ := List.exists_cons_of_ne_nil some_digit
  rw [whole]
  exact ⟨first, _, rfl, all first (by simp [Numeral.digits, whole])⟩

/-- A spelled token is the first one of the text. -/
theorem Spells.tokensAfter_append {token : Token} {written : List Char}
    (spells : token.Spells written) (ends : token.IsNumber → EndsNumeral rest) :
    tokensAfter 0 (written ++ rest) = token :: tokensAfter 0 rest := by
  cases spells with
  | openList | closeList | openObject | closeObject | comma | colon | null | yes | no => rfl
  | @number negative numeral characters spells =>
    have cut := number?_append spells negative (ends trivial)
    cases negative with
    | true => exact tokensAfter_of_lex rfl rfl cut
    | false =>
      obtain ⟨first, further, rfl, digit⟩ := spells.exists_digit
      refine tokensAfter_of_lex (isGap_digit digit) rfl ?_
      rw [List.cons_append] at cut
      rw [lex_digit digit, cut, List.length_cons, Nat.add_sub_cancel]
  | @string pieces written spells =>
    refine tokensAfter_of_lex rfl rfl ?_
    rw [List.append_assoc, List.singleton_append, List.length_append, List.length_singleton]
    exact string?_append spells rest

/-- A text is cut into the tokens that are spelled in it. -/
theorem Spaced.tokensAfter_eq {tokens : List Token} {characters : List Char}
    (spaced : Spaced tokens characters) : tokensAfter 0 characters = tokens := by
  induction spaced with
  | nil => rfl
  | gap blank _ ih => rw [tokensAfter, if_pos blank, ih]
  | token spells ends _ ih => rw [spells.tokensAfter_append ends, ih]

end Token

end QueryAssembly.Json

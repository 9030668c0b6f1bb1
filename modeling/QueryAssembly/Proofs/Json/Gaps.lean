import QueryAssembly.Proofs.Json.Tokens
import Mathlib.Data.List.Forall2

/-!
# White space between the parts of a text

`withoutGaps` deletes the white space of a text, except inside string literals, where a quotation
mark behind a backslash does not end the literal.  What it leaves of a printed value is the compact
form of that value, whichever form was printed: the forms differ in their white space alone.
-/

namespace QueryAssembly.Json

/-- Where a character of a text stands. -/
inductive Standing where
  /-- Outside string literals. -/
  | outside
  /-- Inside a string literal. -/
  | inside
  /-- Behind a backslash, inside a string literal. -/
  | escaped
deriving DecidableEq

/-- Where the character behind one that stands inside a literal stands. -/
def Standing.after (character : Char) : Standing :=
  if character = '"' then .outside else if character = '\\' then .escaped else .inside

/-- Delete white space outside string literals, from a given standing on. -/
def deleteGaps : Standing → List Char → List Char
  | _, [] => []
  | .outside, character :: rest =>
    if Token.isGap character then deleteGaps .outside rest
    else if character = '"' then character :: deleteGaps .inside rest
    else character :: deleteGaps .outside rest
  | .inside, character :: rest => character :: deleteGaps (.after character) rest
  | .escaped, character :: rest => character :: deleteGaps .inside rest

/-- A text without the white space outside its string literals. -/
def withoutGaps (text : String) : String :=
  String.ofList (deleteGaps .outside text.toList)

/-- Characters that begin and end outside string literals, and what is left of them. -/
def Leaves (characters left : List Char) : Prop :=
  ∀ rest, deleteGaps .outside (characters ++ rest) = left ++ deleteGaps .outside rest

/-- A character that stays, and opens no literal. -/
def isBare (character : Char) : Bool :=
  !Token.isGap character && character != '"'

namespace Leaves

theorem nil : Leaves [] [] := fun _ => rfl

theorem append {first second left right : List Char} (before : Leaves first left)
    (after : Leaves second right) : Leaves (first ++ second) (left ++ right) := by
  intro rest
  rw [List.append_assoc, before, after, List.append_assoc]

theorem bare {character : Char} (bare : isBare character = true) :
    Leaves [character] [character] := by
  simp only [isBare, Bool.and_eq_true, Bool.not_eq_true', bne_iff_ne, ne_eq] at bare
  intro rest
  rw [List.singleton_append, deleteGaps, if_neg (by simp [bare.1]), if_neg bare.2]
  rfl

/-- A character that stays before others that stay. -/
theorem cons {character : Char} {characters left : List Char} (first : isBare character = true)
    (others : Leaves characters left) : Leaves (character :: characters) (character :: left) :=
  (bare first).append others

theorem allBare {characters : List Char} (all : characters.all isBare = true) :
    Leaves characters characters := by
  induction characters with
  | nil => exact nil
  | cons character rest ih =>
    rw [List.all_cons, Bool.and_eq_true] at all
    exact cons all.1 (ih all.2)

theorem gaps {characters : List Char} (blank : characters.all Token.isGap = true) :
    Leaves characters [] := by
  intro rest
  induction characters with
  | nil => rfl
  | cons character further ih =>
    rw [List.all_cons, Bool.and_eq_true] at blank
    rw [List.cons_append, deleteGaps, if_pos blank.1]
    exact ih blank.2

end Leaves

/-! ### String literals -/

theorem after_hexDigit {digit : Char} {value : Nat} (denoted : Body.hexDigit? digit = some value) :
    Standing.after digit = .inside := by
  have no_quote : digit ≠ '"' := by
    rintro rfl
    cases denoted
  have no_escape : digit ≠ '\\' := by
    rintro rfl
    cases denoted
  rw [Standing.after, if_neg no_quote, if_neg no_escape]

theorem Piece.Spells.deleteGaps_append {piece : Piece} {written : List Char}
    (spells : piece.Spells written) (rest : List Char) :
    deleteGaps .inside (written ++ rest) = written ++ deleteGaps .inside rest := by
  have backslash : Standing.after '\\' = .escaped := rfl
  cases spells with
  | plain no_quote no_escape no_control =>
    simp only [List.singleton_append, deleteGaps, Standing.after, if_neg no_quote,
      if_neg no_escape]
  | letter known => rfl
  | unit denoted =>
    simp only [Body.unit?, Option.bind_eq_bind, Option.bind_eq_some_iff] at denoted
    obtain ⟨_, first, _, second, _, third, _, fourth, -⟩ := denoted
    simp only [List.cons_append, List.nil_append, deleteGaps, backslash, after_hexDigit first,
      after_hexDigit second, after_hexDigit third, after_hexDigit fourth]

theorem Piece.SpellsAll.deleteGaps_append {pieces : List Piece} {written : List Char}
    (spells : SpellsAll pieces written) (rest : List Char) :
    deleteGaps .inside (written ++ rest) = written ++ deleteGaps .inside rest := by
  induction spells with
  | nil => rfl
  | cons spells _ ih =>
    rw [List.append_assoc, spells.deleteGaps_append, ih, List.append_assoc]

namespace Leaves

/-- A literal stays as it is. -/
theorem string (text : String) : Leaves (stringCharacters text) (stringCharacters text) := by
  intro rest
  obtain ⟨pieces, -, spells⟩ := exists_spellsAll_printed text.toList
  have opened (characters : List Char) :
      deleteGaps .outside ('"' :: characters) = '"' :: deleteGaps .inside characters := rfl
  have closed : deleteGaps .inside ('"' :: rest) = '"' :: deleteGaps .outside rest := rfl
  simp only [stringCharacters, List.cons_append, List.append_assoc, List.nil_append]
  rw [opened, spells.deleteGaps_append, closed]

/-! ### Numbers -/

theorem isBare_of_isDigit {character : Char} (digit : character.isDigit = true) :
    isBare character = true := by
  have no_quote : character ≠ '"' := by
    rintro rfl
    cases digit
  simp [isBare, Token.isGap_digit digit, no_quote]

theorem digits {characters : List Char}
    (all : ∀ character ∈ characters, character.isDigit = true) : Leaves characters characters :=
  allBare (List.all_eq_true.mpr fun character inside => isBare_of_isDigit (all character inside))

theorem exponentCharacters (exponent : Option Int) :
    Leaves (Numeral.exponentCharacters exponent) (Numeral.exponentCharacters exponent) := by
  have power (value : Nat) : Leaves (Nat.toDigits 10 value) (Nat.toDigits 10 value) :=
    digits fun _ found => Nat.isDigit_of_mem_toDigits (by decide) (by decide) found
  match exponent with
  | none => exact nil
  | some (.ofNat value) => exact cons rfl (cons rfl (power value))
  | some (.negSucc value) => exact cons rfl (cons rfl (power (value + 1)))

theorem numeral {numeral : Numeral} (proper : numeral.isProper = true) :
    Leaves numeral.characters numeral.characters := by
  obtain ⟨all, -, -, -⟩ := Numeral.isProper_iff.mp proper
  have whole : Leaves numeral.whole numeral.whole :=
    digits fun character found => all character (List.mem_append_left _ found)
  have fraction : Leaves (Numeral.fractionCharacters numeral.fraction)
      (Numeral.fractionCharacters numeral.fraction) := by
    cases given : numeral.fraction with
    | none => exact nil
    | some places =>
      refine cons rfl (digits fun character found => all character ?_)
      rw [Numeral.digits, given]
      exact List.mem_append_right _ found
  exact (whole.append fraction).append (exponentCharacters numeral.exponent)

theorem number (number : Number) : Leaves number.characters number.characters := by
  obtain ⟨negative, numeral, proper, -, written⟩ := number.exists_numeral
  rw [written]
  refine append ?_ (Leaves.numeral proper)
  cases negative with
  | true => exact bare rfl
  | false => exact nil

/-! ### Containers -/

theorem gap (style : Style) (depth : Nat) : Leaves (style.gap depth) [] := by
  cases style with
  | compact => exact nil
  | pretty =>
    have spaces : (List.replicate (2 * depth) ' ').all Token.isGap = true := by
      rw [List.all_eq_true]
      intro character inside
      rw [List.eq_of_mem_replicate inside]
      rfl
    exact gaps spaces

theorem colon (style : Style) : Leaves style.colon [':'] := by
  cases style with
  | compact => exact bare rfl
  | pretty => exact cons rfl (gaps rfl)

theorem followingParts (style : Style) (depth : Nat) {parts lefts : List (List Char)}
    (all : List.Forall₂ Leaves parts lefts) :
    Leaves (followingParts (style.gap depth) parts) (followingParts [] lefts) := by
  induction all with
  | nil => exact nil
  | cons first _ ih =>
    exact cons rfl (((gap style depth).append first).append ih)

theorem enclosed {opening closing : Char} (opens : isBare opening = true)
    (closes : isBare closing = true) (style : Style) (depth : Nat)
    {parts lefts : List (List Char)} (all : List.Forall₂ Leaves parts lefts) :
    Leaves (enclosed style depth opening closing parts)
      (enclosed .compact depth opening closing lefts) := by
  cases all with
  | nil => exact cons opens (bare closes)
  | cons first others =>
    have inside := ((gap style (depth + 1)).append first).append
      (followingParts style (depth + 1) others)
    have whole := cons opens ((inside.append (gap style depth)).append (bare closes))
    simp only [List.nil_append, List.append_nil] at whole
    simp only [Json.enclosed, Style.gap, List.append_nil, List.cons_append]
    exact whole

end Leaves

mutual

/-- Of a printed value the compact form is left, in either style and at any depth. -/
theorem leaves_print (style : Style) : (depth : Nat) → (json : Json) →
    Leaves (print style depth json) (print .compact depth json)
  | _, .null => .allBare (rfl : ['n', 'u', 'l', 'l'].all isBare = true)
  | _, .bool true => .allBare (rfl : ['t', 'r', 'u', 'e'].all isBare = true)
  | _, .bool false => .allBare (rfl : ['f', 'a', 'l', 's', 'e'].all isBare = true)
  | _, .number value => .number value
  | _, .string value => .string value
  | depth, .array items =>
    .enclosed rfl rfl style depth (leavesAll_printItems style (depth + 1) items)
  | depth, .object members =>
    .enclosed rfl rfl style depth
      (leavesAll_printMembers style (depth + 1) members)

theorem leavesAll_printItems (style : Style) : (depth : Nat) → (items : List Json) →
    List.Forall₂ Leaves (printItems style depth items) (printItems .compact depth items)
  | _, [] => .nil
  | depth, item :: rest =>
    .cons (leaves_print style depth item) (leavesAll_printItems style depth rest)

theorem leavesAll_printMembers (style : Style) : (depth : Nat) →
    (members : List (String × Json)) →
      List.Forall₂ Leaves (printMembers style depth members) (printMembers .compact depth members)
  | _, [] => .nil
  | depth, (key, value) :: rest =>
    .cons (((Leaves.string key).append (.colon style)).append (leaves_print style depth value))
      (leavesAll_printMembers style depth rest)

end

/-- A line with a printed value is the compact text of the value once its white space is gone. -/
theorem withoutGaps_line (style : Style) (json : Json) :
    withoutGaps (json.text style ++ "\n") = json.text .compact := by
  have break_gone : Leaves ['\n'] [] := .gaps rfl
  have line := (leaves_print style 0 json).append break_gone []
  rw [List.append_nil, List.append_nil, deleteGaps, List.append_nil] at line
  rw [withoutGaps, String.toList_append, text, String.toList_ofList]
  exact congrArg String.ofList line

end QueryAssembly.Json

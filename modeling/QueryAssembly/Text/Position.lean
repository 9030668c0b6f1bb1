/-!
# Positions at the end of a message

A message about a text may end with the place it speaks of, as in `... at line 3 column 14`.  Such
an ending is a position and no part of the message proper.  `Position.split?` takes it off and
loses nothing: what it leaves and what it takes make up the message.
-/

namespace QueryAssembly.Text

/-- A place in a text. -/
structure Position where
  /-- The number of the line. -/
  line : Nat
  /-- The number of the column. -/
  column : Nat
deriving DecidableEq

namespace Position

/-- The characters after a mark that stands at the beginning. -/
def after? : List Char → List Char → Option (List Char)
  | [], characters => some characters
  | _ :: _, [] => none
  | due :: mark, character :: rest => if character = due then after? mark rest else none

/-- The number at the beginning of characters, and the characters after it. -/
def number? (characters : List Char) : Option (Nat × List Char) :=
  match characters.takeWhile Char.isDigit with
  | [] => none
  | digits => some (Nat.ofDigitChars 10 digits 0, characters.drop digits.length)

/-- The position that the characters spell from the first to the last. -/
def ofEnding? (characters : List Char) : Option Position := do
  let (line, rest) ← number? (← after? " at line ".toList characters)
  let (column, rest) ← number? (← after? " column ".toList rest)
  if rest.isEmpty then some ⟨line, column⟩ else none

/-- The characters before a position at the end, and the position. -/
def split? : List Char → Option (List Char × Position)
  | [] => none
  | character :: rest =>
    match ofEnding? (character :: rest) with
    | some position => some ([], position)
    | none => (split? rest).map fun parts => (character :: parts.1, parts.2)

theorem append_eq_of_split? {characters before : List Char} {position : Position}
    (split : split? characters = some (before, position)) :
    ∃ ending, before ++ ending = characters ∧ ofEnding? ending = some position := by
  induction characters generalizing before with
  | nil => simp [split?] at split
  | cons character rest ih =>
    unfold split? at split
    cases whole : ofEnding? (character :: rest) with
    | some found =>
      simp only [whole, Option.some.injEq, Prod.mk.injEq] at split
      obtain ⟨rfl, rfl⟩ := split
      exact ⟨character :: rest, rfl, whole⟩
    | none =>
      simp only [whole, Option.map_eq_some_iff, Prod.mk.injEq] at split
      obtain ⟨parts, found, rfl, rfl⟩ := split
      obtain ⟨ending, appended, spelled⟩ := ih found
      exact ⟨ending, by simp [appended], spelled⟩

/-- Both numbers have at most 64 bits. -/
def isNarrow (position : Position) : Bool :=
  position.line < 0x10000000000000000 && position.column < 0x10000000000000000

end Position

/-- A message without the position at its end. -/
def withoutPosition (message : String) : String :=
  match Position.split? message.toList with
  | some (before, _) => String.ofList before
  | none => message

/-- The position at the end of a message, when its numbers have at most 64 bits. -/
def position? (message : String) : Option Position :=
  match Position.split? message.toList with
  | some (_, position) => if position.isNarrow then some position else none
  | none => none

/-- What is taken off a message is a position at its end, or nothing. -/
theorem exists_append_withoutPosition (message : String) :
    ∃ ending, withoutPosition message ++ ending = message ∧
      (ending = "" ∨ ∃ position, Position.ofEnding? ending.toList = some position) := by
  unfold withoutPosition
  split
  · rename_i before position split
    obtain ⟨ending, whole, spelled⟩ := Position.append_eq_of_split? split
    refine ⟨String.ofList ending, ?_, .inr ⟨position, ?_⟩⟩
    · rw [← String.ofList_append, whole, String.ofList_toList]
    · rw [String.toList_ofList, spelled]
  · exact ⟨"", String.append_empty, .inl rfl⟩

example : withoutPosition "up at line 3 column 14" = "up" := by rfl
example : withoutPosition "up at line 3 column 14 " = "up at line 3 column 14 " := by
  rfl
example : withoutPosition "up at line 1 column 2 at line 3 column 4" = "up at line 1 column 2" := by
  rfl

end QueryAssembly.Text

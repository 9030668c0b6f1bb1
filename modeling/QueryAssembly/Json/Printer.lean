import QueryAssembly.Json.Basic

/-!
# Printing JSON

One printer serves both forms: the compact form has nothing between its parts, the pretty form has
every part of a container on a line of its own, two spaces deeper than the container, and a space
after each colon.  An empty container is written without a gap in either form.
-/

namespace QueryAssembly.Json

/-- The last digit pair of an escaped control character. -/
def hexPair (value : Nat) : List Char :=
  [Nat.digitChar (value / 16), Nat.digitChar (value % 16)]

/-- One character inside a string: quotation mark, backslash and controls are escaped. -/
def escapedCharacter (character : Char) : List Char :=
  if character = '"' then ['\\', '"']
  else if character = '\\' then ['\\', '\\']
  else if character = '\x08' then ['\\', 'b']
  else if character = '\t' then ['\\', 't']
  else if character = '\n' then ['\\', 'n']
  else if character = '\x0c' then ['\\', 'f']
  else if character = '\r' then ['\\', 'r']
  else if character.toNat < 0x20 then ['\\', 'u', '0', '0'] ++ hexPair character.toNat
  else [character]

/-- A string between quotation marks. -/
def stringCharacters (text : String) : List Char :=
  '"' :: text.toList.flatMap escapedCharacter ++ ['"']

/-- The two printed forms. -/
inductive Style where
  /-- Nothing between the parts. -/
  | compact
  /-- A line for every part. -/
  | pretty
deriving DecidableEq

namespace Style

/-- What stands before a part that is nested to the given depth. -/
def gap : Style → Nat → List Char
  | .compact, _ => []
  | .pretty, depth => '\n' :: List.replicate (2 * depth) ' '

/-- What stands between a key and its value. -/
def colon : Style → List Char
  | .compact => [':']
  | .pretty => [':', ' ']

end Style

/-- Parts after the first, each behind a comma. -/
def followingParts (gap : List Char) : List (List Char) → List Char
  | [] => []
  | part :: rest => ',' :: gap ++ part ++ followingParts gap rest

/-- The parts of a container at the given depth, between its brackets. -/
def enclosed (style : Style) (depth : Nat) (opening closing : Char) :
    List (List Char) → List Char
  | [] => [opening, closing]
  | part :: rest =>
    opening :: style.gap (depth + 1) ++ part ++ followingParts (style.gap (depth + 1)) rest ++
      style.gap depth ++ [closing]

mutual

/-- The characters of a value that stands at the given depth. -/
def print (style : Style) (depth : Nat) : Json → List Char
  | .null => ['n', 'u', 'l', 'l']
  | .bool true => ['t', 'r', 'u', 'e']
  | .bool false => ['f', 'a', 'l', 's', 'e']
  | .number value => value.characters
  | .string value => stringCharacters value
  | .array items => enclosed style depth '[' ']' (printItems style (depth + 1) items)
  | .object members =>
    enclosed style depth '\x7b' '\x7d' (printMembers style (depth + 1) members)

/-- The characters of each item. -/
def printItems (style : Style) (depth : Nat) : List Json → List (List Char)
  | [] => []
  | item :: rest => print style depth item :: printItems style depth rest

/-- The characters of each member. -/
def printMembers (style : Style) (depth : Nat) : List (String × Json) → List (List Char)
  | [] => []
  | (key, value) :: rest =>
    (stringCharacters key ++ style.colon ++ print style depth value) ::
      printMembers style depth rest

end

/-- The printed text of a value. -/
def text (style : Style) (value : Json) : String :=
  String.ofList (value.print style 0)

/-- The printed text without any gap. -/
def compact (value : Json) : String := value.text .compact

end QueryAssembly.Json

/-!
# Faults of a JSON text

The ways in which a text can fail to be JSON, named by what the reader met.  A fault is either a
text that ends too early or a text that goes wrong before its end.
-/

namespace QueryAssembly.Json

/-- What makes a text no JSON text. -/
inductive Fault where
  /-- The text ends where a value is due. -/
  | endInValue
  /-- The text ends inside a list. -/
  | endInList
  /-- The text ends inside an object. -/
  | endInObject
  /-- The text ends inside a string. -/
  | endInString
  /-- Something other than a value stands where a value is due. -/
  | expectedValue
  /-- One of the three words is misspelt. -/
  | expectedWord
  /-- Neither a comma nor the end of the list follows an item. -/
  | expectedItemEnd
  /-- Neither a comma nor the end of the object follows a member. -/
  | expectedMemberEnd
  /-- No colon follows a key. -/
  | expectedColon
  /-- Something other than a string stands where a key is due. -/
  | expectedKey
  /-- A comma stands before the end of a container. -/
  | trailingComma
  /-- Something follows the value. -/
  | trailingCharacters
  /-- A backslash begins no known escape. -/
  | invalidEscape
  /-- A control character stands unescaped in a string. -/
  | controlCharacter
  /-- Half of a surrogate pair stands alone. -/
  | loneSurrogate
  /-- No second escape follows the first half of a surrogate pair. -/
  | unfinishedSurrogate
  /-- The characters of a number make none. -/
  | invalidNumber
  /-- A number is beyond the largest magnitude. -/
  | numberOutOfRange
  /-- Containers are nested too deeply. -/
  | tooDeep
deriving DecidableEq

namespace Fault

/-- The wording of a fault. -/
def message : Fault → String
  | .endInValue => "EOF while parsing a value"
  | .endInList => "EOF while parsing a list"
  | .endInObject => "EOF while parsing an object"
  | .endInString => "EOF while parsing a string"
  | .expectedValue => "expected value"
  | .expectedWord => "expected ident"
  | .expectedItemEnd => "expected `,` or `]`"
  | .expectedMemberEnd => "expected `,` or `\x7d`"
  | .expectedColon => "expected `:`"
  | .expectedKey => "key must be a string"
  | .trailingComma => "trailing comma"
  | .trailingCharacters => "trailing characters"
  | .invalidEscape => "invalid escape"
  | .controlCharacter => "control character (\\u0000-\\u001F) found while parsing a string"
  | .loneSurrogate => "lone leading surrogate in hex escape"
  | .unfinishedSurrogate => "unexpected end of hex escape"
  | .invalidNumber => "invalid number"
  | .numberOutOfRange => "number out of range"
  | .tooDeep => "recursion limit exceeded"

end Fault

end QueryAssembly.Json

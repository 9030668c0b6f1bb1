import QueryAssembly.Text.Unprintable

/-!
# Quoted text

The form in which a text appears inside messages and event fields: between quotation marks, with
the quotation mark, the backslash and the line characters escaped by a letter, and every other
character that would not show escaped by its code point.  An apostrophe stays as it is.
-/

namespace QueryAssembly.Text

/-- One character inside quotation marks. -/
def quotedCharacter (character : Char) : List Char :=
  if character = '\x00' then ['\\', '0']
  else if character = '\t' then ['\\', 't']
  else if character = '\n' then ['\\', 'n']
  else if character = '\r' then ['\\', 'r']
  else if character = '"' then ['\\', '"']
  else if character = '\\' then ['\\', '\\']
  else if isUnprintable character then
    ['\\', 'u', '\x7b'] ++ Nat.toDigits 16 character.toNat ++ ['\x7d']
  else [character]

/-- A text between quotation marks. -/
def quoted (text : String) : String :=
  String.ofList ('"' :: text.toList.flatMap quotedCharacter ++ ['"'])

end QueryAssembly.Text

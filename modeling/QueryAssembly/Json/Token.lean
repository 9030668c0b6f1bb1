import QueryAssembly.Json.Body
import QueryAssembly.Json.Number

/-!
# Tokens of a JSON text

`tokens` cuts a text into brackets, separators, words, numbers and strings, dropping the white
space between them.  A number or string whose form is sound but whose value is not, such as a
number beyond the largest magnitude, is a token that carries its fault, because a value that is
skipped is checked for its form only.  A token that is broken in form ends the list: nothing after
it is ever read.
-/

namespace QueryAssembly.Json

/-- A token of a JSON text. -/
inductive Token where
  /-- The beginning of a list. -/
  | openList
  /-- The end of a list. -/
  | closeList
  /-- The beginning of an object. -/
  | openObject
  /-- The end of an object. -/
  | closeObject
  /-- A comma. -/
  | comma
  /-- A colon. -/
  | colon
  /-- The word for the null value. -/
  | null
  /-- The word for a truth value. -/
  | bool (value : Bool)
  /-- A number, sound in form. -/
  | number (value : Except Fault Number)
  /-- A string, sound in form. -/
  | string (value : Except Fault String)
  /-- A string broken in form: the fault when it is read, and when it is skipped. -/
  | brokenString (read skipped : Fault)
  /-- Anything else: the fault when a value is read here, and when one is skipped. -/
  | broken (read skipped : Fault)

namespace Token

/-- White space between tokens. -/
def isGap (character : Char) : Bool :=
  character = ' ' || character = '\t' || character = '\n' || character = '\r'

/-- The fault of a word of which the given characters are still due. -/
def wordFault : List Char → List Char → Option Fault
  | [], _ => none
  | _ :: _, [] => some .endInValue
  | due :: further, character :: rest =>
    if character = due then wordFault further rest else some .expectedWord

/-- A word, once its first character has been seen. -/
def word (token : Token) (due rest : List Char) : Token × Nat :=
  match wordFault due rest with
  | none => (token, due.length)
  | some fault => (.broken fault fault, 0)

/-- The fault when digits are due and none stand here. -/
def missingDigits : List Char → Fault
  | [] => .endInValue
  | _ :: _ => .invalidNumber

/-- The point and the digits after it, with their width. -/
def scanFraction : List Char → Except Fault (Option (List Char) × Nat)
  | '.' :: rest =>
    match rest.takeWhile Char.isDigit with
    | [] => .error (missingDigits rest)
    | digits => .ok (some digits, digits.length + 1)
  | _ => .ok (none, 0)

/-- The digits of a power of ten, with their width. -/
def scanPower (rest : List Char) : Except Fault (Nat × Nat) :=
  match rest.takeWhile Char.isDigit with
  | [] => .error (missingDigits rest)
  | digits => .ok (Nat.ofDigitChars 10 digits 0, digits.length)

/-- The power of ten, with its width. -/
def scanExponent : List Char → Except Fault (Option Int × Nat)
  | [] => .ok (none, 0)
  | mark :: rest =>
    if mark = 'e' ∨ mark = 'E' then
      match rest with
      | '-' :: digits => (scanPower digits).map fun power => (some (-power.1), power.2 + 2)
      | '+' :: digits => (scanPower digits).map fun power => (some power.1, power.2 + 2)
      | digits => (scanPower digits).map fun power => (some power.1, power.2 + 1)
    else .ok (none, 0)

/-- An unsigned numeral, with its width. -/
def scanNumeral (characters : List Char) : Except Fault (Numeral × Nat) :=
  match characters.takeWhile Char.isDigit with
  | [] => .error (missingDigits characters)
  | '0' :: _ :: _ => .error .invalidNumber
  | whole => do
    let (fraction, fractionWidth) ← scanFraction (characters.drop whole.length)
    let (exponent, exponentWidth) ←
      scanExponent (characters.drop (whole.length + fractionWidth))
    return (⟨whole, fraction, exponent⟩, whole.length + fractionWidth + exponentWidth)

/-- A number of the given sign, with the width of its numeral. -/
def number? (negative : Bool) (characters : List Char) : Token × Nat :=
  match scanNumeral characters with
  | .error fault => (.broken fault .invalidNumber, 0)
  | .ok (numeral, width) =>
    match Number.ofNumeral? negative numeral with
    | some value => (.number (.ok value), width)
    | none => (.number (.error .numberOutOfRange), width)

/-- A string, once its opening quotation mark has been seen. -/
def string? (rest : List Char) : Token × Nat :=
  let body := Body.scan rest
  match body.stop.fault with
  | none => (.string body.text, body.width)
  | some fault =>
    match body.text with
    | .ok _ => (.brokenString fault fault, 0)
    | .error read => (.brokenString read fault, 0)

/-- The token that begins with a character, and the number of further characters it takes. -/
def lex (first : Char) (rest : List Char) : Token × Nat :=
  match first with
  | '[' => (.openList, 0)
  | ']' => (.closeList, 0)
  | '\x7b' => (.openObject, 0)
  | '\x7d' => (.closeObject, 0)
  | ',' => (.comma, 0)
  | ':' => (.colon, 0)
  | 'n' => word .null ['u', 'l', 'l'] rest
  | 't' => word (.bool true) ['r', 'u', 'e'] rest
  | 'f' => word (.bool false) ['a', 'l', 's', 'e'] rest
  | '"' => string? rest
  | '-' => number? true rest
  | _ =>
    if first.isDigit then
      let (token, width) := number? false (first :: rest)
      (token, width - 1)
    else (.broken .expectedValue .expectedValue, 0)

/-- A token broken in form. -/
def isBroken : Token → Bool
  | .brokenString _ _ | .broken _ _ => true
  | _ => false

end Token

/-- The tokens of a text of which some leading characters are already taken. -/
def tokensAfter : Nat → List Char → List Token
  | _, [] => []
  | taken + 1, _ :: rest => tokensAfter taken rest
  | 0, character :: rest =>
    if Token.isGap character then tokensAfter 0 rest
    else
      let (token, width) := Token.lex character rest
      if token.isBroken then [token] else token :: tokensAfter width rest

/-- The tokens of a text. -/
def tokens (text : String) : List Token :=
  tokensAfter 0 text.toList

@[simp] theorem tokensAfter_append (taken rest : List Char) :
    tokensAfter taken.length (taken ++ rest) = tokensAfter 0 rest := by
  induction taken with
  | nil => rfl
  | cons character further ih => simpa [tokensAfter] using ih

end QueryAssembly.Json

import QueryAssembly.Json.Fault

/-!
# The inside of a string

A string is read in two steps.  `Body.scan` cuts it into pieces, plain characters and escaped
sixteen-bit units, up to the closing quotation mark or the place where it breaks.  `Body.text` then
joins the units, two surrogates making one character.  A value that is skipped needs the first step
only, which is why surrogates do not matter there.
-/

namespace QueryAssembly.Json

/-- One piece of a string. -/
inductive Piece where
  /-- A character, plain or escaped by a letter. -/
  | character (value : Char)
  /-- A unit escaped by four hexadecimal digits. -/
  | unit (value : Nat)
deriving DecidableEq

/-- How the pieces of a string come to an end. -/
inductive BodyEnd where
  /-- At the closing quotation mark. -/
  | closed
  /-- At the end of the text. -/
  | endOfText
  /-- At a control character. -/
  | control
  /-- At an unknown escape letter. -/
  | badEscape
  /-- At an escape whose four digits are not hexadecimal. -/
  | badUnit
deriving DecidableEq

namespace BodyEnd

/-- The fault of a string that does not end at a quotation mark. -/
def fault : BodyEnd → Option Fault
  | .closed => none
  | .endOfText => some .endInString
  | .control => some .controlCharacter
  | .badEscape => some .invalidEscape
  | .badUnit => some .invalidEscape

/-- The fault when the first half of a surrogate pair is the last piece. -/
def faultAfterSurrogate : BodyEnd → Fault
  | .endOfText => .endInString
  | .badUnit => .invalidEscape
  | _ => .unfinishedSurrogate

end BodyEnd

/-- The inside of a string, from the opening quotation mark on. -/
structure Body where
  /-- The pieces in order. -/
  pieces : List Piece
  /-- How they end. -/
  stop : BodyEnd
  /-- The number of characters up to and with the closing quotation mark. -/
  width : Nat
deriving DecidableEq

namespace Body

/-- A body that ends at once. -/
def ended (stop : BodyEnd) (width : Nat) : Body := ⟨[], stop, width⟩

/-- Put a piece of the given width before a body. -/
def cons (piece : Piece) (width : Nat) (body : Body) : Body :=
  ⟨piece :: body.pieces, body.stop, width + body.width⟩

/-- The character that an escape letter stands for. -/
def escapeLetter? : Char → Option Char
  | '"' => some '"'
  | '\\' => some '\\'
  | '/' => some '/'
  | 'b' => some '\x08'
  | 'f' => some '\x0c'
  | 'n' => some '\n'
  | 'r' => some '\r'
  | 't' => some '\t'
  | _ => none

/-- The value of a hexadecimal digit. -/
def hexDigit? (character : Char) : Option Nat :=
  if '0' ≤ character ∧ character ≤ '9' then some (character.toNat - 48)
  else if 'a' ≤ character ∧ character ≤ 'f' then some (character.toNat - 87)
  else if 'A' ≤ character ∧ character ≤ 'F' then some (character.toNat - 55)
  else none

/-- The unit that four hexadecimal digits denote. -/
def unit? (first second third fourth : Char) : Option Nat := do
  let first ← hexDigit? first
  let second ← hexDigit? second
  let third ← hexDigit? third
  let fourth ← hexDigit? fourth
  return ((first * 16 + second) * 16 + third) * 16 + fourth

/-- The number of bytes that characters take in UTF-8. -/
def byteCount : List Char → Nat
  | [] => 0
  | character :: rest => character.utf8Size + byteCount rest

/-- Cut the characters after an opening quotation mark into pieces. -/
def scan : List Char → Body
  | [] => ended .endOfText 0
  | '"' :: _ => ended .closed 1
  | '\\' :: 'u' :: first :: second :: third :: fourth :: rest =>
    match unit? first second third fourth with
    | some unit => (scan rest).cons (.unit unit) 6
    | none => ended .badUnit 0
  | '\\' :: 'u' :: rest => ended (if byteCount rest < 4 then .endOfText else .badUnit) 0
  | '\\' :: letter :: rest =>
    match escapeLetter? letter with
    | some character => (scan rest).cons (.character character) 2
    | none => ended .badEscape 0
  | '\\' :: [] => ended .endOfText 0
  | character :: rest =>
    if character.toNat < 0x20 then ended .control 0
    else (scan rest).cons (.character character) 1

/-- The first half of a surrogate pair. -/
def isLeadingSurrogate (unit : Nat) : Bool := 0xD800 ≤ unit && unit < 0xDC00

/-- The second half of a surrogate pair. -/
def isTrailingSurrogate (unit : Nat) : Bool := 0xDC00 ≤ unit && unit < 0xE000

/-- The character that a surrogate pair denotes. -/
def surrogatePair (leading trailing : Nat) : Char :=
  Char.ofNat (0x10000 + (leading - 0xD800) * 0x400 + (trailing - 0xDC00))

/-- The characters that pieces denote. -/
def join (stop : BodyEnd) : List Piece → Except Fault (List Char)
  | [] =>
    match stop.fault with
    | none => .ok []
    | some fault => .error fault
  | .character character :: rest => (join stop rest).map (character :: ·)
  | [.unit unit] =>
    if isLeadingSurrogate unit then .error stop.faultAfterSurrogate
    else if isTrailingSurrogate unit then .error .loneSurrogate
    else (join stop []).map (Char.ofNat unit :: ·)
  | .unit unit :: .character character :: rest =>
    if isLeadingSurrogate unit then .error .unfinishedSurrogate
    else if isTrailingSurrogate unit then .error .loneSurrogate
    else (join stop (.character character :: rest)).map (Char.ofNat unit :: ·)
  | .unit unit :: .unit next :: rest =>
    if isLeadingSurrogate unit then
      if isTrailingSurrogate next then (join stop rest).map (surrogatePair unit next :: ·)
      else .error .loneSurrogate
    else if isTrailingSurrogate unit then .error .loneSurrogate
    else (join stop (.unit next :: rest)).map (Char.ofNat unit :: ·)

/-- The text of a string, or its first fault. -/
def text (body : Body) : Except Fault String :=
  (join body.stop body.pieces).map String.ofList

end Body

end QueryAssembly.Json

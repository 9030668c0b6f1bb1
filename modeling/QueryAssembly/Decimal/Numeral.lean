/-!
# Decimal numerals

A numeral is what stands in a text for a non-negative number: digits, perhaps a point with more
digits, perhaps a power of ten.  `Numeral.characters` writes it down and `Numeral.decimal` says
which decimal fraction it denotes, so printing and reading meet in one type.
-/

namespace QueryAssembly

/-- The decimal fraction `significand * 10 ^ exponent`. -/
structure Decimal where
  /-- The digits, read as one natural number. -/
  significand : Nat
  /-- The power of ten that scales them. -/
  exponent : Int
deriving DecidableEq

/-- A decimal numeral as it is written. -/
structure Numeral where
  /-- The digits before the point. -/
  whole : List Char
  /-- The digits after the point, when there is one. -/
  fraction : Option (List Char)
  /-- The power of ten, when one is written. -/
  exponent : Option Int
deriving DecidableEq

namespace Numeral

/-- A numeral of digits alone, with neither point nor power of ten. -/
def isInteger (numeral : Numeral) : Bool :=
  numeral.fraction.isNone && numeral.exponent.isNone

/-- All digits of a numeral, without the point. -/
def digits (numeral : Numeral) : List Char :=
  numeral.whole ++ numeral.fraction.getD []

/-- A numeral that can stand in a text: digits alone, at least one on each side of a point, and no
zero before other digits of the whole part. -/
def isProper (numeral : Numeral) : Bool :=
  numeral.digits.all Char.isDigit &&
    (match numeral.whole with
      | [] => false
      | '0' :: _ :: _ => false
      | _ => true) &&
    (match numeral.fraction with
      | some [] => false
      | _ => true)

/-- The decimal fraction that a numeral denotes. -/
def decimal (numeral : Numeral) : Decimal where
  significand := Nat.ofDigitChars 10 numeral.digits 0
  exponent := numeral.exponent.getD 0 - ((numeral.fraction.getD []).length : Int)

/-- The point and the digits after it. -/
def fractionCharacters : Option (List Char) → List Char
  | none => []
  | some digits => '.' :: digits

/-- The power of ten, always with its sign. -/
def exponentCharacters : Option Int → List Char
  | none => []
  | some (.ofNat power) => 'e' :: '+' :: Nat.toDigits 10 power
  | some (.negSucc power) => 'e' :: '-' :: Nat.toDigits 10 (power + 1)

/-- The written form of a numeral. -/
def characters (numeral : Numeral) : List Char :=
  numeral.whole ++ fractionCharacters numeral.fraction ++ exponentCharacters numeral.exponent

/-- The power of ten, with a sign only where it is negative. -/
def exponentDescription : Option Int → List Char
  | none => []
  | some (.ofNat power) => 'e' :: Nat.toDigits 10 power
  | some (.negSucc power) => 'e' :: '-' :: Nat.toDigits 10 (power + 1)

/-- The form of a numeral in which an event shows it. -/
def description (numeral : Numeral) : List Char :=
  numeral.whole ++ fractionCharacters numeral.fraction ++ exponentDescription numeral.exponent

/-- The numeral of a natural number. -/
def ofNat (value : Nat) : Numeral :=
  ⟨Nat.toDigits 10 value, none, none⟩

@[simp] theorem characters_ofNat (value : Nat) :
    (ofNat value).characters = Nat.toDigits 10 value := by
  simp [characters, ofNat, fractionCharacters, exponentCharacters]

/-- The least power of ten at a leading digit for which a JSON text has the point written out. -/
def leastWritten : Int := -5

/-- The least power of ten at a leading digit for which an event has the point written out. -/
def leastDescribed : Int := -4

/-- Digits as one reads them aloud: the leading digit stands at the given power of ten, and the
point is written out for powers from the least one to `15`.  A value written out always has a digit
after its point. -/
def layout (least : Int) (digits : List Char) (leading : Int) : Numeral :=
  if least ≤ leading ∧ leading < 0 then
    ⟨['0'], some (List.replicate (leading.natAbs - 1) '0' ++ digits), none⟩
  else if 0 ≤ leading ∧ leading ≤ 15 then
    let places := leading.toNat + 1
    if digits.length ≤ places then
      ⟨digits ++ List.replicate (places - digits.length) '0', some ['0'], none⟩
    else
      ⟨digits.take places, some (digits.drop places), none⟩
  else
    match digits with
    | [] => ⟨['0'], none, some leading⟩
    | [digit] => ⟨[digit], none, some leading⟩
    | digit :: further => ⟨[digit], some further, some leading⟩

end Numeral

end QueryAssembly

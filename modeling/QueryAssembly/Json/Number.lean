import QueryAssembly.Binary64.Shortest

/-!
# Numbers of a JSON text

A number is an integer when it is written with digits alone and fits a word of 64 bits, signed or
not; every other number is a finite floating point number.  The two kinds are never equal, and
`-0` is the floating point zero with a sign.
-/

namespace QueryAssembly.Json

/-- A number of a JSON value. -/
inductive Number where
  /-- An integer within 64 bits, signed below zero and unsigned from zero on. -/
  | integer (value : Int) (lower : -0x8000000000000000 ≤ value)
      (upper : value < 0x10000000000000000)
  /-- A finite floating point number. -/
  | real (value : Binary64.Finite)

namespace Number

/-- Equality of numbers: an integer never equals a floating point number. -/
def equal : Number → Number → Bool
  | .integer left _ _, .integer right _ _ => left == right
  | .real left, .real right => left == right
  | _, _ => false

instance : BEq Number := ⟨equal⟩

/-- The integer number of an unsigned word. -/
def ofUInt64 (value : UInt64) : Number :=
  .integer value.toNat (by omega) (by have := value.toNat_lt; omega)

/-- The integer number of an unsigned word of 32 bits. -/
def ofUInt32 (value : UInt32) : Number :=
  .integer value.toNat (by omega) (by have := value.toNat_lt; omega)

/-- The integer with a given sign and absolute value, when 64 bits hold it; `-0` is no integer. -/
def integer? (negative : Bool) (absolute : Nat) : Option Number :=
  if negative then
    if bound : 0 < absolute ∧ absolute ≤ 0x8000000000000000 then
      some (.integer (-absolute) (by omega) (by omega))
    else none
  else
    if bound : absolute < 0x10000000000000000 then some (.integer absolute (by omega) (by omega))
    else none

/-- The number that a signed numeral denotes; none when it is beyond the largest magnitude. -/
def ofNumeral? (negative : Bool) (numeral : Numeral) : Option Number :=
  let integral :=
    if numeral.isInteger then integer? negative (Nat.ofDigitChars 10 numeral.whole 0) else none
  match integral with
  | some number => some number
  | none => numeral.decimal.nearest?.map fun magnitude => .real ⟨negative, magnitude⟩

/-- The floating point number nearest to a number. -/
def toBinary64 : Number → Binary64
  | .integer value _ _ => Binary64.ofInt value
  | .real value => .finite value

/-- The written form of a number. -/
def characters : Number → List Char
  | .integer value _ _ => (if value < 0 then ['-'] else []) ++ Nat.toDigits 10 value.natAbs
  | .real value => value.characters

end Number

end QueryAssembly.Json

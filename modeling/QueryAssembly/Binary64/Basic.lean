/-!
# Binary floating point numbers of 64 bits

A finite number is a sign and a magnitude, and a magnitude is the lower 63 bits of its encoding
read as one natural number.  Measured in units of `2 ^ -1074`, the least positive magnitude, every
magnitude is the natural number `significand * 2 ^ scale`, so rounding and printing are integer
arithmetic.
-/

namespace QueryAssembly

namespace Binary64

/-- The number of values that the fraction field can take. -/
abbrev fractionCount : Nat := 0x10000000000000

/-- The number of units of `2 ^ -1074` in one. -/
def unitsInOne : Nat := Nat.pow 2 1074

/-- The number of `10 ^ -1074` in one unit. -/
def decimalsInUnit : Nat := Nat.pow 5 1074

/-- A finite magnitude, by its encoding without the sign. -/
structure Magnitude where
  /-- Exponent field and fraction field, read as one number. -/
  code : Nat
  /-- The exponent field is not the one of infinity. -/
  code_lt : code < 0x7FF0000000000000
deriving DecidableEq

namespace Magnitude

/-- The power of two that scales the significand. -/
def scale (magnitude : Magnitude) : Nat :=
  magnitude.code / fractionCount - 1

/-- The significand, with the leading bit that the encoding leaves out. -/
def significand (magnitude : Magnitude) : Nat :=
  magnitude.code - magnitude.scale * fractionCount

/-- The value in units of `2 ^ -1074`. -/
def units (magnitude : Magnitude) : Nat :=
  magnitude.significand * Nat.pow 2 magnitude.scale

/-- The magnitude of zero. -/
def zero : Magnitude := ⟨0, by decide⟩

end Magnitude

/-- A finite number: zero comes with either sign. -/
structure Finite where
  /-- The sign bit. -/
  negative : Bool
  /-- The absolute value. -/
  magnitude : Magnitude

namespace Finite

/-- Numerical equality, under which both zeros are one number. -/
def equal (left right : Finite) : Bool :=
  left.magnitude.code == right.magnitude.code &&
    (left.negative == right.negative || left.magnitude.code == 0)

instance : BEq Finite := ⟨equal⟩

end Finite

end Binary64

/-- A floating point number of 64 bits; all encodings that are no number count as one. -/
inductive Binary64 where
  /-- A finite number. -/
  | finite (value : Binary64.Finite)
  /-- An infinity of either sign. -/
  | infinity (negative : Bool)
  /-- Not a number. -/
  | nan

namespace Binary64

/-- Numerical equality: both zeros are equal, and what is not a number differs from itself. -/
def equal : Binary64 → Binary64 → Bool
  | .finite left, .finite right => left.equal right
  | .infinity left, .infinity right => left == right
  | _, _ => false

instance : BEq Binary64 := ⟨equal⟩

end Binary64

end QueryAssembly

import QueryAssembly.Binary64.Rounding

/-!
# Shortest numerals

A floating point number is written with the fewest digits that read back to it, and among those
with the digits nearest to its value.  For each number of digits the two neighbours of the value
on that decimal grid are tried, the nearer one first; the test is reading itself.  The exact
expansion stands last, so that reading back needs no bound on the number of digits.
-/

namespace QueryAssembly.Binary64.Magnitude

/-- The quotient `value / 10 ^ power`, as a numerator over a denominator. -/
def quotientBy (magnitude : Magnitude) (power : Int) : Nat × Nat :=
  (magnitude.units * Nat.pow 10 (-power).toNat, unitsInOne * Nat.pow 10 power.toNat)

/-- The power of ten at the leading digit; `10 ^ -324` is below every positive magnitude. -/
def leadingPower (magnitude : Magnitude) : Int :=
  let quotient := magnitude.quotientBy (-324)
  ((Nat.toDigits 10 (quotient.1 / quotient.2)).length : Int) - 325

/-- The two neighbours of a value on the grid of multiples of `10 ^ power`, the nearer one
first. -/
def neighbours (magnitude : Magnitude) (power : Int) : List Nat :=
  let quotient := magnitude.quotientBy power
  let below := quotient.1 / quotient.2
  let nearer := roundHalfEven quotient.1 quotient.2
  [nearer, if nearer = below then below + 1 else below]

/-- Digits without the zeros at their end. -/
def withoutFinalZeros (digits : List Char) : List Char :=
  (digits.reverse.dropWhile (· == '0')).reverse

/-- The numeral of a multiple of a power of ten; the point is written out from the given power at
the leading digit on. -/
def numeralOf (least : Int) (multiple : Nat) (power : Int) : Numeral :=
  let digits := Nat.toDigits 10 multiple
  Numeral.layout least (withoutFinalZeros digits) (power + digits.length - 1)

/-- The numerals worth trying, those with fewer digits first. -/
def candidates (least : Int) (magnitude : Magnitude) : List Numeral :=
  (List.range 17).flatMap fun (further : Nat) =>
    let power := magnitude.leadingPower - (further : Int)
    (magnitude.neighbours power).map fun multiple => numeralOf least multiple power

/-- A numeral that reads back as the given magnitude, and as no integer. -/
def reads (magnitude : Magnitude) (numeral : Numeral) : Bool :=
  numeral.isProper && !numeral.isInteger && numeral.decimal.nearest? == some magnitude

/-- Every digit of the value. -/
def expansion (magnitude : Magnitude) : Numeral :=
  ⟨Nat.toDigits 10 (magnitude.units * decimalsInUnit), none, some (-1074)⟩

/-- The shortest numeral that reads back. -/
def shortest (least : Int) (magnitude : Magnitude) : Numeral :=
  if magnitude.code = 0 then ⟨['0'], some ['0'], none⟩
  else ((magnitude.candidates least).find? magnitude.reads).getD magnitude.expansion

end QueryAssembly.Binary64.Magnitude

namespace QueryAssembly.Binary64.Finite

/-- The minus sign of a negative number. -/
def sign (value : Finite) : List Char := if value.negative then ['-'] else []

/-- The written form of a finite number. -/
def characters (value : Finite) : List Char :=
  value.sign ++ (value.magnitude.shortest Numeral.leastWritten).characters

/-- The form of a finite number in which an event shows it. -/
def description (value : Finite) : List Char :=
  value.sign ++ (value.magnitude.shortest Numeral.leastDescribed).description

end QueryAssembly.Binary64.Finite

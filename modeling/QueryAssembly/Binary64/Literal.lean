import QueryAssembly.Binary64.Rounding

/-!
# Floating point literals

The free form in which a person gives a floating point number: an optional sign, then digits with
an optional point among, before or after them and an optional power of ten, or one of the words for
infinity and for no number in any case.  Nothing else may stand in the literal, no space either.
-/

namespace QueryAssembly

/-- The value of digits that make up a whole list; none when there is none or another character. -/
def natural? (characters : List Char) : Option Nat :=
  if characters.isEmpty then none
  else if characters.all Char.isDigit then some (Nat.ofDigitChars 10 characters 0)
  else none

namespace Numeral

/-- A power of ten that is the rest of a literal; absent at its end. -/
def literalExponent? : List Char → Option (Option Int)
  | [] => some none
  | mark :: rest =>
    if mark = 'e' ∨ mark = 'E' then
      match rest with
      | '-' :: digits => (natural? digits).map fun power => some (-(power : Int))
      | '+' :: digits => (natural? digits).map fun power => some (power : Int)
      | digits => (natural? digits).map fun power => some (power : Int)
    else none

/-- The numeral of a literal without sign: it has a digit before or after the point. -/
def ofLiteral? (characters : List Char) : Option Numeral :=
  let whole := characters.takeWhile Char.isDigit
  match characters.dropWhile Char.isDigit with
  | '.' :: rest =>
    let fraction := rest.takeWhile Char.isDigit
    if whole.isEmpty && fraction.isEmpty then none
    else (literalExponent? (rest.dropWhile Char.isDigit)).map fun exponent =>
      ⟨whole, some fraction, exponent⟩
  | rest =>
    if whole.isEmpty then none
    else (literalExponent? rest).map fun exponent => ⟨whole, none, exponent⟩

end Numeral

namespace Binary64

/-- The number of a literal after its sign. -/
def ofUnsignedLiteral? (negative : Bool) (characters : List Char) : Option Binary64 :=
  let word := String.ofList (characters.map Char.toLower)
  if word = "inf" ∨ word = "infinity" then some (.infinity negative)
  else if word = "nan" then some .nan
  else (Numeral.ofLiteral? characters).map fun numeral => ofDecimal negative numeral.decimal

/-- The number of a literal; none when the text is no literal. -/
def ofLiteral? (text : String) : Option Binary64 :=
  match text.toList with
  | '-' :: rest => ofUnsignedLiteral? true rest
  | '+' :: rest => ofUnsignedLiteral? false rest
  | rest => ofUnsignedLiteral? false rest

end Binary64

end QueryAssembly

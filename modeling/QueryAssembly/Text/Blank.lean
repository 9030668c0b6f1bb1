/-!
# Blank text

A name counts as missing when nothing but white space stands in it.  White space is the
`White_Space` property of the Unicode character database, so the zero width space, the byte order
mark and the information separators below the space are ordinary characters here.
-/

namespace QueryAssembly.Text

/-- The ranges of code points with the `White_Space` property, both ends included. -/
def whiteSpaceRanges : List (Nat × Nat) :=
  [(0x9, 0xD), (0x20, 0x20), (0x85, 0x85), (0xA0, 0xA0), (0x1680, 0x1680), (0x2000, 0x200A),
    (0x2028, 0x2029), (0x202F, 0x202F), (0x205F, 0x205F), (0x3000, 0x3000)]

/-- A code point lies in one of the given ranges. -/
def inRanges (ranges : List (Nat × Nat)) (point : Nat) : Bool :=
  ranges.any fun range => range.1 ≤ point && point ≤ range.2

theorem inRanges_iff {ranges : List (Nat × Nat)} {point : Nat} :
    inRanges ranges point = true ↔ ∃ range ∈ ranges, range.1 ≤ point ∧ point ≤ range.2 := by
  simp [inRanges]

/-- A white space character. -/
def isWhiteSpace (character : Char) : Bool :=
  inRanges whiteSpaceRanges character.toNat

/-- A text is blank when it is empty or holds white space alone. -/
def isBlank (text : String) : Bool :=
  text.toList.all isWhiteSpace

end QueryAssembly.Text

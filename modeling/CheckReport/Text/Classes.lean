import CheckReport.Text.Basic

/-!
# Classes of characters

A property of code points is kept as a list of ranges in ascending order, and looked up from the
lowest range on. Blanks and decimal digits are few enough to be told without ranges.
-/

namespace CheckReport.Text

/-- Pairs of first and last code point, ascending and apart. -/
abbrev Ranges := List (Nat × Nat)

namespace Ranges

def holds : Ranges → Nat → Bool
  | [], _ => false
  | (first, last) :: rest, c => if c < first then false else c ≤ last || holds rest c

end Ranges

/-!
### Blanks

Two sets of blanks: the white space property, which surrounds numbers, and the same set with the
four information separators, which is trimmed from captured output.
-/

/-- The white space property, all 25 characters of it. -/
def isWhiteSpace (c : Nat) : Bool :=
  (0x09 ≤ c && c ≤ 0x0D) || c == 0x20 || c == 0x85 || c == 0xA0 || c == 0x1680 ||
    (0x2000 ≤ c && c ≤ 0x200A) || c == 0x2028 || c == 0x2029 || c == 0x202F || c == 0x205F ||
    c == 0x3000

/-- White space and the information separators. -/
def isBlank (c : Nat) : Bool :=
  isWhiteSpace c || (0x1C ≤ c && c ≤ 0x1F)

/-- The blanks of ASCII white space. -/
def isAsciiSpace (c : Nat) : Bool :=
  (0x09 ≤ c && c ≤ 0x0D) || c == 0x20

/-! ### Decimal digits -/

/-- Every script with decimal digits has its ten in a row, from zero up. -/
def zeros : List Nat := [
  0x30, 0x660, 0x6F0, 0x7C0, 0x966, 0x9E6, 0xA66, 0xAE6, 0xB66, 0xBE6, 0xC66, 0xCE6, 0xD66, 0xDE6,
  0xE50, 0xED0, 0xF20, 0x1040, 0x1090, 0x17E0, 0x1810, 0x1946, 0x19D0, 0x1A80, 0x1A90, 0x1B50,
  0x1BB0, 0x1C40, 0x1C50, 0xA620, 0xA8D0, 0xA900, 0xA9D0, 0xA9F0, 0xAA50, 0xABF0, 0xFF10, 0x104A0,
  0x10D30, 0x11066, 0x110F0, 0x11136, 0x111D0, 0x112F0, 0x11450, 0x114D0, 0x11650, 0x116C0,
  0x11730, 0x118E0, 0x11950, 0x11C50, 0x11D50, 0x11DA0, 0x16A60, 0x16AC0, 0x16B50, 0x1D7CE,
  0x1D7D8, 0x1D7E2, 0x1D7EC, 0x1D7F6, 0x1E140, 0x1E2F0, 0x1E950, 0x1FBF0]

def decimalDigit? (c : Nat) : Option Nat :=
  (zeros.find? fun first => first ≤ c && c ≤ first + 9).map (c - ·)

end CheckReport.Text

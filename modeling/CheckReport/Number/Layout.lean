import CheckReport.Number.Shortest
import CheckReport.Text.Basic

/-!
# Numbers as text

`Layout.render` writes a number with its shortest digits, positionally or with an exponent.
`tenths` writes one place after the point, the exact value rounded with halves to the even digit.
-/

namespace CheckReport

/-- Where a number is written positionally, and how wide an exponent is. -/
structure Layout where
  /-- The least power of ten of the first digit that is written positionally. -/
  lowest : Int
  /-- The least power of ten of the first digit that is not. -/
  limit : Int
  /-- The least number of digits of an exponent. -/
  exponentDigits : Nat

namespace Layout

/-- A run of digits with zeros in front up to a width. -/
def padded (width : Nat) (digits : Text) : Text :=
  List.replicate (width - digits.length) 0x30 ++ digits

/-- Digits with a point after the first `point` of them, zeros filled in, and at least one digit on
either side. -/
def positional (digits : Text) (point : Int) : Text :=
  if point ≤ 0 then text "0." ++ List.replicate (-point).toNat 0x30 ++ digits
  else if digits.length ≤ point.toNat then
    digits ++ List.replicate (point.toNat - digits.length) 0x30 ++ text ".0"
  else digits.take point.toNat ++ text "." ++ digits.drop point.toNat

/-- Digits with a point after the first, if more follow, and an exponent. -/
def scientific (layout : Layout) (digits : Text) (exponent : Int) : Text :=
  digits.take 1 ++ (if digits.length ≤ 1 then [] else text "." ++ digits.drop 1) ++
    text "e" ++ (if exponent < 0 then text "-" else text "+") ++
    padded layout.exponentDigits (Text.ofNat exponent.natAbs)

def decimal (layout : Layout) (d : Decimal) : Text :=
  let digits := Text.ofNat d.digits
  let first : Int := digits.length + d.exponent - 1
  if layout.lowest ≤ first ∧ first < layout.limit then positional digits (first + 1)
  else layout.scientific digits first

def render (layout : Layout) : Binary64 → Text
  | .nan _ => text "nan"
  | .infinite negative => (if negative then text "-" else []) ++ text "inf"
  | .finite negative m e =>
    (if negative then text "-" else []) ++
      if m = 0 then text "0.0" else layout.decimal (Decimal.shortest m e)

end Layout

namespace Binary64

/-- Messages write numbers positionally from `0.0001` to below `10 ^ 16`, others with a signed
exponent of at least two digits. -/
def layout : Layout := ⟨-4, 16, 2⟩

def display (x : Binary64) : Text :=
  layout.render x

def tenths : Binary64 → Text
  | .nan _ => text "nan"
  | .infinite negative => (if negative then text "-" else []) ++ text "inf"
  | .finite negative m e =>
    let n := roundHalfEven (m * 10 * twoTo e.toNat) (twoTo (-e).toNat)
    (if negative then text "-" else []) ++ Text.ofNat (n / 10) ++ text "." ++ Text.ofNat (n % 10)

end Binary64

end CheckReport

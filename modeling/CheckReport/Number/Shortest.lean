import CheckReport.Number.Binary64

/-!
# Shortest decimals

The decimal with the fewest digits that reads back to a number; of several such, the one nearest
to it. For 1, 2, … digits the two neighbours of the number on that decimal grid are tried, in exact
arithmetic.
-/

namespace CheckReport

/-- `digits * 10 ^ exponent`. -/
structure Decimal where
  digits : Nat
  exponent : Int
  deriving DecidableEq, Repr

namespace Decimal

/-- Compares `a * 10 ^ i` with `b * 2 ^ j`. -/
def compareBinary (a : Nat) (i : Int) (b : Nat) (j : Int) : Ordering :=
  compare (a * tenTo i.toNat * twoTo (-j).toNat) (b * twoTo j.toNat * tenTo (-i).toNat)

/-- Whether a decimal lies among the reals that round to `m * 2 ^ e`: between the midpoints to the
neighbours, the midpoints included if `m` is even. Below a power of two the gap is half as wide. -/
def readsBack (m : Nat) (e : Int) (d : Decimal) : Bool :=
  let narrow := m == twoTo 52 && Binary64.leastExponent < e
  let low := compareBinary d.digits d.exponent (if narrow then 4 * m - 1 else 4 * m - 2) (e - 2)
  let high := compareBinary d.digits d.exponent (4 * m + 2) (e - 2)
  let closed := m % 2 == 0
  (low == .gt || (closed && low == .eq)) && (high == .lt || (closed && high == .eq))

/-- `⌊m * 2 ^ e / 10 ^ i⌋` -/
def floorOn (m : Nat) (e i : Int) : Nat :=
  m * twoTo e.toNat * tenTo (-i).toNat / (twoTo (-e).toNat * tenTo i.toNat)

/-- The least `k` with `m * 2 ^ e < 10 ^ k`, looked for upwards. -/
def scaleFrom (m : Nat) (e : Int) : Nat → Int → Int
  | 0, k => k
  | tries + 1, k => if compareBinary 1 k m e == .gt then k else scaleFrom m e tries (k + 1)

/-- The least `k` with `m * 2 ^ e < 10 ^ k`, for positive `m`. The start is the binary order of
magnitude times the decimal logarithm of 2. -/
def scale (m : Nat) (e : Int) : Int :=
  scaleFrom m e 5 (((m.log2 : Int) + e) * 30103 / 100000 - 1)

/-- The decimal on the grid `10 ^ i` that reads back: a neighbour of `m * 2 ^ e`, the nearer one if
both do, and the even one if both are as near. -/
def onGrid? (m : Nat) (e i : Int) : Option Decimal :=
  let below := floorOn m e i
  let low : Decimal := ⟨below, i⟩
  let high : Decimal := ⟨below + 1, i⟩
  match readsBack m e low, readsBack m e high with
  | true, true =>
    match compareBinary (2 * below + 1) i m (e + 1) with
    | .gt => some low
    | .lt => some high
    | .eq => some (if below % 2 = 0 then low else high)
  | true, false => some low
  | false, true => some high
  | false, false => none

/-- `m * 2 ^ e` as a decimal, digit for digit. -/
def expanded (m : Nat) (e : Int) : Decimal :=
  ⟨m * twoTo e.toNat * fiveTo (-e).toNat, -(-e).toNat⟩

/-- The same number without zeros at the end of the digits. -/
def stripped (d : Decimal) : Nat → Decimal
  | 0 => d
  | places + 1 =>
    if d.digits % 10 = 0 ∧ d.digits ≠ 0 then stripped ⟨d.digits / 10, d.exponent + 1⟩ places
    else d

/-- The decimal of fewest digits that reads back to `m * 2 ^ e`, for positive `m`. Seventeen digits
are enough for every number of the format. -/
def shortest (m : Nat) (e : Int) : Decimal :=
  let k := scale m e
  let found := (List.range 17).findSome? fun n => onGrid? m e (k - (n + 1 : Nat))
  stripped (found.getD (expanded m e)) 18

end Decimal

end CheckReport

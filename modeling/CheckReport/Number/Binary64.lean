/-!
# Binary floating point numbers

A finite number is its significand times a power of two, kept exactly, so that reading, comparing
and writing numbers is arithmetic on naturals. `ofRatio` rounds a quotient to the nearest number,
and to the even significand where two are equally near.
-/

namespace CheckReport

/-- A number of the 64-bit binary format, or none, which has a sign all the same. A finite one is
`significand * 2 ^ exponent`, where the significand has 53 bits or the exponent is the least,
`-1074`. -/
inductive Binary64 where
  | nan (negative : Bool)
  | infinite (negative : Bool)
  | finite (negative : Bool) (significand : Nat) (exponent : Int)
  deriving DecidableEq, Repr

def twoTo (n : Nat) : Nat :=
  Nat.pow 2 n

def fiveTo (n : Nat) : Nat :=
  Nat.pow 5 n

def tenTo (n : Nat) : Nat :=
  Nat.pow 10 n

namespace Binary64

/-- `num / den` rounded to an integer, a half to the even neighbour. -/
def roundHalfEven (num den : Nat) : Nat :=
  let q := num / den
  let twice := 2 * (num % den)
  if twice < den then q
  else if den < twice then q + 1
  else q + q % 2

/-- `num / den / 2 ^ exponent` rounded to an integer. -/
def scaled (num den : Nat) (exponent : Int) : Nat :=
  roundHalfEven (num * twoTo (-exponent).toNat) (den * twoTo exponent.toNat)

def leastExponent : Int := -1074

def greatestExponent : Int := 971

/-- The exponent at which `num / den` has a significand of 53 bits, or the least exponent. -/
def exponentOf (num den : Nat) : Int :=
  let k : Int := (num.log2 : Int) - (den.log2 : Int)
  let fits := den * twoTo k.toNat ≤ num * twoTo (-k).toNat
  max leastExponent (if fits then k - 52 else k - 53)

/-- The number nearest to `num / den` with the given sign. -/
def ofRatio (negative : Bool) (num den : Nat) : Binary64 :=
  if num = 0 then .finite negative 0 leastExponent
  else
    let e := exponentOf num den
    let m := scaled num den e
    -- rounding up can reach the next power of two
    let (m, e) := if m = twoTo 53 then (twoTo 52, e + 1) else (m, e)
    if greatestExponent < e then .infinite negative
    else .finite negative m e

/-- The number nearest to `digits * 10 ^ exponent`. Far outside the range of the format only the
order of magnitude is looked at. -/
def ofDecimal (negative : Bool) (digits : Nat) (exponent : Int) : Binary64 :=
  let magnitude : Int := (Nat.toDigits 10 digits).length + exponent
  if digits = 0 ∨ magnitude < -330 then .finite negative 0 leastExponent
  else if 310 < magnitude then .infinite negative
  else ofRatio negative (digits * tenTo exponent.toNat) (tenTo (-exponent).toNat)

def ofInt (n : Int) : Binary64 :=
  ofRatio (n < 0) n.natAbs 1

/-- The integer that a number is, if it is one. -/
def integer? : Binary64 → Option Int
  | .finite negative m e =>
    if m % twoTo (-e).toNat = 0 then
      let n : Int := (m * twoTo e.toNat / twoTo (-e).toNat : Nat)
      some (if negative then -n else n)
    else none
  | _ => none

/-- Greater than zero. Not a number is not. -/
def isPositive : Binary64 → Bool
  | .finite negative m _ => !negative && m != 0
  | .infinite negative => !negative
  | .nan _ => false

/-- Not more than some thousandths. Not a number is neither more nor less. -/
def isWithin (thousandths : Nat) : Binary64 → Bool
  | .finite negative m e =>
    negative || m * 1000 * twoTo e.toNat ≤ thousandths * twoTo (-e).toNat
  | .infinite negative => negative
  | .nan _ => false

/-- The 64 bits of a number, from the sign down. -/
def toBits : Binary64 → Nat
  | .nan negative => (if negative then twoTo 63 else 0) + 0x7FF8000000000000
  | .infinite negative => (if negative then twoTo 63 else 0) + 0x7FF0000000000000
  | .finite negative m e =>
    (if negative then twoTo 63 else 0) +
      if m < twoTo 52 then m else (e + 1075).toNat * twoTo 52 + (m - twoTo 52)

end Binary64

end CheckReport

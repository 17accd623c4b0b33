import CheckReport.Number.Binary64
import CheckReport.Text.Classes

/-!
# Integers from loosely written numerals

A numeral in plain form is a run of digits without a zero in front, perhaps after a minus sign. A
loose one is brought to this form first: white space, a plus sign, leading zeros, a point with
nothing but zeros after it and single underscores between other characters are dropped. Leading
zeros may come before a minus sign too. Only a text that starts in plain form is found too large,
any other with as many digits is not read at all.
-/

namespace CheckReport

/-- Why a value is not an integer. -/
inductive IntegerFault where
  | unparsable
  /-- More digits, or a greater magnitude, than is taken. -/
  | tooLarge
  | notFinite
  | fractional
  deriving DecidableEq, Repr

namespace Integer

def zero : Nat := 0x30

def underscore : Nat := 0x5F

def point : Nat := 0x2E

def minus : Nat := 0x2D

def plus : Nat := 0x2B

/-! ### Plain form -/

/-- The digits that a text in plain form starts with; none if the first is a zero. -/
def plainDigits (s : Text) : Text :=
  if s.head? = some zero then [] else s.takeWhile Text.isDigit

/-- The natural number that plain digits spell. -/
def natural? (s : Text) : Option Nat :=
  if s = [zero] then some 0
  else if s ≠ [] ∧ plainDigits s = s ∧ s.length ≤ Text.digitLimit then some (Text.digitsValue s)
  else none

def plain? : Text → Option Int
  | 0x2D :: s => (natural? s).map fun (n : Nat) => -(n : Int)
  | s => (natural? s).map Int.ofNat

/-- Whether a text starts in plain form with more digits than are taken. -/
def startsTooLarge : Text → Bool
  | 0x2D :: s => Text.digitLimit < (plainDigits s).length
  | s => Text.digitLimit < (plainDigits s).length

/-! ### Loose form -/

/-- A numeral without the zeros in front of its first digit, and the underscores among them. A zero
stays if there is no other digit before a point. -/
def withoutZeros? (s : Text) : Option Text :=
  if s.head? = some zero then
    let leading := s.takeWhile fun c => c = zero || c = underscore
    match s.dropWhile fun c => c = zero || c = underscore with
    | [] => some leading.getLast?.toList
    | c :: rest =>
      if c = point then some (leading.getLast?.toList ++ c :: rest)
      else if Text.isDigit c ∨ c = minus then some (c :: rest)
      else none
  else if s.head?.any Text.isDigit then some s
  else none

/-- A numeral without its sign and leading zeros, and with the minus sign again, if there was one.
Only one sign may come first. -/
def signed? : Text → Option Text
  | 0x2B :: s => if s.head? = some minus then none else withoutZeros? s
  | 0x2D :: s => (withoutZeros? s).map (minus :: ·)
  | s => withoutZeros? s

/-- A numeral without a point that nothing but zeros follow. -/
def withoutNullFraction (s : Text) : Text :=
  match s.dropWhile (· ≠ point) with
  | _ :: zeros =>
    if zeros ≠ [] ∧ zeros.all (· = zero) then s.takeWhile (· ≠ point) else s
  | [] => s

/-- A numeral without underscores, unless one is first or last or two stand together. -/
def withoutUnderscores (s : Text) : Text :=
  let groups := Text.split underscore s
  if groups.all (· ≠ []) then groups.flatten else s

def plainForm? (s : Text) : Option Text :=
  (signed? (Text.trim Text.isWhiteSpace s)).map fun s =>
    withoutUnderscores (withoutNullFraction s)

def ofText (s : Text) : Except IntegerFault Int :=
  if startsTooLarge s then .error .tooLarge
  else
    match (plainForm? s).bind plain? with
    | some n => .ok n
    | none => .error .unparsable

/-- The integer that a number is. Numbers from `2 ^ 63` on are too large in either direction. -/
def ofBinary64 (x : Binary64) : Except IntegerFault Int :=
  match x with
  | .finite _ _ _ =>
    match x.integer? with
    | none => .error .fractional
    | some n => if twoTo 63 ≤ n.natAbs then .error .tooLarge else .ok n
  | _ => .error .notFinite

end Integer

end CheckReport

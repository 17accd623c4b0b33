import CheckReport.Number.Binary64
import CheckReport.Text.Printable

/-!
# Reading numbers

The grammar of a number is a sign, then a word for infinity or for not a number in any case, or
digits with a point among or beside them and an optional exponent. Two readers share it: `ofText?`
is strict about underscores and takes the digits of every script, `ofLooseText?` drops underscores
and knows ASCII digits alone.
-/

namespace CheckReport.Binary64

/-- A text split after its sign, which says whether it is negative. -/
def splitSign : Text → Bool × Text
  | 0x2B :: s => (false, s)
  | 0x2D :: s => (true, s)
  | s => (false, s)

/-- The exponent after the digits of a number: nothing, or `e` and a signed run of digits. -/
def exponent? : Text → Option Int
  | [] => some 0
  | c :: s =>
    if c = 0x65 ∨ c = 0x45 then
      let (negative, digits) := splitSign s
      if digits ≠ [] ∧ digits.all Text.isDigit then
        let n : Int := Text.digitsValue digits
        some (if negative then -n else n)
      else none
    else none

/-- The number that unsigned text spells. -/
def unsigned? (negative : Bool) (s : Text) : Option Binary64 :=
  let word := Text.lower s
  if word = text "inf" ∨ word = text "infinity" then some (.infinite negative)
  else if word = text "nan" then some (.nan negative)
  else
    let whole := s.takeWhile Text.isDigit
    let rest := s.dropWhile Text.isDigit
    let (fraction, rest) :=
      match rest with
      | 0x2E :: t => (t.takeWhile Text.isDigit, t.dropWhile Text.isDigit)
      | rest => ([], rest)
    if whole = [] ∧ fraction = [] then none
    else (exponent? rest).map fun e =>
      ofDecimal negative (Text.digitsValue (whole ++ fraction)) (e - fraction.length)

/-- The number that a signed text spells. -/
def signed? (s : Text) : Option Binary64 :=
  let (negative, s) := splitSign s
  unsigned? negative s

/-- A text without its underscores, if each stands between two digits. -/
def withoutUnderscores? : Option Nat → Text → Option Text
  | _, [] => some []
  | previous, c :: s =>
    if c = 0x5F then
      if previous.any Text.isDigit && s.head?.any Text.isDigit then withoutUnderscores? (some c) s
      else none
    else (withoutUnderscores? (some c) s).map (c :: ·)

/-- The text with digits of other scripts as ASCII digits and blanks as spaces. A text of ASCII
alone stays as it is. -/
def normalized? (s : Text) : Option Text :=
  if s.all (· < 0x80) then some s
  else s.mapM fun c =>
    if c < 0x7F then some c
    else if Text.isBlank c then some Text.space
    else (Text.decimalDigit? c).map (0x30 + ·)

/-- The number that a text spells, between blanks. -/
def ofText? (s : Text) : Option Binary64 := do
  let s ← normalized? s
  let s ← withoutUnderscores? none (Text.trim Text.isAsciiSpace s)
  signed? s

structure NoNumber where
  source : Text
  deriving DecidableEq, Repr

def NoNumber.message (fault : NoNumber) : Text :=
  text "could not convert string to float: " ++ Text.Quoted.quote fault.source

/-- The number that a text spells, or that it spells none. -/
def ofText (s : Text) : Except NoNumber Binary64 :=
  match ofText? s with
  | some x => .ok x
  | none => .error ⟨s⟩

def hasDoubleUnderscore : Text → Bool
  | a :: b :: s => (a == 0x5F && b == 0x5F) || hasDoubleUnderscore (b :: s)
  | _ => false

/-- The number that a text spells, either between white space or with underscores in it. These are
dropped unless one is first or last or two stand together. -/
def ofLooseText? (s : Text) : Option Binary64 :=
  match signed? (Text.trim Text.isWhiteSpace s) with
  | some x => some x
  | none =>
    if s.head? = some 0x5F ∨ s.getLast? = some 0x5F ∨ hasDoubleUnderscore s then none
    else signed? (s.filter (· ≠ 0x5F))

end CheckReport.Binary64

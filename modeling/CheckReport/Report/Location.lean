import CheckReport.Diagnosis.Basic

/-!
# Locations

Where a diagnostic is, in lines and columns that count from 1. The end column is not counted up,
since it lies after the last character. Numbers have a greatest length.
-/

namespace CheckReport.Report

/-- A number of more digits than are written. -/
structure UnwritableNumber where
  deriving DecidableEq, Repr

def UnwritableNumber.message (_ : UnwritableNumber) : Text :=
  text "Exceeds the limit (" ++ Text.ofNat Text.digitLimit ++
    text " digits) for integer string conversion; use sys.set_int_max_str_digits() " ++
    text "to increase the limit"

def numeral (n : Nat) : Except UnwritableNumber Text :=
  let digits := Text.ofNat n
  if Text.digitLimit < digits.length then .error {} else .ok digits

/-- Where a range starts, counted from 1. -/
def startText (range : Range) : Except UnwritableNumber Text := do
  let line ← numeral (range.start.line + 1)
  let column ← numeral (range.start.character + 1)
  return line ++ text ":" ++ column

/-- Where a range ends: the line, if it is another one, and the column. -/
def stopText (range : Range) : Except UnwritableNumber Text :=
  match range.stop.line with
  | none => numeral range.stop.character
  | some line =>
    if line = range.start.line then numeral range.stop.character
    else do
      let line ← numeral (line + 1)
      let column ← numeral range.stop.character
      return line ++ text ":" ++ column

def locationText (d : Diagnostic) : Except UnwritableNumber Text := do
  let start ← startText d.range
  let stop ← stopText d.range
  return start ++ text "-" ++ stop

/-- What the location of a diagnostic in a file links to. -/
def locationTarget (uri : Text) (d : Diagnostic) : Except UnwritableNumber Text := do
  let start ← startText d.range
  return uri ++ text "#L" ++ start

/-!
### Places

What the text of a location says, and how it is read: a line and a column, a hyphen, and where the
range ends, with a line only if it is another one. Ranges that differ in nothing of this look the same.
-/

structure Place where
  line : Nat
  column : Nat
  stopLine : Option Nat
  stopColumn : Nat
  deriving DecidableEq, Repr

namespace Place

/-- The place of a diagnostic: lines and the start column counted from 1, and the end line if it is
given and another one. -/
def ofDiagnostic (d : Diagnostic) : Place where
  line := d.range.start.line + 1
  column := d.range.start.character + 1
  stopLine := (d.range.stop.line.filter (· ≠ d.range.start.line)).map (· + 1)
  stopColumn := d.range.stop.character

def numbers (p : Place) : List Nat :=
  [p.line, p.column] ++ p.stopLine.toList ++ [p.stopColumn]

def Writable (p : Place) : Prop :=
  ∀ n ∈ p.numbers, n < Text.numberLimit

/-! ### Text -/

def startText (p : Place) : Text :=
  Text.ofNat p.line ++ text ":" ++ Text.ofNat p.column

def stopText (p : Place) : Text :=
  match p.stopLine with
  | none => Text.ofNat p.stopColumn
  | some line => Text.ofNat line ++ text ":" ++ Text.ofNat p.stopColumn

def toText (p : Place) : Text :=
  p.startText ++ text "-" ++ p.stopText

def hyphen : Nat := 0x2D

def colon : Nat := 0x3A

def read? (s : Text) : Option Place :=
  match Text.split hyphen s with
  | [start, stop] =>
    match (Text.split colon start).mapM Text.number?, (Text.split colon stop).mapM Text.number? with
    | some [line, column], some [stopColumn] => some ⟨line, column, none, stopColumn⟩
    | some [line, column], some [stopLine, stopColumn] =>
      some ⟨line, column, some stopLine, stopColumn⟩
    | _, _ => none
  | _ => none

end Place

/-! ### Ranges that look the same -/

/-- Two ranges start at one place and end at one column, and neither ends on another line, as far as is
known, or both end on the same other line. -/
structure SameSpan (a b : Range) : Prop where
  start : a.start = b.start
  stopColumn : a.stop.character = b.stop.character
  stopLine : (a.isMultiline = false ∧ b.isMultiline = false) ∨
    (a.isMultiline = true ∧ b.isMultiline = true ∧ a.stop.line = b.stop.line)

/-- A text is the location of a diagnostic, and is read as its place. -/
structure Locates (d : Diagnostic) (s : Text) : Prop where
  shown : locationText d = .ok s
  read : Place.read? s = some (Place.ofDiagnostic d)

end CheckReport.Report

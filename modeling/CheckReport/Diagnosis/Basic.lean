import CheckReport.Severity

/-!
# Diagnoses

What the language server found in a workspace: for each file, by its URI, the diagnostics of the
file. Lines and characters count from 0.
-/

namespace CheckReport

structure Position where
  line : Nat
  character : Nat
  deriving DecidableEq, Repr

/-- Where a range ends. The line is usually left out. -/
structure EndPosition where
  line : Option Nat
  character : Nat
  deriving DecidableEq, Repr

structure Range where
  start : Position
  stop : EndPosition
  deriving DecidableEq, Repr

def Range.numbers (range : Range) : List Nat :=
  [range.start.line, range.start.character, range.stop.character] ++ range.stop.line.toList

/-- Whether a range is known to end on another line than it starts on. -/
def Range.isMultiline (range : Range) : Bool :=
  range.stop.line.any (· ≠ range.start.line)

structure Diagnostic where
  code : Text
  message : Text
  range : Range
  severity : Severity
  deriving DecidableEq, Repr

/-- The diagnostics of each file, in document order. -/
abbrev Diagnosis := List (Text × List Diagnostic)

namespace Diagnosis

def affected (diagnosis : Diagnosis) : Diagnosis :=
  diagnosis.filter fun file => !file.2.isEmpty

def diagnostics (diagnosis : Diagnosis) : List Diagnostic :=
  diagnosis.flatMap (·.2)

/-!
### Clean files

A diagnosis can list files without diagnostics. Two diagnoses may list different ones, anywhere among
the others, and still say the same of the files with diagnostics.
-/

/-- Two diagnoses that list the same files but for clean ones. -/
inductive SameButClean : Diagnosis → Diagnosis → Prop where
  | nil : SameButClean [] []
  | both {file : Text × List Diagnostic} {a b : Diagnosis} (rest : SameButClean a b) :
      SameButClean (file :: a) (file :: b)
  | first {uri : Text} {a b : Diagnosis} (rest : SameButClean a b) :
      SameButClean ((uri, []) :: a) b
  | second {uri : Text} {a b : Diagnosis} (rest : SameButClean a b) :
      SameButClean a ((uri, []) :: b)

end Diagnosis

end CheckReport

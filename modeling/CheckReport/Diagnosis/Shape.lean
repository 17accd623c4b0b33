import CheckReport.Diagnosis.Basic
import CheckReport.Diagnosis.Violation
import CheckReport.Validation

/-!
# The shape of a diagnosis

A diagnosis is an object of lists of diagnostics. A reading gives what a value stands for, or every
violation in it: members in the order of the record, items in document order. Members that a record
does not have are passed over.
-/

namespace CheckReport

open Json (Value)
open Validation (both)

/-- What a value stands for, or all that is wrong with it. -/
abbrev Checked (α : Type) := Validation Violation α

namespace Checked

def fail {α : Type} (defect : Defect) (v : Value) : Checked α :=
  .error [⟨[], defect, v⟩]

def inside {α : Type} (step : Step) : Checked α → Checked α
  | .ok a => .ok a
  | .error es => .error (es.map fun v => { v with path := step :: v.path })

def required {α : Type} (name : Text) (read : Value → Checked α) (members : List (Text × Value)) :
    Checked α :=
  inside (.member name)
    (match Value.member? name members with
    | none => fail .missing (.obj members)
    | some v => read v)

def optional {α : Type} (name : Text) (read : Value → Checked (Option α))
    (members : List (Text × Value)) : Checked (Option α) :=
  match Value.member? name members with
  | none => .ok none
  | some v => inside (.member name) (read v)

/-- The items of a list, counted from `index`. -/
def items {α : Type} (read : Value → Checked α) (index : Nat) : List Value → Checked (List α)
  | [] => .ok []
  | v :: vs =>
    (both (inside (.item index) (read v)) (items read (index + 1) vs)).map fun (a, as) => a :: as

def entries {α : Type} (read : Value → Checked α) :
    List (Text × Value) → Checked (List (Text × α))
  | [] => .ok []
  | (name, v) :: ms =>
    (both (inside (.member name) (read v)) (entries read ms)).map fun (a, as) => (name, a) :: as

end Checked

namespace Diagnosis

open Checked
open Validation (both)

def readText : Value → Checked Text
  | .str s => .ok s
  | v => fail .notText v

/-- The integer that a value stands for: booleans count as 0 and 1, and texts and floating point
numbers as the integers they spell. -/
def integer : Value → Except Defect Int
  | .bool b => .ok (if b then 1 else 0)
  | .int n => .ok n
  | .float x => (Integer.ofBinary64 x).mapError .badInteger
  | .str s =>
    if s.any Text.isSurrogate then .error .unpairedSurrogate
    else (Integer.ofText s).mapError .badInteger
  | _ => .error .notInteger

theorem integer_int (n : Int) : integer (.int n) = .ok n :=
  rfl

theorem integer_bool (b : Bool) : integer (.bool b) = .ok (if b then 1 else 0) :=
  rfl

def readOffset (v : Value) : Checked Nat :=
  match integer v with
  | .ok (.ofNat n) => .ok n
  | .ok (.negSucc _) => fail .negative v
  | .error defect => fail defect v

def readLine : Value → Checked (Option Nat)
  | .null => .ok none
  | v => (readOffset v).map some

def readPosition : Value → Checked Position
  | .obj members =>
    (both (required (text "line") readOffset members)
      (required (text "character") readOffset members)).map
      fun (line, character) => ⟨line, character⟩
  | v => fail (.notRecord .position) v

def readEndPosition : Value → Checked EndPosition
  | .obj members =>
    (both (optional (text "line") readLine members)
      (required (text "character") readOffset members)).map
      fun (line, character) => ⟨line, character⟩
  | v => fail (.notRecord .endPosition) v

def readRange : Value → Checked Range
  | .obj members =>
    (both (required (text "start") readPosition members)
      (required (text "end") readEndPosition members)).map
      fun (start, stop) => ⟨start, stop⟩
  | v => fail (.notRecord .range) v

def readSeverity (v : Value) : Checked Severity :=
  match Severity.ofValue v with
  | .ok severity => .ok severity
  | .error fault => fail (.unknownSeverity fault) v

def readDiagnostic : Value → Checked Diagnostic
  | .obj members =>
    (both (required (text "code") readText members)
      (both (required (text "message") readText members)
        (both (required (text "range") readRange members)
          (required (text "severity") readSeverity members)))).map
      fun (code, message, range, severity) => ⟨code, message, range, severity⟩
  | v => fail (.notRecord .diagnostic) v

def readFile : Value → Checked (List Diagnostic)
  | .arr vs => items readDiagnostic 0 vs
  | v => fail .notList v

/-- The diagnosis that a value stands for. -/
def ofValue : Value → Except Malformed Diagnosis
  | .obj members => (entries readFile members).mapError .violations
  | v => .error (.notObject v)

end Diagnosis

end CheckReport

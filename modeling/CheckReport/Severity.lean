import CheckReport.Json.Value
import CheckReport.Terminal.Style

/-!
# Severities

The four severities of diagnostics, from the most severe on. A document gives a severity by its
rank, a setting by its label.
-/

namespace CheckReport

inductive Severity where
  | error
  | warning
  | information
  | hint
  deriving DecidableEq, Repr

namespace Severity

def all : List Severity :=
  [.error, .warning, .information, .hint]

def rank : Severity → Nat
  | .error => 1
  | .warning => 2
  | .information => 3
  | .hint => 4

def label : Severity → Text
  | .error => text "Error"
  | .warning => text "Warning"
  | .information => text "Information"
  | .hint => text "Hint"

def style : Severity → Terminal.Style
  | .error => { color := some .red }
  | .warning => { color := some .yellow }
  | .information => { bold := true, color := some .white }
  | .hint => { dim := true, color := some .white }

def ofRank? (n : Int) : Option Severity :=
  all.find? fun severity => (severity.rank : Int) = n

def ofLabel? (s : Text) : Option Severity :=
  all.find? fun severity => severity.label = s

def ofLabelAnyCase? (s : Text) : Option Severity :=
  all.find? fun severity => Text.lower severity.label = Text.lower s

theorem mem_all (severity : Severity) : severity ∈ all := by
  cases severity <;> simp [all]

theorem ofRank?_rank (severity : Severity) : ofRank? severity.rank = some severity := by
  cases severity <;> rfl

theorem rank_inj {a b : Severity} : a.rank = b.rank ↔ a = b := by
  cases a <;> cases b <;> decide

end Severity

structure UnknownSeverity where
  value : Json.Value

def UnknownSeverity.message (fault : UnknownSeverity) : Text :=
  text "unknown severity " ++ fault.value.display

/-- The severity that a value gives by its rank. Booleans and floating point numbers give none. -/
def Severity.ofValue (v : Json.Value) : Except UnknownSeverity Severity :=
  match v with
  | .int n => match ofRank? n with
    | some severity => .ok severity
    | none => .error ⟨v⟩
  | _ => .error ⟨v⟩

structure UnknownLevel where
  name : Text
  deriving DecidableEq, Repr

def UnknownLevel.message (fault : UnknownLevel) : Text :=
  Text.Quoted.quote fault.name ++ text " is not a valid CheckLevel"

/-- The least severity to report, by its label. -/
def Severity.ofLevelName (name : Text) : Except UnknownLevel Severity :=
  match ofLabel? name with
  | some severity => .ok severity
  | none => .error ⟨name⟩

end CheckReport

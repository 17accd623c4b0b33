import CheckReport.Diagnosis.Basic
import CheckReport.Terminal.Fragment

/-!
# Tallies

How many diagnostics there are of each severity, and the line that says so: severities by rank,
each in its style, and only those with a positive count.
-/

namespace CheckReport.Report

open Terminal (Line Fragment)

/-- Counts of severities. A severity without count has none. -/
abbrev Tally := List (Severity × Int)

namespace Tally

def count (tally : Tally) (severity : Severity) : Int :=
  ((tally.find? (·.1 = severity)).map (·.2)).getD 0

/-- A tally with `n` more of a severity. The severities stay in the order of their ranks. -/
def add (severity : Severity) (n : Int) : Tally → Tally
  | [] => [(severity, n)]
  | (other, m) :: rest =>
    if other = severity then (other, m + n) :: rest
    else if other.rank < severity.rank then (other, m) :: add severity n rest
    else (severity, n) :: (other, m) :: rest

def plus (tally more : Tally) : Tally :=
  more.foldl (fun tally entry => tally.add entry.1 entry.2) tally

/-- The counts of some diagnostics, which are counted one after the other. -/
def ofDiagnostics (ds : List Diagnostic) : Tally :=
  ds.foldl (fun tally d => tally.add d.severity 1) []

def total (tally : Tally) : Int :=
  tally.foldr (fun entry n => entry.2 + n) 0

/-- A count and the name of what is counted. -/
def counted (alwaysPlural : Bool) (n : Int) (severity : Severity) : Text :=
  Text.ofInt n ++ text " " ++ severity.label ++
    (if alwaysPlural ∨ n ≠ 1 then text "s" else [])

/-- Fragments with a text between neighbours. -/
def separated (separator : Text) : List Fragment → Line
  | [] => []
  | [f] => [f]
  | f :: g :: rest => f :: Fragment.plain separator :: separated separator (g :: rest)

/-- The severities with a positive count, by rank. -/
def positive (tally : Tally) : List Severity :=
  Severity.all.filter fun severity => 0 < tally.count severity

def line (alwaysPlural : Bool) (tally : Tally) : Line :=
  separated (text " / ") (tally.positive.map fun severity =>
    { text := counted alwaysPlural (tally.count severity) severity, style := severity.style })

end Tally

/-!
### Summary

The numbers of a report and the line that ends it.
-/

/-- How many diagnostics there are, in how many files, of which severities. -/
structure Stats where
  total : Int := 0
  files : Int := 0
  perSeverity : Tally := []
  deriving DecidableEq, Repr

namespace Stats

/-- The number of diagnostics of the severity that a value gives. -/
def get (stats : Stats) (level : Json.Value) : Except UnknownSeverity Int :=
  (Severity.ofValue level).map stats.perSeverity.count

def summary (stats : Stats) : Line :=
  if stats.total = 0 then [.plain (text "Diagnosis completed, no problems found")]
  else
    { text := text "Total " ++ Text.ofInt stats.total,
      style := { bold := true, color := some .white } } ::
    .plain (text ": ") :: (stats.perSeverity.line true ++
      [.plain (text " in " ++ Text.ofInt stats.files ++ text " files")])

end Stats

end CheckReport.Report

import CheckReport.Report.Basic

/-!
# Breakdowns

Which severities occur among some diagnostics and how often, each counted on its own, and how the
text of such counts is read. Counts that are given and not counted can be too long to be written.
-/

namespace CheckReport.Report

open Terminal (Line)

/-- Severities and how many diagnostics there are of them. -/
abbrev Breakdown := List (Severity × Nat)

namespace Breakdown

def occurrences (ds : List Diagnostic) (severity : Severity) : Nat :=
  ds.countP (·.severity = severity)

/-- The severities that occur, by rank, with their numbers. -/
def ofDiagnostics (ds : List Diagnostic) : Breakdown :=
  (Severity.all.filter fun severity => occurrences ds severity ≠ 0).map fun severity =>
    (severity, occurrences ds severity)

/-- The severities of a tally with a positive count, by rank, with their counts. -/
def ofTally (tally : Tally) : Breakdown :=
  tally.positive.map fun severity => (severity, (tally.count severity).toNat)

/-- A breakdown lists the positive counts of a tally: each severity once, by rank. -/
structure Lists (breakdown : Breakdown) (tally : Tally) : Prop where
  byRank : breakdown.Pairwise fun a b => a.1.rank < b.1.rank
  mem_iff : ∀ severity n, (severity, n) ∈ breakdown ↔ 0 < n ∧ tally.count severity = n

def number (breakdown : Breakdown) (severity : Severity) : Nat :=
  ((breakdown.find? (·.1 = severity)).map (·.2)).getD 0

def total (breakdown : Breakdown) : Nat :=
  breakdown.foldr (fun entry n => entry.2 + n) 0

/-! ### Text -/

def word (alwaysPlural : Bool) (n : Int) (severity : Severity) : Text :=
  severity.label ++ if alwaysPlural ∨ n ≠ 1 then text "s" else []

def toText (alwaysPlural : Bool) (breakdown : Breakdown) : Text :=
  Text.join (text " / ") (breakdown.map fun entry =>
    Tally.counted alwaysPlural entry.2 entry.1)

/-- The severity that a label names in the singular or plural. -/
def severity? (label : Text) : Option Severity :=
  Severity.all.find? fun severity =>
    label = severity.label ∨ label = severity.label ++ text "s"

def count? (n label : Text) : Option (Severity × Nat) := do
  let severity ← severity? label
  let n ← Text.number? n
  return (severity, n)

/-- What words say: numbers and labels, with slashes between them. -/
def ofWords? : List Text → Option Breakdown
  | [n, label] => (count? n label).map ([·])
  | n :: label :: bar :: rest =>
    if bar = text "/" then do
      let first ← count? n label
      let later ← ofWords? rest
      return first :: later
    else none
  | _ => none

def read? (s : Text) : Option Breakdown :=
  if s = [] then some [] else ofWords? (Text.split Text.space s)

end Breakdown

/-! ### Counts that are given -/

/-- An integer, or a truth value, which counts as 1 or 0 and is written by its word. -/
inductive Count where
  | integer (n : Int)
  | truth (b : Bool)
  deriving DecidableEq, Repr

namespace Count

def value : Count → Int
  | .integer n => n
  | .truth b => if b then 1 else 0

/-- A positive count as it is written. -/
def toText : Count → Except UnwritableNumber Text
  | .integer n => numeral n.toNat
  | .truth b => .ok (if b then text "True" else text "False")

end Count

abbrev Counts := List (Severity × Count)

namespace Counts

def ofTally (tally : Tally) : Counts :=
  tally.map fun entry => (entry.1, .integer entry.2)

def count (counts : Counts) (severity : Severity) : Count :=
  ((counts.find? (·.1 = severity)).map (·.2)).getD (.integer 0)

def positive (counts : Counts) : List Severity :=
  Severity.all.filter fun severity => 0 < (counts.count severity).value

def fragment (alwaysPlural : Bool) (counts : Counts) (severity : Severity) :
    Except UnwritableNumber Terminal.Fragment := do
  let count := counts.count severity
  let n ← count.toText
  return {
    text := n ++ text " " ++ Breakdown.word alwaysPlural count.value severity
    style := severity.style }

/-- The line of counts. For those of diagnostics at hand it is `Tally.line`: there are never as many of
these as a number that is too long to be written. -/
def line (alwaysPlural : Bool) (counts : Counts) : Except UnwritableNumber Terminal.Line := do
  let fragments ← counts.positive.mapM (counts.fragment alwaysPlural)
  return Tally.separated (text " / ") fragments

/-- Counts as they are written without paint. -/
def plain (alwaysPlural : Bool) (counts : Counts) : Except UnwritableNumber Text :=
  (counts.line alwaysPlural).map (Terminal.Painter.line ⟨false⟩)

end Counts

/-!
### Accounts

What it means that the numbers of a report, its headers and its summary account for a diagnosis.
-/

/-- The numbers of a report agree with a diagnosis: of each severity there are as many as occur, and
the severities are those that occur, each once and by rank. -/
structure Stats.Account (stats : Stats) (diagnosis : Diagnosis) : Prop where
  files : stats.files = (diagnosis.filter fun file => file.2 ≠ []).length
  total : stats.total = (diagnosis.foldr (fun file n => file.2.length + n) 0 : Nat)
  sum : stats.total = stats.perSeverity.foldr (fun entry n => entry.2 + n) 0
  get : ∀ severity : Severity, stats.get (.int severity.rank) =
    .ok (Breakdown.occurrences diagnosis.diagnostics severity)
  occurs : ∀ severity, severity ∈ stats.perSeverity.map (·.1) ↔
    ∃ d ∈ diagnosis.diagnostics, d.severity = severity
  byRank : (stats.perSeverity.map (·.1)).Pairwise fun a b => a.rank < b.rank

/-- A block of lines starts with a header of the path and the breakdown of a file. -/
def Heads (cwd : Text) (file : Text × List Diagnostic) (block : List Line) : Prop :=
  ∃ header rest gap counts, block = header :: rest ∧
    header.plain = Path.display cwd none (Path.ofUri file.1) ++ Text.spaces gap ++ counts ∧
    Breakdown.read? counts = some (Breakdown.ofDiagnostics file.2)

/-- What the summary for some files says: their number, that of their diagnostics, and totals that
the breakdowns of the files add up to. -/
inductive Sums (files : Diagnosis) : Text → Prop where
  | none (empty : files = []) : Sums files (text "Diagnosis completed, no problems found")
  | some {counts : Text} {totals : Breakdown} (read : Breakdown.read? counts = some totals)
      (add : ∀ severity, totals.number severity =
        files.foldr (fun file n => (Breakdown.ofDiagnostics file.2).number severity + n) 0)
      (all : totals = Breakdown.ofDiagnostics files.diagnostics) :
      Sums files (text "Total " ++ Text.ofNat totals.total ++ text ": " ++ counts ++ text " in " ++
        Text.ofNat files.length ++ text " files")

/-- The lines of a report agree with a diagnosis: each file with diagnostics heads a block of its
own, and after a blank line, if there are blocks, the last line sums up. -/
structure LinesAccount (cwd : Text) (lines : List Line) (diagnosis : Diagnosis) : Prop where
  blocks : ∃ (files : List ((Text × List Diagnostic) × List Line)) (last : Line),
    (files.map (·.1)).Perm (diagnosis.filter fun file => file.2 ≠ []) ∧
    (∀ file ∈ files, Heads cwd file.1 file.2) ∧ Sums (files.map (·.1)) last.plain ∧
    lines = separateBlocks (files.map (·.2)) ++ (if files = [] then [last] else [[], last])
  clean : lines.getLast?.map Line.plain = some (text "Diagnosis completed, no problems found") ↔
    diagnosis.diagnostics = []

end CheckReport.Report

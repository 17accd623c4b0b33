import CheckReport.Report.Section

/-!
# Reports

A report shows the sections of a diagnosis with blank lines between them, and after one more blank
line, if there is anything to report, the summary. What it says does not depend on the painter.
-/

namespace CheckReport

open Terminal (Line Painter)

structure Report where
  lines : List Line
  stats : Report.Stats
  deriving DecidableEq, Repr

namespace Report

/-- Blocks of lines with a blank line between neighbours. -/
def separateBlocks : List (List Line) → List Line
  | [] => []
  | [block] => block
  | block :: next :: rest => block ++ [] :: separateBlocks (next :: rest)

/-- The counts of all sections, added up section by section. -/
def totals (sections : List Section) : Tally :=
  sections.foldl (fun totals s => totals.plus s.tally) []

def statsOf (sections : List Section) : Stats where
  total := (totals sections).total
  files := sections.length
  perSeverity := totals sections

def closing (stats : Stats) : List Line :=
  if stats.total = 0 then [stats.summary] else [[], stats.summary]

/-- The report on a diagnosis, with paths shown from a working directory. -/
def ofDiagnosis (cwd : Text) (diagnosis : Diagnosis) : Except UnwritableNumber Report := do
  let sections := Section.ofDiagnosis cwd diagnosis
  let blocks ← sections.mapM (Section.lines (Section.pathWidth sections))
  let stats := statsOf sections
  return ⟨separateBlocks blocks ++ closing stats, stats⟩

def toText (painter : Painter) (report : Report) : Text :=
  painter.page report.lines

/-- The text of the report on a diagnosis, as a painter writes it, and its numbers. -/
def rendered (painter : Painter) (cwd : Text) (diagnosis : Diagnosis) :
    Except UnwritableNumber (Text × Stats) :=
  (ofDiagnosis cwd diagnosis).map fun report => (report.toText painter, report.stats)

end Report

end CheckReport

import CheckReport.Report.Lines

/-!
# Columns of plain reports

At how many cells from the start of their line the parts of a report start: the breakdowns in the headers
of files, the severities of diagnostics, and the lines of messages.
-/

namespace CheckReport

/-- Whether a text ends in a joiner that hides the next character. A joiner after a joiner is hidden. -/
def Text.endsOpen : Text → Bool
  | [] => false
  | [c] => c == zeroWidthJoiner
  | c :: d :: s => if c = zeroWidthJoiner then endsOpen s else endsOpen (d :: s)

namespace Report

/-- The width of the widest displayed path of a file with diagnostics, but 50 if there is a wider one. -/
def pathColumn (cwd : Text) (diagnosis : Diagnosis) : Nat :=
  min 50 ((diagnosis.affected.map fun file =>
    Text.cells (Path.display cwd none (Path.ofUri file.1))).max?.getD 0)

/-- The length of the longest location of a diagnostic. -/
def longestLocation (ds : List Diagnostic) : Nat :=
  (ds.map fun d => (Place.ofDiagnostic d).toText.length).max?.getD 0

/-- The lines of a header. Its breakdown comes two blanks after the path, which is filled up to a
column; that is as many cells from the start of the line, unless there is a line feed in the path or an
open joiner at its end. -/
structure HeaderColumns (column : Nat) (shown : Text) (breakdown : Breakdown) (lines : List Text) :
    Prop where
  filled : ∃ counts, Text.join [Text.newline] lines =
      shown ++ Text.spaces (max column (Text.cells shown) - Text.cells shown + 2) ++ counts ∧
    Breakdown.read? counts = some breakdown
  breakdown : Text.newline ∉ shown → Text.endsOpen shown = false →
    ∃ before counts, lines = [before ++ counts] ∧ Breakdown.read? counts = some breakdown ∧
      Text.cells before = max column (Text.cells shown) + 2 ∧
      (Text.cells shown ≤ column → Text.cells before = column + 2)

/-- What comes before the severity of a diagnostic: its location, filled up to a width. -/
def beforeTag (width : Nat) (d : Diagnostic) : Text :=
  let location := (Place.ofDiagnostic d).toText
  Section.indent ++ location ++ Text.spaces (width - location.length) ++ Section.gutter

/-- What comes before the message of a diagnostic. -/
def beforeMessage (width : Nat) (d : Diagnostic) : Text :=
  beforeTag width d ++ Section.tag d.severity ++ text " " ++ d.code ++ text ": "

/-- The lines of a diagnostic among others with locations of up to some width. The message starts after
a code of printable ASCII on the same line, and its other lines start where it does. -/
structure DiagnosticColumns (width : Nat) (d : Diagnostic) (lines : List Text) : Prop where
  fits : (Place.ofDiagnostic d).toText.length ≤ width
  tag : ∃ rest later, lines = (beforeTag width d ++ Section.tag d.severity ++ rest) :: later
  tagColumn : Text.cells (beforeTag width d) = 4 + width
  message : (∀ c ∈ d.code, 0x20 ≤ c ∧ c < 0x7F) → ∃ shown,
    lines = Text.lines (beforeMessage width d ++ shown) ∧ Text.newline ∉ beforeMessage width d ∧
      Reindented id (Text.cells (beforeMessage width d)) d.message shown

/-- The lines for a file, with all parts at their columns. -/
structure FileLines.Columns (cwd : Text) (column : Nat) (file : Text × List Diagnostic)
    (lines : FileLines) : Prop where
  header : HeaderColumns column (Path.display cwd none (Path.ofUri file.1))
    (Breakdown.ofDiagnostics file.2) lines.header
  longest : ∃ d ∈ file.2, (Place.ofDiagnostic d).toText.length = longestLocation file.2
  diagnostics : List.Forall₂ (DiagnosticColumns (longestLocation file.2)) (Diagnostic.sort file.2)
    lines.diagnostics

/-- The lines of a plain report: those for each file with diagnostics, in columns, and the summary. -/
def AlignedLines (cwd : Text) (diagnosis : Diagnosis) (stats : Stats) (lines : List Text) : Prop :=
  ∃ shown : List ((Text × List Diagnostic) × FileLines),
    (shown.map (·.1)).Perm diagnosis.affected ∧
    (∀ file ∈ shown, file.2.Of cwd file.1 ∧
      file.2.Columns cwd (pathColumn cwd diagnosis) file.1) ∧
    lines = shown.flatMap (·.2.all) ++ [stats.summary.plain]

end Report

end CheckReport

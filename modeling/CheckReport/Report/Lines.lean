import Mathlib.Data.List.Forall2
import CheckReport.Report.Breakdown
import CheckReport.Terminal.Token

/-!
# Lines of plain reports

Which lines the text of a report has for each file and each diagnostic, and how many these are: one
more than the texts in them have line feeds.
-/

namespace CheckReport

def Text.feeds (s : Text) : Nat :=
  s.count Text.newline

namespace Report

open Terminal (Line Painter)

/-- The lines of text that a painter writes for lines of output. -/
def writtenLines (painter : Painter) (ls : List Line) : List Text :=
  ls.flatMap fun l => Text.lines (painter.line l)

/-- How a line of a message is shown: without a carriage return at its end, after some blanks. -/
def ShowsLine (line shown : Text) : Prop :=
  ∃ n, shown = Text.spaces n ++ withoutReturn line

/-- The lines of the header of a file, which say its path and its breakdown. -/
structure HeaderLines (cwd : Text) (file : Text × List Diagnostic) (lines : List Text) : Prop where
  content : ∃ gap counts, Text.join [Text.newline] lines =
      Path.display cwd none (Path.ofUri file.1) ++ Text.spaces gap ++ counts ∧
    Breakdown.read? counts = some (Breakdown.ofDiagnostics file.2)
  number : lines.length = 1 + Text.feeds (Path.display cwd none (Path.ofUri file.1))

/-- The lines of a diagnostic, which say its place, severity and code, and each line of its
message. -/
structure DiagnosticLines (d : Diagnostic) (lines : List Text) : Prop where
  content : ∃ gap message, Text.join [Text.newline] lines =
      Section.indent ++ (Place.ofDiagnostic d).toText ++ Text.spaces gap ++ Section.gutter ++
        Section.tag d.severity ++ text " " ++ d.code ++ text ": " ++ message ∧
    List.Forall₂ ShowsLine (Text.lines d.message) (Text.lines message)
  number : lines.length = 1 + Text.feeds d.code + Text.feeds d.message

/-- The lines for a file, those of its header and those of each of its diagnostics. -/
structure FileLines where
  header : List Text
  diagnostics : List (List Text)

namespace FileLines

/-- The lines for a file with the blank line after them. -/
def all (lines : FileLines) : List Text :=
  lines.header ++ lines.diagnostics.flatten ++ [[]]

/-- The diagnostics are in order. -/
structure Of (cwd : Text) (file : Text × List Diagnostic) (lines : FileLines) : Prop where
  header : HeaderLines cwd file lines.header
  diagnostics : List.Forall₂ DiagnosticLines (Diagnostic.sort file.2) lines.diagnostics

end FileLines

/-- The lines of a plain report: those for each file with diagnostics, and last the summary. -/
structure PlainLines (cwd : Text) (diagnosis : Diagnosis) (stats : Stats) (lines : List Text) :
    Prop where
  files : ∃ shown : List ((Text × List Diagnostic) × FileLines),
    (shown.map (·.1)).Perm diagnosis.affected ∧ (∀ file ∈ shown, file.2.Of cwd file.1) ∧
      lines = shown.flatMap (·.2.all) ++ [stats.summary.plain]
  last : lines.getLast? = some stats.summary.plain

/-!
### Re-indented messages

How the text of a message is written from a column on, and what is found when the indentation is taken
away again: every line of the message, but for a carriage return at its end.
-/

/-- The text of a message whose first line starts at a column. -/
def messageText (painter : Painter) (severity : Severity) (column : Nat) (message : Text) : Text :=
  painter.page (messageAfter [] (Section.messageStyle severity) column message)

/-- How a line of a message is written. Lines of hints that are not empty are dim and white. -/
def messageLine (painter : Painter) (severity : Severity) (s : Text) : Text :=
  if painter.enabled ∧ severity = .hint ∧ s ≠ [] then text "\x1b[2;37m" ++ s ++ text "\x1b[0m"
  else s

/-- Lines without as many of their first characters as they are indented by, but for the first line. -/
def unindented (column : Nat) : List Text → List Text
  | [] => []
  | first :: later => first :: later.map (List.drop column)

/-- A text shows the lines of a message, each as it is written on its own: the first one as it is, a
later one after blanks up to a column, or empty if it is. -/
structure Reindented (write : Text → Text) (column : Nat) (message shown : Text) : Prop where
  number : (Text.lines shown).length = 1 + Text.feeds message
  first : (Text.lines shown)[0]? =
    (Text.lines message)[0]?.map fun line => write (withoutReturn line)
  later : ∀ i line, (Text.lines message)[i + 1]? = some line →
    ∃ s, (Text.lines shown)[i + 1]? = some s ∧ (s = [] ↔ withoutReturn line = []) ∧
      (s ≠ [] → s = Text.spaces column ++ write (withoutReturn line))
  recovered : unindented column (Text.lines shown) =
    (Text.lines message).map fun line => write (withoutReturn line)

/-- All styles are off at the end of a text. -/
def EndsUnstyled (s : Text) : Prop :=
  ∀ codes, (Terminal.styles s).getLast? = some codes → codes = text "0"

/-- How a painter writes a message, on its own and after a lead: re-indented, and if the lines are
styled, without a style that is still on where a line ends. -/
structure MessageShown (painter : Painter) (severity : Severity) (column : Nat) (message : Text) :
    Prop where
  reindented : Reindented (messageLine painter severity) column message
    (messageText painter severity column message)
  unstyled : painter.enabled = true → severity = .hint →
    ∀ s ∈ Text.lines (messageText painter severity column message), EndsUnstyled s
  after : ∀ lead, painter.page (messageAfter lead (Section.messageStyle severity) column message) =
    painter.line lead ++ messageText painter severity column message

end Report

end CheckReport

import CheckReport.Diagnosis.Order
import CheckReport.Path.Relative
import CheckReport.Path.Uri
import CheckReport.Report.Location
import CheckReport.Report.Tally
import CheckReport.Text.Width

/-!
# Sections

A report has a section for each file with diagnostics: a header with the path and the counts, and
the diagnostics in order, their columns aligned by cells. Sections are ordered by path, then URI.
-/

namespace CheckReport.Report

open Terminal (Line Fragment Style)

/-!
### Messages

A message can have several lines. Continuation lines are indented so that they start where the first
line starts; blank ones stay empty.
-/

def withoutReturn (s : Text) : Text :=
  if s.getLast? = some 0x0D then s.dropLast else s

/-- The lines of a message, which line feeds or carriage returns with line feeds end. -/
def messageLines (message : Text) : List Text :=
  (Text.lines message).map withoutReturn

/-- A continuation line from `column` on. -/
def continuation (style : Style) (column : Nat) (s : Text) : Line :=
  if s = [] then [] else [.plain (Text.spaces column), { text := s, style := style }]

/-- A message after `lead`, which is `column` cells wide. -/
def messageAfter (lead : Line) (style : Style) (column : Nat) (message : Text) : List Line :=
  match messageLines message with
  | [] => [lead]
  | first :: rest =>
    (lead ++ [{ text := first, style := style }]) :: rest.map (continuation style column)

/-! ### Files and entries -/

structure Section where
  uri : Text
  /-- The path that the URI names. -/
  path : Text
  /-- The path as the report shows it. -/
  display : Text
  /-- The diagnostics in order. -/
  diagnostics : List Diagnostic
  deriving DecidableEq, Repr

structure Entry where
  diagnostic : Diagnostic
  location : Text
  target : Text
  deriving DecidableEq, Repr

namespace Section

def ofFile (cwd : Text) (file : Text × List Diagnostic) : Section :=
  let path := Path.ofUri file.1
  { uri := file.1
    path := path
    display := Path.display cwd none path
    diagnostics := Diagnostic.sort file.2 }

/-- Whether a section may come before another: by path, then by URI. -/
def le (a b : Section) : Bool :=
  if a.path = b.path then Text.le a.uri b.uri else Text.le a.path b.path

/-- The sections of a diagnosis in order. -/
def ofDiagnosis (cwd : Text) (diagnosis : Diagnosis) : List Section :=
  (diagnosis.affected.map (ofFile cwd)).mergeSort le

/-! ### Layout -/

def indent : Text := text "  "

def gutter : Text := text "  "

/-- The width up to which paths widen the first column of the headers. -/
def widestPath : Nat := 50

def pathWidth (sections : List Section) : Nat :=
  min widestPath ((sections.map fun s => Text.cells s.display).foldl max 0)

def padding (width : Nat) (s : Text) : Fragment :=
  .plain (Text.spaces (width - Text.cells s))

def tally (s : Section) : Tally :=
  Tally.ofDiagnostics s.diagnostics

def header (width : Nat) (s : Section) : Line :=
  { text := s.display, style := .ofColor .blue, target := some s.uri } ::
    padding width s.display :: .plain gutter :: s.tally.line false

/-! ### Diagnostics -/

def entry (uri : Text) (d : Diagnostic) : Except UnwritableNumber Entry := do
  let location ← locationText d
  let target ← locationTarget uri d
  return ⟨d, location, target⟩

def entries (s : Section) : Except UnwritableNumber (List Entry) :=
  s.diagnostics.mapM (entry s.uri)

def locationWidth (es : List Entry) : Nat :=
  (es.map fun e => Text.cells e.location).foldl max 0

def tag (severity : Severity) : Text :=
  text "[" ++ severity.label ++ text "]"

/-- The column at which the message of a diagnostic starts. -/
def messageColumn (width : Nat) (d : Diagnostic) : Nat :=
  Text.cells indent + width + Text.cells gutter + Text.cells (tag d.severity) + 1 +
    Text.cells d.code + 2

def lead (width : Nat) (e : Entry) : Line :=
  [.plain indent,
    { text := e.location, style := .ofColor .white, target := some e.target },
    padding width e.location, .plain gutter,
    { text := tag e.diagnostic.severity, style := e.diagnostic.severity.style }, .plain (text " "),
    { text := e.diagnostic.code, style := { dim := true } }, .plain (text ": ")]

/-- The style of the message of a diagnostic. Only hints are painted. -/
def messageStyle (severity : Severity) : Style :=
  if severity = .hint then severity.style else {}

def entryLines (width : Nat) (e : Entry) : List Line :=
  messageAfter (lead width e) (messageStyle e.diagnostic.severity)
    (messageColumn width e.diagnostic) e.diagnostic.message

def lines (width : Nat) (s : Section) : Except UnwritableNumber (List Line) := do
  let es ← s.entries
  return s.header width :: es.flatMap (entryLines (locationWidth es))

end Section

end CheckReport.Report

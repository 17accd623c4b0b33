import CheckReport.Report.Lines

/-!
# Whole reports

What a report says if numbers of any length can be written. `Report.ofDiagnosis` gives this report,
unless a number is too long.
-/

namespace CheckReport.Report

open Terminal (Line)

/-- A diagnostic with its location, of whatever length. -/
def Entry.whole (uri : Text) (d : Diagnostic) : Entry where
  diagnostic := d
  location := (Place.ofDiagnostic d).toText
  target := uri ++ text "#L" ++ (Place.ofDiagnostic d).startText

namespace Section

def wholeEntries (s : Section) : List Entry :=
  s.diagnostics.map (Entry.whole s.uri)

def entriesLines (s : Section) : List Line :=
  s.wholeEntries.flatMap (entryLines (locationWidth s.wholeEntries))

def wholeLines (width : Nat) (s : Section) : List Line :=
  s.header width :: s.entriesLines

end Section

/-- The report on a diagnosis whose numbers can all be written. -/
def whole (cwd : Text) (diagnosis : Diagnosis) : Report :=
  let sections := Section.ofDiagnosis cwd diagnosis
  let blocks := sections.map (Section.wholeLines (Section.pathWidth sections))
  ⟨separateBlocks blocks ++ closing (statsOf sections), statsOf sections⟩

end CheckReport.Report

/-!
### What a report takes

A report on a diagnosis takes numbers that can be written, and texts that UTF-8 can spell. Of a URI the
report shows the path; the URI itself is written only as the target of links.
-/

namespace CheckReport.Diagnosis

open Terminal (Painter escapeChar)
open Text.Utf8 (Encodable)

/-- Whether all numbers that a report on a diagnosis tells can be written. -/
def Writable (diagnosis : Diagnosis) : Prop :=
  ∀ d ∈ diagnosis.diagnostics, (Report.Place.ofDiagnostic d).Writable

/-- The greatest number that is read. One more has too many digits to be written. -/
def greatest : Nat :=
  Text.numberLimit - 1

/-- A diagnostic with a location and texts that can be written. -/
structure DiagnosticPrintable (d : Diagnostic) : Prop where
  line : d.range.start.line ≠ greatest
  character : d.range.start.character ≠ greatest
  stopLine : d.range.stop.line ≠ some greatest
  code : Encodable d.code
  message : Encodable d.message

/-- A diagnosis whose report can be written from a working directory. -/
structure Printable (painter : Painter) (cwd : Text) (diagnosis : Diagnosis) : Prop where
  path : ∀ file ∈ diagnosis.affected, Encodable (Path.display cwd none (Path.ofUri file.1))
  uri : painter.enabled = true → ∀ file ∈ diagnosis.affected, Encodable file.1
  diagnostic : ∀ d ∈ diagnosis.diagnostics, DiagnosticPrintable d

/-- No text of a diagnosis has an escape character. A report on it has no control sequences but those of
its painter. -/
structure EscapeFree (diagnosis : Diagnosis) : Prop where
  uri : ∀ file ∈ diagnosis, escapeChar ∉ file.1
  path : ∀ file ∈ diagnosis, escapeChar ∉ Path.ofUri file.1
  code : ∀ d ∈ diagnosis.diagnostics, escapeChar ∉ d.code
  message : ∀ d ∈ diagnosis.diagnostics, escapeChar ∉ d.message

end CheckReport.Diagnosis

/-!
### Listings

What a report lists from whatever directory it is made: the files with diagnostics by path and then by
URI, each with lines of its own, which tell nothing of other files. Only headers tell the directory.
-/

namespace CheckReport.Report

open Terminal (Line Link Painter)

/-- Whether a file comes before another in code point order of the paths, and if these are equal, of
the URIs. -/
def FileBefore (a b : Text × List Diagnostic) : Prop :=
  Path.ofUri a.1 < Path.ofUri b.1 ∨ Path.ofUri a.1 = Path.ofUri b.1 ∧ a.1 < b.1

/-- The lines of text for the diagnostics of a file, one after the other. -/
def ownLines (painter : Painter) (file : Text × List Diagnostic) : List (List Text) :=
  let entries := (Diagnostic.sort file.2).map (Entry.whole file.1)
  entries.map fun e => writtenLines painter (Section.entryLines (Section.locationWidth entries) e)

/-- The header of a file: its path from a directory, filled up to some width, and how many diagnostics
it has of each severity. -/
def headerText (painter : Painter) (cwd : Text) (width : Nat) (file : Text × List Diagnostic) : Text :=
  let shown := Path.display cwd none (Path.ofUri file.1)
  painter.link file.1 (painter.paint (.ofColor .blue) shown) ++
    Text.spaces (width - Text.cells shown + 2) ++
      painter.line ((Tally.ofDiagnostics file.2).line false)

/-- A diagnosis is reported from every directory as the same files in one order, with the same lines
for each but for the path and the blanks in its header, and with the same numbers. If a number is too long
to be written, it is reported from none. -/
structure Listed (diagnosis files : Diagnosis) (stats : Stats) : Prop where
  once : files.Perm diagnosis.affected
  inOrder : files.Pairwise FileBefore
  own : ∀ file ∈ files,
    List.Forall₂ DiagnosticLines (Diagnostic.sort file.2) (ownLines ⟨false⟩ file)
  reported : diagnosis.Writable → ∀ painter cwd, ∃ s width,
    rendered painter cwd diagnosis = .ok (s, stats) ∧
      Text.lines s = files.flatMap (fun file =>
        FileLines.all ⟨Text.lines (headerText painter cwd width file), ownLines painter file⟩) ++
          Text.lines (painter.line stats.summary)
  unreported : ¬diagnosis.Writable → ∀ painter cwd, rendered painter cwd diagnosis = .error {}

/-!
### Links of painted reports

What the paths and locations in a report link to.
-/

/-- The link from the location of a diagnostic to where it starts in a file. -/
def diagnosticLink (uri : Text) (d : Diagnostic) : Link where
  target := uri ++ text "#L" ++ Text.ofNat (d.range.start.line + 1) ++ text ":" ++
    Text.ofNat (d.range.start.character + 1)
  text := (Place.ofDiagnostic d).toText

/-- The links for a file: from its path to the file, and from the location of each of its diagnostics in
order. -/
def fileLinks (cwd : Text) (file : Text × List Diagnostic) : List Link :=
  ⟨file.1, Path.display cwd none (Path.ofUri file.1)⟩ ::
    (Diagnostic.sort file.2).map (diagnosticLink file.1)

/-- The links of a text are those for the files with diagnostics, by path and then by URI. What it opens
and closes are in turn a target of these and none. -/
structure LinksFiles (cwd : Text) (diagnosis files : Diagnosis) (s : Text) : Prop where
  once : files.Perm diagnosis.affected
  inOrder : files.Pairwise fun earlier later => ¬FileBefore later earlier
  links : Terminal.links? s = some (files.flatMap (fileLinks cwd))
  alternate : Terminal.targets s =
    (files.flatMap (fileLinks cwd)).flatMap fun link => [link.target, []]

end CheckReport.Report

import CheckReport.Proofs.Report.Accounts
import CheckReport.Proofs.Report.Characters

/-!
# Plain reports split into their lines

The text of a plain report splits at its line feeds into the lines for each file and a summary
(`rendered_plainLines`). Messages are split on purpose; paths and codes are shown as they are, so line
feeds in them add lines too.
-/

namespace CheckReport

open Terminal (Line Fragment Painter Style)

namespace Text

theorem feeds_append (s t : Text) : feeds (s ++ t) = feeds s + feeds t :=
  List.count_append

theorem feeds_of_free {s : Text} (free : ∀ c ∈ s, c ≠ newline) : feeds s = 0 :=
  List.count_eq_zero.mpr (List.forall_mem_ne'.mp free)

theorem length_lines (s : Text) : (lines s).length = 1 + feeds s :=
  length_split newline s

theorem common_ne_newline : Common (· ≠ newline) :=
  .ne (by decide)

end Text

namespace Report

open Text (feeds newline common_ne_newline)

/-! ### Lines of output as lines of text -/

/-- The lines of text that lines of output come to. -/
def textLines (ls : List Line) : List Text :=
  ls.flatMap fun l => Text.lines l.plain

theorem textLines_append (ls later : List Line) :
    textLines (ls ++ later) = textLines ls ++ textLines later :=
  List.flatMap_append

theorem textLines_flatMap {α : Type} (f : α → List Line) (as : List α) :
    textLines (as.flatMap f) = as.flatMap fun a => textLines (f a) :=
  List.flatMap_assoc

theorem textLines_of_free {l : Line} (free : newline ∉ l.plain) : textLines [l] = [l.plain] := by
  rw [textLines, List.flatMap_singleton, Text.lines, Text.split_of_not_mem free]

/-- The lines of a page are those that its lines are written as. -/
theorem lines_page (painter : Painter) {ls : List Line} (nonempty : ls ≠ []) :
    Text.lines (painter.page ls) = writtenLines painter ls := by
  have some : ls.map painter.line ≠ [] := mt List.map_eq_nil_iff.mp nonempty
  rw [Painter.page, Text.lines, Text.split_join_eq_flatMap some, List.flatMap_map]
  rfl

theorem writtenLines_disabled (ls : List Line) : writtenLines ⟨false⟩ ls = textLines ls := by
  unfold writtenLines textLines
  simp only [Painter.line_disabled]

theorem lines_plainPage {ls : List Line} (nonempty : ls ≠ []) :
    Text.lines (Painter.page ⟨false⟩ ls) = textLines ls := by
  rw [lines_page _ nonempty, writtenLines_disabled]

theorem join_textLines {ls : List Line} (nonempty : ls ≠ []) :
    Text.join [newline] (textLines ls) = Text.join [newline] (ls.map Line.plain) := by
  rw [← lines_plainPage nonempty, Text.lines, Text.join_split, Painter.page_disabled]

theorem length_textLines {ls : List Line} (nonempty : ls ≠ []) :
    (textLines ls).length = 1 + feeds (Text.join [newline] (ls.map Line.plain)) := by
  rw [← lines_plainPage nonempty, Text.length_lines, Painter.page_disabled]

/-! ### Headers -/

theorem headerLines_header (cwd : Text) (width : Nat) (file : Text × List Diagnostic) :
    HeaderLines cwd file (textLines [(Section.ofFile cwd file).header width]) where
  content := by
    exact ⟨_, _, (join_textLines (List.cons_ne_nil _ _)).trans (plain_header width _),
      read?_line_ofFile cwd file⟩
  number := by
    have counts := forall_mem_plain
      (holds_tallyLine common_ne_newline ⟨false⟩ false (Section.ofFile cwd file).tally)
    rw [length_textLines (List.cons_ne_nil _ _), List.map_singleton, Text.join, plain_header,
      Text.feeds_append, Text.feeds_append, Text.feeds_of_free (common_ne_newline.spaces _),
      Text.feeds_of_free counts]
    rfl

/-! ### Messages -/

theorem showsLine_continuation (style : Style) (column : Nat) (line : Text) :
    ShowsLine line (continuation style column (withoutReturn line)).plain := by
  unfold continuation
  split
  · next empty => exact ⟨0, empty.symm⟩
  · exact ⟨column, by simp [Line.plain, Fragment.plain]⟩

theorem not_mem_of_showsLine {line shown : Text} (same : ShowsLine line shown)
    (free : newline ∉ line) : newline ∉ shown := by
  obtain ⟨n, rfl⟩ := same
  have trimmed : newline ∉ withoutReturn line := by
    unfold withoutReturn
    split
    · exact fun mem => free (List.dropLast_subset line mem)
    · exact free
  rw [List.mem_append, not_or]
  exact ⟨List.forall_mem_ne'.mp (common_ne_newline.spaces n), trimmed⟩

/-- A message after a lead: the text of the lead, and each line of the message on a line. -/
theorem exists_plain_messageAfter (lead : Line) (style : Style) (column : Nat) (message : Text) :
    ∃ first rest, (messageAfter lead style column message).map Line.plain =
        (lead.plain ++ first) :: rest ∧
      List.Forall₂ ShowsLine (Text.lines message) (first :: rest) ∧
      ∀ shown ∈ first :: rest, newline ∉ shown := by
  obtain ⟨line, others, found⟩ := List.exists_cons_of_ne_nil (Text.split_ne_nil newline message)
  have free (s : Text) (mem : s ∈ line :: others) : newline ∉ s :=
    Text.not_mem_of_mem_split (found ▸ mem)
  have first : ShowsLine line (withoutReturn line) := ⟨0, rfl⟩
  have later := showsLine_continuation style column
  refine ⟨withoutReturn line,
    others.map fun s => (continuation style column (withoutReturn s)).plain, ?_, ?_, ?_⟩
  · simp [messageAfter, messageLines, Text.lines, found, Line.plain]
  · rw [Text.lines, found]
    refine .cons first ?_
    rw [List.forall₂_map_right_iff, List.forall₂_same]
    exact fun s _ => later s
  · rw [List.forall_mem_cons, List.forall_mem_map]
    exact ⟨not_mem_of_showsLine first (free line List.mem_cons_self),
      fun s mem => not_mem_of_showsLine (later s) (free s (List.mem_cons_of_mem line mem))⟩

theorem messageAfter_ne_nil (lead : Line) (style : Style) (column : Nat) (message : Text) :
    messageAfter lead style column message ≠ [] := by
  unfold messageAfter
  split <;> exact List.cons_ne_nil _ _

/-! ### Diagnostics -/

theorem plain_lead (width : Nat) (e : Entry) :
    Line.plain (Section.lead width e) =
      Section.indent ++ e.location ++ Text.spaces (width - Text.cells e.location) ++
        Section.gutter ++ Section.tag e.diagnostic.severity ++ text " " ++ e.diagnostic.code ++
        text ": " := by
  simp [Section.lead, Section.padding, Line.plain, Fragment.plain]

theorem feeds_lead (width : Nat) (uri : Text) (d : Diagnostic) :
    feeds (Section.lead width (Entry.whole uri d)).plain = feeds d.code := by
  have location := Text.feeds_of_free (common_toText common_ne_newline (Place.ofDiagnostic d))
  have padding (n : Nat) := Text.feeds_of_free (common_ne_newline.spaces n)
  have tag := Text.feeds_of_free (common_tag common_ne_newline d.severity)
  have indent : feeds Section.indent = 0 := by decide
  have gutter : feeds Section.gutter = 0 := by decide
  have blank : feeds (text " ") = 0 := by decide
  have colon : feeds (text ": ") = 0 := by decide
  simp only [plain_lead, Entry.whole, Text.feeds_append, location, padding, tag, indent, gutter,
    blank, colon, Nat.zero_add, Nat.add_zero]

theorem diagnosticLines_entryLines (width : Nat) (uri : Text) (d : Diagnostic) :
    DiagnosticLines d (textLines (Section.entryLines width (Entry.whole uri d))) := by
  obtain ⟨first, rest, plain, shown, free⟩ := exists_plain_messageAfter
    (Section.lead width (Entry.whole uri d)) (Section.messageStyle d.severity)
    (Section.messageColumn width d) d.message
  have nonempty : Section.entryLines width (Entry.whole uri d) ≠ [] := messageAfter_ne_nil _ _ _ _
  have page : Text.join [newline] ((Section.entryLines width (Entry.whole uri d)).map Line.plain) =
      (Section.lead width (Entry.whole uri d)).plain ++ Text.join [newline] (first :: rest) :=
    (congrArg (Text.join [newline]) plain).trans (Text.join_append_cons _ _ _ _)
  have lines : Text.lines (Text.join [newline] (first :: rest)) = first :: rest :=
    Text.split_join (List.cons_ne_nil first rest) free
  -- What is shown of the message has as many lines as the message, so as many line feeds.
  have feeds_shown : feeds (Text.join [newline] (first :: rest)) = feeds d.message := by
    have length := shown.length_eq
    rw [← lines, Text.length_lines, Text.length_lines] at length
    omega
  constructor
  · have content := page
    rw [← join_textLines nonempty, plain_lead] at content
    exact ⟨_, _, content, lines.symm ▸ shown⟩
  · rw [length_textLines nonempty, page, Text.feeds_append, feeds_lead, feeds_shown, Nat.add_assoc]

/-! ### Files -/

theorem separateBlocks_append {blocks : List (List Line)} (nonempty : blocks ≠ [])
    (rest : List Line) :
    separateBlocks blocks ++ [] :: rest = blocks.flatMap (· ++ [[]]) ++ rest := by
  fun_induction separateBlocks blocks with
  | case1 => exact absurd rfl nonempty
  | case2 block => simp
  | case3 block next rest ih =>
    rw [List.flatMap_cons, List.append_assoc, List.cons_append, ih (List.cons_ne_nil _ _)]
    simp

/-- A whole report has each file followed by a blank line, and last the summary. -/
theorem lines_whole_eq_flatMap (cwd : Text) (diagnosis : Diagnosis) :
    (whole cwd diagnosis).lines =
      (orderedFiles cwd diagnosis).flatMap (fun file => (Section.ofFile cwd file).wholeLines
          (Section.pathWidth (Section.ofDiagnosis cwd diagnosis)) ++ [[]]) ++
        [(whole cwd diagnosis).stats.summary] := by
  rw [lines_whole]
  by_cases none : diagnosis.diagnostics = []
  · rw [closing, if_pos (total_eq_zero_iff.mpr none), orderedFiles_eq_nil_iff.mpr none]
    rfl
  · have some : orderedFiles cwd diagnosis ≠ [] := mt orderedFiles_eq_nil_iff.mp none
    rw [closing, if_neg (mt total_eq_zero_iff.mp none),
      separateBlocks_append (mt List.map_eq_nil_iff.mp some), List.flatMap_map]
    rfl

theorem lines_whole_ne_nil (cwd : Text) (diagnosis : Diagnosis) : (whole cwd diagnosis).lines ≠ [] := by
  rw [lines_whole_eq_flatMap]
  exact List.append_ne_nil_of_right_ne_nil _ (List.cons_ne_nil _ _)

/-- The lines of text for a file in a whole report. -/
def fileLines (cwd : Text) (width : Nat) (file : Text × List Diagnostic) : FileLines where
  header := textLines [(Section.ofFile cwd file).header width]
  diagnostics := (Section.ofFile cwd file).wholeEntries.map fun e =>
    textLines (Section.entryLines (Section.locationWidth (Section.ofFile cwd file).wholeEntries) e)

theorem all_fileLines (cwd : Text) (width : Nat) (file : Text × List Diagnostic) :
    (fileLines cwd width file).all =
      textLines ((Section.ofFile cwd file).wholeLines width ++ [[]]) := by
  rw [Section.wholeLines, ← List.singleton_append, textLines_append, textLines_append,
    Section.entriesLines, textLines_flatMap, List.flatMap_def]
  rfl

theorem of_fileLines (cwd : Text) (width : Nat) (file : Text × List Diagnostic) :
    (fileLines cwd width file).Of cwd file where
  header := headerLines_header cwd width file
  diagnostics := by
    rw [fileLines, Section.wholeEntries, List.map_map, List.forall₂_map_right_iff]
    exact List.forall₂_same.mpr fun d _ => diagnosticLines_entryLines _ _ d

/-! ### Reports -/

theorem lines_toText_whole (cwd : Text) (diagnosis : Diagnosis) :
    Text.lines ((whole cwd diagnosis).toText ⟨false⟩) =
      (orderedFiles cwd diagnosis).flatMap (fun file =>
          (fileLines cwd (Section.pathWidth (Section.ofDiagnosis cwd diagnosis)) file).all) ++
        [(whole cwd diagnosis).stats.summary.plain] := by
  have summary := forall_mem_plain
    (holds_summary common_ne_newline ⟨false⟩ (whole cwd diagnosis).stats)
  have free : newline ∉ (whole cwd diagnosis).stats.summary.plain :=
    List.forall_mem_ne'.mp summary
  rw [toText, lines_plainPage (lines_whole_ne_nil cwd diagnosis), lines_whole_eq_flatMap, textLines_append, textLines_flatMap,
    textLines_of_free free]
  simp only [all_fileLines]

/-- The text of a plain report splits at its line feeds into the lines for each file with
diagnostics, a blank line after each, and a last line that sums up. -/
theorem rendered_plainLines {diagnosis : Diagnosis} (writable : diagnosis.Writable) (cwd : Text) :
    ∃ s stats, rendered ⟨false⟩ cwd diagnosis = .ok (s, stats) ∧
      PlainLines cwd diagnosis stats (Text.lines s) := by
  have made : ofDiagnosis cwd diagnosis = .ok (whole cwd diagnosis) :=
    ofDiagnosis_eq_ok_iff.mpr ⟨writable, rfl⟩
  refine ⟨_, _, by rw [rendered, made]; rfl, ?_⟩
  have lines := lines_toText_whole cwd diagnosis
  constructor
  · refine ⟨(orderedFiles cwd diagnosis).map fun file =>
      (file, fileLines cwd (Section.pathWidth (Section.ofDiagnosis cwd diagnosis)) file), ?_, ?_, ?_⟩
    · rw [List.map_map]
      exact (List.map_id _).symm ▸ perm_orderedFiles cwd diagnosis
    · rw [List.forall_mem_map]
      exact fun file _ => of_fileLines cwd _ file
    · rw [lines, List.flatMap_map]
  · rw [lines, List.getLast?_concat]

theorem rendered_plainLines_mixed :
    let d : Diagnostic := ⟨text "c\nd", text "m\r\n\nn", ⟨⟨0, 0⟩, ⟨none, 1⟩⟩, .error⟩
    let diagnosis : Diagnosis := [(text "file:///b", [d, d]), (text "file:///c", []),
      (text "file:///a%0A", [d])]
    diagnosis.Writable ∧ ∃ s stats, rendered ⟨false⟩ (text "/") diagnosis = .ok (s, stats) ∧
      PlainLines (text "/") diagnosis stats (Text.lines s) := by
  intro d diagnosis
  have one := Text.one_lt_numberLimit
  have writable : diagnosis.Writable := by
    intro x mem
    have same : x = d := by simpa [diagnosis, Diagnosis.diagnostics] using mem
    rw [same, Place.writable_iff]
    simp [Place.ofDiagnostic, d, one]
  exact ⟨writable, rendered_plainLines writable (text "/")⟩

/-- A line feed in a path, which a URI may spell, breaks the header of its file. -/
theorem rendered_breaks_header :
    let d : Diagnostic := ⟨text "c", text "m", ⟨⟨0, 0⟩, ⟨none, 1⟩⟩, .error⟩
    let diagnosis : Diagnosis := [(text "file:///a%0Ab", [d])]
    (rendered ⟨false⟩ (text "/") diagnosis).map (fun report => Text.lines report.1) =
        .ok [text "a", text "b  1 Error", text "  1:1-1  [Error] c: m", [],
          text "Total 1: 1 Errors in 1 files"] ∧
      (rendered ⟨false⟩ (text "/") diagnosis).map (fun report => (Text.lines report.1).length) ≠
        .ok (1 + (1 + feeds d.message) + 1 + 1) := by
  decide +kernel

end Report

end CheckReport

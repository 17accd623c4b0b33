import CheckReport.Proofs.Report.Rearranged
import CheckReport.Proofs.Report.Reindented
import CheckReport.Report.Columns

/-!
# Columns line up

Blanks after a text take one cell each, unless an open joiner hides the first (`cells_append_spaces`),
and all that stands before the message of a diagnostic but its code is of printable ASCII. So in a plain
report breakdowns, severities and lines of messages start at their columns (`rendered_columns`).
-/

namespace CheckReport

open Terminal (Line Painter)

namespace Text

/-! ### Blanks -/

theorem endsOpen_cons_of_ne {c : Nat} (other : c ≠ zeroWidthJoiner) (s : Text) :
    endsOpen (c :: s) = endsOpen s := by
  cases s with
  | nil => exact beq_eq_false_iff_ne.mpr other
  | cons d s => rw [endsOpen, if_neg other]

theorem joinedCells_cons (last : Option Nat) {c : Nat} (noJoiner : c ≠ zeroWidthJoiner) (s : Text) :
    joinedCells last (c :: s) =
      if c = emojiSelector then
        (if last.any Width.widened.holds then 1 else 0) + joinedCells none s
      else if cell c = 0 then joinedCells last s
      else cell c + joinedCells (some c) s := by
  rw [joinedCells.eq_def]
  exact if_neg noJoiner

theorem joinedCells_spaces (last : Option Nat) (n : Nat) : joinedCells last (spaces n) = n := by
  induction n generalizing last with
  | zero => rfl
  | succ n ih =>
    have noSelector : space ≠ emojiSelector := by decide
    have one : cell space = 1 := rfl
    rw [spaces, List.replicate_succ, joinedCells_cons last (by decide), if_neg noSelector, one,
      if_neg Nat.one_ne_zero, ← spaces, ih, Nat.add_comm]

theorem joinedCells_append_spaces {s : Text} (closed : endsOpen s = false) (last : Option Nat)
    (n : Nat) : joinedCells last (s ++ spaces n) = joinedCells last s + n := by
  fun_induction joinedCells last s with
  | case1 last => rw [List.nil_append, joinedCells_spaces, Nat.zero_add]
  | case2 last => cases closed
  | case3 last hidden s ih =>
    rw [endsOpen, if_pos rfl] at closed
    rw [List.cons_append, List.cons_append, joinedCells, if_pos rfl, ih closed]
  | case4 last s noJoiner ih =>
    rw [endsOpen_cons_of_ne noJoiner] at closed
    rw [List.cons_append, joinedCells_cons last noJoiner, if_pos rfl, ih closed, Nat.add_assoc]
  | case5 last c s noJoiner noSelector zero ih =>
    rw [endsOpen_cons_of_ne noJoiner] at closed
    rw [List.cons_append, joinedCells_cons last noJoiner, if_neg noSelector, if_pos zero, ih closed]
  | case6 last c s noJoiner noSelector some ih =>
    rw [endsOpen_cons_of_ne noJoiner] at closed
    rw [List.cons_append, joinedCells_cons last noJoiner, if_neg noSelector, if_neg some, ih closed,
      Nat.add_assoc]

theorem sum_cells_spaces (n : Nat) : (spaces n).foldr (fun c n => cell c + n) 0 = n := by
  induction n with
  | zero => rfl
  | succ n ih =>
    have one : cell space = 1 := rfl
    rw [spaces, List.replicate_succ, List.foldr_cons, ← spaces, ih, one, Nat.add_comm]

theorem sum_cells_append (s t : Text) :
    (s ++ t).foldr (fun c n => cell c + n) 0 =
      s.foldr (fun c n => cell c + n) 0 + t.foldr (fun c n => cell c + n) 0 := by
  induction s with
  | nil => rw [List.nil_append, List.foldr_nil, Nat.zero_add]
  | cons c s ih => rw [List.cons_append, List.foldr_cons, List.foldr_cons, ih, Nat.add_assoc]

theorem contains_append_spaces {c : Nat} (other : c ≠ space) (s : Text) (n : Nat) :
    (s ++ spaces n).contains c = s.contains c := by
  have blank : c ∉ spaces n := fun mem => other (List.eq_of_mem_replicate mem)
  simp [blank]

/-- Blanks after a text take a cell each, unless the text ends in a joiner that hides the first. -/
theorem cells_append_spaces {s : Text} (closed : endsOpen s = false) (n : Nat) :
    cells (s ++ spaces n) = cells s + n := by
  unfold cells
  rw [contains_append_spaces (by decide), contains_append_spaces (by decide)]
  split
  · exact joinedCells_append_spaces closed none n
  · rw [sum_cells_append, sum_cells_spaces]

end Text

namespace Report

open Text (newline Common)

/-! ### Greatest widths -/

theorem foldl_max_perm {ms ns : List Nat} (perm : ms.Perm ns) :
    ms.foldl max 0 = ns.max?.getD 0 := by
  have same := perm.foldl_eq' (fun _ _ _ _ _ => Nat.max_right_comm ..) 0
  rw [same, List.foldl_max, Nat.zero_max]

/-- The width of the first column of the headers depends only on the paths, in whatever order. -/
theorem pathWidth_ofDiagnosis (cwd : Text) (diagnosis : Diagnosis) :
    Section.pathWidth (Section.ofDiagnosis cwd diagnosis) = pathColumn cwd diagnosis := by
  have widths := (Section.perm_ofDiagnosis cwd diagnosis).map fun s => Text.cells s.display
  rw [List.map_map] at widths
  rw [Section.pathWidth, foldl_max_perm widths]
  rfl

theorem cells_location (d : Diagnostic) :
    Text.cells (Place.ofDiagnostic d).toText = (Place.ofDiagnostic d).toText.length :=
  Text.cells_eq_length (common_toText (fun _ printable => printable) _)

theorem locationWidth_wholeEntries (cwd : Text) (file : Text × List Diagnostic) :
    Section.locationWidth (Section.ofFile cwd file).wholeEntries = longestLocation file.2 := by
  have lengths := (perm_diagnostics_ofFile cwd file).map fun d => (Place.ofDiagnostic d).toText.length
  have widths : ((Section.ofFile cwd file).wholeEntries.map fun e => Text.cells e.location) =
      (Section.ofFile cwd file).diagnostics.map fun d => (Place.ofDiagnostic d).toText.length := by
    rw [Section.wholeEntries, List.map_map]
    exact List.map_congr_left fun d _ => cells_location d
  rw [Section.locationWidth, widths, foldl_max_perm lengths]
  rfl

theorem longestLocation_spec {ds : List Diagnostic} (nonempty : ds ≠ []) :
    (∃ d ∈ ds, (Place.ofDiagnostic d).toText.length = longestLocation ds) ∧
      ∀ d ∈ ds, (Place.ofDiagnostic d).toText.length ≤ longestLocation ds := by
  unfold longestLocation
  cases greatest : (ds.map fun d => (Place.ofDiagnostic d).toText.length).max? with
  | none => exact absurd (List.map_eq_nil_iff.mp (List.max?_eq_none_iff.mp greatest)) nonempty
  | some n =>
    obtain ⟨mem, all⟩ := List.max?_eq_some_iff.mp greatest
    exact ⟨List.mem_map.mp mem, List.forall_mem_map.mp all⟩

/-! ### Headers -/

theorem headerColumns_header (cwd : Text) (column : Nat) (file : Text × List Diagnostic) :
    HeaderColumns column (Path.display cwd none (Path.ofUri file.1))
      (Breakdown.ofDiagnostics file.2) (textLines [(Section.ofFile cwd file).header column]) := by
  have read := read?_line_ofFile cwd file
  have plain := plain_header column (Section.ofFile cwd file)
  have shown : (Section.ofFile cwd file).display = Path.display cwd none (Path.ofUri file.1) := rfl
  rw [shown] at plain
  generalize Path.display cwd none (Path.ofUri file.1) = path at plain ⊢
  have gap : column - Text.cells path = max column (Text.cells path) - Text.cells path := by omega
  constructor
  · refine ⟨_, (join_textLines (List.cons_ne_nil _ _)).trans ?_, read⟩
    rw [List.map_singleton, Text.join, plain, gap]
  · intro free closed
    have counts := forall_mem_plain (holds_tallyLine Text.common_ne_newline ⟨false⟩ false
      (Section.ofFile cwd file).tally)
    have whole : newline ∉ Line.plain ((Section.ofFile cwd file).header column) := by
      rw [plain, List.mem_append, List.mem_append, not_or, not_or]
      exact ⟨⟨free, List.forall_mem_ne'.mp (Text.common_ne_newline.spaces _)⟩,
        List.forall_mem_ne'.mp counts⟩
    have cells := Text.cells_append_spaces closed (column - Text.cells path + 2)
    refine ⟨_, _, (textLines_of_free whole).trans (congrArg ([·]) plain), read, ?_, fun fits => ?_⟩
    · rw [cells]
      omega
    · rw [cells]
      omega

/-! ### Diagnostics -/

theorem plain_lead_eq (width : Nat) (uri : Text) (d : Diagnostic) :
    Line.plain (Section.lead width (Entry.whole uri d)) = beforeMessage width d := by
  rw [plain_lead, beforeMessage, beforeTag, ← cells_location]
  rfl

theorem common_beforeTag {P : Nat → Prop} (common : Common P) (width : Nat) (d : Diagnostic) :
    ∀ c ∈ beforeTag width d, P c := by
  have indent : ∀ c ∈ Section.indent, P c := common.literal (by decide)
  have gutter : ∀ c ∈ Section.gutter, P c := common.literal (by decide)
  simp only [beforeTag, List.forall_mem_append]
  exact ⟨⟨⟨indent, common_toText common _⟩, common.spaces _⟩, gutter⟩

theorem common_beforeMessage {P : Nat → Prop} (common : Common P) (width : Nat) {d : Diagnostic}
    (code : ∀ c ∈ d.code, P c) : ∀ c ∈ beforeMessage width d, P c := by
  have blank : ∀ c ∈ text " ", P c := common.literal (by decide)
  have colon : ∀ c ∈ text ": ", P c := common.literal (by decide)
  simp only [beforeMessage, List.forall_mem_append]
  exact ⟨⟨⟨⟨common_beforeTag common width d, common_tag common d.severity⟩, blank⟩, code⟩, colon⟩

theorem cells_beforeTag {width : Nat} {d : Diagnostic}
    (fits : (Place.ofDiagnostic d).toText.length ≤ width) :
    Text.cells (beforeTag width d) = 4 + width := by
  have indent : Section.indent.length = 2 := rfl
  have gutter : Section.gutter.length = 2 := rfl
  rw [Text.cells_eq_length (common_beforeTag (fun _ printable => printable) width d), beforeTag,
    List.length_append, List.length_append, List.length_append, indent, gutter, Text.spaces,
    List.length_replicate]
  omega

/-- The column that messages are indented to is the one where they start. -/
theorem messageColumn_eq {width : Nat} {d : Diagnostic}
    (fits : (Place.ofDiagnostic d).toText.length ≤ width)
    (code : ∀ c ∈ d.code, 0x20 ≤ c ∧ c < 0x7F) :
    Section.messageColumn width d = Text.cells (beforeMessage width d) := by
  have ascii : Common fun c => 0x20 ≤ c ∧ c < 0x7F := fun _ printable => printable
  have tag := Text.cells_eq_length (common_tag ascii d.severity)
  have before := cells_beforeTag fits
  rw [Text.cells_eq_length (common_beforeTag ascii width d)] at before
  have indent : Text.cells Section.indent = 2 := by decide
  have gutter : Text.cells Section.gutter = 2 := by decide
  have blank : (text " ").length = 1 := rfl
  have colon : (text ": ").length = 2 := rfl
  rw [Section.messageColumn, tag, Text.cells_eq_length code, indent, gutter,
    Text.cells_eq_length (common_beforeMessage ascii width code), beforeMessage, List.length_append,
    List.length_append, List.length_append, List.length_append, before, blank, colon]
  omega

theorem textLines_entryLines (width : Nat) (uri : Text) (d : Diagnostic) :
    textLines (Section.entryLines width (Entry.whole uri d)) =
      Text.lines (beforeMessage width d ++
        messageText ⟨false⟩ d.severity (Section.messageColumn width d) d.message) := by
  have page := page_messageAfter ⟨false⟩ (Section.lead width (Entry.whole uri d)) d.severity
    (Section.messageColumn width d) d.message
  rw [Painter.line_disabled, plain_lead_eq] at page
  rw [← page, lines_plainPage (messageAfter_ne_nil _ _ _ _)]
  rfl

theorem diagnosticColumns_entryLines {width : Nat} {d : Diagnostic}
    (fits : (Place.ofDiagnostic d).toText.length ≤ width) (uri : Text) :
    DiagnosticColumns width d (textLines (Section.entryLines width (Entry.whole uri d))) where
  fits := fits
  tag := by
    have free : newline ∉ beforeTag width d ++ Section.tag d.severity :=
      List.forall_mem_ne'.mp (List.forall_mem_append.mpr
        ⟨common_beforeTag Text.common_ne_newline width d, common_tag Text.common_ne_newline d.severity⟩)
    rw [textLines_entryLines, beforeMessage, List.append_assoc, List.append_assoc, List.append_assoc]
    obtain ⟨rest, later, found⟩ := List.exists_cons_of_ne_nil (Text.split_ne_nil newline
      (text " " ++ (d.code ++ (text ": " ++
        messageText ⟨false⟩ d.severity (Section.messageColumn width d) d.message))))
    exact ⟨rest, later, Text.split_append_of_not_mem free found⟩
  tagColumn := cells_beforeTag fits
  message code := by
    have free : newline ∉ beforeMessage width d := by
      refine List.forall_mem_ne'.mp (common_beforeMessage Text.common_ne_newline width fun c mem => ?_)
      exact Text.common_ne_newline c (code c mem)
    have shown := (messageText_shown ⟨false⟩ d.severity (Section.messageColumn width d)
      d.message).reindented
    rw [messageLine_disabled] at shown
    refine ⟨_, textLines_entryLines width uri d, free, ?_⟩
    rw [← messageColumn_eq fits code]
    exact shown

/-! ### Files -/

theorem columns_fileLines (cwd : Text) (column : Nat) {file : Text × List Diagnostic}
    (some : file.2 ≠ []) : (fileLines cwd column file).Columns cwd column file where
  header := headerColumns_header cwd column file
  longest := (longestLocation_spec some).1
  diagnostics := by
    rw [fileLines, Section.wholeEntries, List.map_map, List.forall₂_map_right_iff, ← Section.wholeEntries,
      locationWidth_wholeEntries]
    refine List.forall₂_same.mpr fun d mem => diagnosticColumns_entryLines ?_ _
    exact (longestLocation_spec some).2 d ((Diagnostic.sort_perm file.2).mem_iff.mp mem)

/-! ### Reports -/

/-- In a plain report all severities of a file start at one column, all breakdowns whose paths fit at
another, and the lines of a message where its first line starts. -/
theorem rendered_columns {diagnosis : Diagnosis} (writable : diagnosis.Writable) (cwd : Text) :
    ∃ s stats, rendered ⟨false⟩ cwd diagnosis = .ok (s, stats) ∧
      AlignedLines cwd diagnosis stats (Text.lines s) := by
  refine ⟨_, _, rendered_of_writable writable ⟨false⟩ cwd, ?_⟩
  rw [lines_toText_whole, pathWidth_ofDiagnosis]
  refine ⟨(orderedFiles cwd diagnosis).map fun file =>
    (file, fileLines cwd (pathColumn cwd diagnosis) file), ?_, ?_, ?_⟩
  · rw [List.map_map]
    exact (List.map_id _).symm ▸ perm_orderedFiles cwd diagnosis
  · rw [List.forall_mem_map]
    intro file mem
    have affected := (perm_orderedFiles cwd diagnosis).mem_iff.mp mem
    exact ⟨of_fileLines cwd _ file, columns_fileLines cwd _ (mem_affected.mp affected).2⟩
  · rw [List.flatMap_map]

theorem rendered_columns_wide :
    let d (message : String) (line : Nat) (severity : Severity) : Diagnostic :=
      ⟨text "c", text message, ⟨⟨line, 0⟩, ⟨none, 1⟩⟩, severity⟩
    let diagnosis : Diagnosis := [(text "file:///%E6%97%A5.lua", [d "m\n\nn" 9 .hint, d "m" 8 .error]),
      (text "file:///work/c.lua", []), (text "file:///work/d.lua", [d "m" 0 .warning])]
    diagnosis.Writable ∧ ∃ s stats, rendered ⟨false⟩ (text "/work") diagnosis = .ok (s, stats) ∧
      AlignedLines (text "/work") diagnosis stats (Text.lines s) := by
  intro d diagnosis
  have writable : diagnosis.Writable := writable_of_small (by decide)
  exact ⟨writable, rendered_columns writable (text "/work")⟩

/-- A line feed in a path starts another line, on which the breakdown comes too early, and an open joiner
at the end of a path takes the cell of a blank. -/
theorem rendered_shifts_breakdown :
    let d : Diagnostic := ⟨text "c", text "m", ⟨⟨0, 0⟩, ⟨none, 1⟩⟩, .error⟩
    let broken : Diagnosis := [(text "file:///ab%0Ac", [d])]
    let joined : Diagnosis := [(text "file:///a%E2%80%8D", [d])]
    Path.display (text "/") none (Path.ofUri (text "file:///ab%0Ac")) = text "ab\nc" ∧
      (rendered ⟨false⟩ (text "/") broken).map (fun report => (Text.lines report.1).take 2) =
        .ok [text "ab", text "c  " ++ text "1 Error"] ∧
      Text.cells (text "c  ") ≠
        max (pathColumn (text "/") broken) (Text.cells (text "ab\nc")) + 2 ∧
      Path.display (text "/") none (Path.ofUri (text "file:///a%E2%80%8D")) = text "a\u200d" ∧
      (rendered ⟨false⟩ (text "/") joined).map (fun report => (Text.lines report.1).take 1) =
        .ok [text "a\u200d  " ++ text "1 Error"] ∧
      Text.cells (text "a\u200d  ") ≠
        max (pathColumn (text "/") joined) (Text.cells (text "a\u200d")) + 2 := by
  decide +kernel

end Report

end CheckReport

import CheckReport.Proofs.Report.Listing
import CheckReport.Proofs.Report.Visible
import CheckReport.Proofs.Terminal.Link

/-!
# Links of painted reports

Only paths and locations are links (`links_lines_whole`). So a painted report has, file by file, the link
of the path and those of the locations, each closed before the next one (`rendered_links`).
-/

namespace CheckReport.Report

open Terminal (Line Fragment Painter Style Link)

/-! ### Lines without links -/

theorem links_separated (separator : Text) (fs : List Fragment) :
    Line.links (Tally.separated separator fs) = fs.flatMap Fragment.links := by
  fun_induction Tally.separated separator fs with
  | case1 => rfl
  | case2 f => rfl
  | case3 f g rest ih =>
    rw [Line.links] at ih ⊢
    rw [List.flatMap_cons, List.flatMap_cons, ih]
    rfl

theorem links_tallyLine (alwaysPlural : Bool) (tally : Tally) :
    Line.links (tally.line alwaysPlural) = [] := by
  rw [Tally.line, links_separated, List.flatMap_map]
  exact List.flatMap_eq_nil_iff.mpr fun _ _ => rfl

theorem links_summary (stats : Stats) : Line.links stats.summary = [] := by
  unfold Stats.summary
  split
  · rfl
  · have counts := links_tallyLine true stats.perSeverity
    rw [Line.links] at counts ⊢
    rw [List.flatMap_cons, List.flatMap_cons, List.flatMap_append, counts]
    rfl

theorem links_continuation (style : Style) (column : Nat) (s : Text) :
    Line.links (continuation style column s) = [] := by
  unfold continuation
  split <;> rfl

theorem links_messageAfter (lead : Line) (style : Style) (column : Nat) (message : Text) :
    (messageAfter lead style column message).flatMap Line.links = lead.links := by
  unfold messageAfter
  split
  · exact List.flatMap_singleton _ _
  · next first rest _ =>
    have later : (rest.map (continuation style column)).flatMap Line.links = [] := by
      rw [List.flatMap_map]
      exact List.flatMap_eq_nil_iff.mpr fun s _ => links_continuation style column s
    rw [List.flatMap_cons, later, List.append_nil, Line.links, Line.links, List.flatMap_append]
    exact List.append_nil _

/-! ### Lines with links -/

theorem links_header (width : Nat) (s : Section) :
    Line.links (s.header width) = [⟨s.uri, s.display⟩] := by
  have counts := links_tallyLine false s.tally
  rw [Line.links] at counts ⊢
  rw [Section.header, List.flatMap_cons, List.flatMap_cons, List.flatMap_cons, counts]
  rfl

theorem links_entryLines (width : Nat) (uri : Text) (d : Diagnostic) :
    (Section.entryLines width (Entry.whole uri d)).flatMap Line.links = [diagnosticLink uri d] := by
  have target : (Entry.whole uri d).target = (diagnosticLink uri d).target := by
    simp [Entry.whole, diagnosticLink, Place.startText, Place.ofDiagnostic]
  have lead : Line.links (Section.lead width (Entry.whole uri d)) =
      [⟨(Entry.whole uri d).target, (Place.ofDiagnostic d).toText⟩] := rfl
  rw [Section.entryLines, links_messageAfter, lead, target]
  rfl

theorem links_wholeLines (cwd : Text) (width : Nat) (file : Text × List Diagnostic) :
    ((Section.ofFile cwd file).wholeLines width).flatMap Line.links = fileLinks cwd file := by
  have entries : (Section.ofFile cwd file).entriesLines.flatMap Line.links =
      (Diagnostic.sort file.2).map (diagnosticLink file.1) := by
    simp only [Section.entriesLines, Section.wholeEntries, List.flatMap_assoc, List.flatMap_map,
      links_entryLines]
    exact List.map_eq_flatMap.symm
  rw [Section.wholeLines, List.flatMap_cons, links_header, entries]
  rfl

/-- A report links the files in order, each followed by its diagnostics. -/
theorem links_lines_whole (cwd : Text) (diagnosis : Diagnosis) :
    (whole cwd diagnosis).lines.flatMap Line.links =
      (orderedFiles cwd diagnosis).flatMap (fileLinks cwd) := by
  have summary := links_summary (whole cwd diagnosis).stats
  have blank : Line.links [] = [] := rfl
  rw [lines_whole_eq_flatMap, List.flatMap_append, List.flatMap_singleton, summary, List.append_nil,
    List.flatMap_assoc]
  simp only [List.flatMap_append, links_wholeLines, List.flatMap_singleton, blank, List.append_nil]

theorem target_ne_nil {cwd : Text} {file : Text × List Diagnostic} (named : file.1 ≠ []) :
    ∀ link ∈ fileLinks cwd file, link.target ≠ [] := by
  rw [fileLinks, List.forall_mem_cons, List.forall_mem_map]
  exact ⟨named, fun d _ => by simp [diagnosticLink, named]⟩

/-! ### Order -/

theorem not_fileBefore_of_le {cwd : Text} {a b : Text × List Diagnostic}
    (le : (Section.ofFile cwd a).le (Section.ofFile cwd b) = true) : ¬FileBefore b a := by
  obtain ⟨paths, uris⟩ := Section.le_iff.mp le
  rintro (less | ⟨same, less⟩)
  · exact Text.not_lt_of_le paths less
  · exact Text.not_lt_of_le (uris same.symm) less

theorem orderedFiles_inOrder (cwd : Text) (diagnosis : Diagnosis) :
    (orderedFiles cwd diagnosis).Pairwise fun earlier later => ¬FileBefore later earlier := by
  have sorted := Section.pairwise_ofDiagnosis cwd diagnosis
  rw [← map_ofFile_orderedFiles, List.pairwise_map] at sorted
  exact sorted.imp not_fileBefore_of_le

/-! ### Reports -/

/-- In a painted report all links are closed, each before the next one is opened. Their targets are the
URI of each file in order, each followed by the places of its diagnostics in order, and their texts the
path and the locations that are shown. -/
theorem rendered_links {diagnosis : Diagnosis} (free : diagnosis.EscapeFree)
    (named : ∀ file ∈ diagnosis, file.1 ≠ []) (writable : diagnosis.Writable) (cwd : Text) :
    ∃ s stats files, rendered ⟨true⟩ cwd diagnosis = .ok (s, stats) ∧
      LinksFiles cwd diagnosis files s := by
  refine ⟨_, _, orderedFiles cwd diagnosis, rendered_of_writable writable ⟨true⟩ cwd, ?_⟩
  have targets : ∀ link ∈ (orderedFiles cwd diagnosis).flatMap (fileLinks cwd), link.target ≠ [] := by
    rw [List.forall_mem_flatMap]
    intro file mem
    have affected := (perm_orderedFiles cwd diagnosis).mem_iff.mp mem
    exact target_ne_nil (named file (mem_affected.mp affected).1)
  have found : Terminal.links? ((whole cwd diagnosis).toText ⟨true⟩) =
      some ((orderedFiles cwd diagnosis).flatMap (fileLinks cwd)) := by
    rw [← links_lines_whole] at targets ⊢
    exact Terminal.links?_page (escapeFree_whole free cwd) targets
  exact ⟨perm_orderedFiles cwd diagnosis, orderedFiles_inOrder cwd diagnosis, found,
    Link.targets_of_ofTokens? found⟩

theorem rendered_links_two :
    let d (line : Nat) (stopLine : Option Nat) : Diagnostic :=
      ⟨text "c", text "m\nn", ⟨⟨line, 4⟩, ⟨stopLine, 1⟩⟩, .hint⟩
    let diagnosis : Diagnosis := [(text "file:///work/b.lua", [d 3 (some 4), d 0 none]),
      (text "file:///c", []), (text "file:///work/a%20b.lua", [d 3 none])]
    diagnosis.EscapeFree ∧ (∀ file ∈ diagnosis, file.1 ≠ []) ∧ diagnosis.Writable ∧
      ∃ s stats files, rendered ⟨true⟩ (text "/work") diagnosis = .ok (s, stats) ∧
        LinksFiles (text "/work") diagnosis files s := by
  intro d diagnosis
  have free : diagnosis.EscapeFree := by
    constructor
    · decide
    · decide +kernel
    · decide
    · decide
  have named : ∀ file ∈ diagnosis, file.1 ≠ [] := by decide
  have writable : diagnosis.Writable := writable_of_small (by decide)
  exact ⟨free, named, writable, rendered_links free named writable (text "/work")⟩

end CheckReport.Report

import CheckReport.Proofs.Report.Lines
import CheckReport.Proofs.Report.Rearranged

/-!
# Reports from different directories

The order of the files, the numbers and the lines of the diagnostics do not depend on the directory that
paths are shown from, and the lines of a file do not depend on the others (`rendered_from_anywhere`).
-/

namespace CheckReport.Report

open Terminal (Line Painter)

/-! ### Order -/

-- Neither the order of the files nor what is counted takes the displayed paths.
theorem orderedFiles_anywhere (cwd other : Text) (diagnosis : Diagnosis) :
    orderedFiles cwd diagnosis = orderedFiles other diagnosis :=
  rfl

theorem fileBefore_of_le {cwd : Text} {a b : Text × List Diagnostic}
    (le : (Section.ofFile cwd a).le (Section.ofFile cwd b) = true) (other : a.1 ≠ b.1) :
    FileBefore a b := by
  obtain ⟨paths, uris⟩ := Section.le_iff.mp le
  by_cases same : Path.ofUri a.1 = Path.ofUri b.1
  · exact .inr ⟨same, Text.lt_of_le_of_ne (uris same) other⟩
  · exact .inl (Text.lt_of_le_of_ne paths same)

theorem nodup_orderedFiles {diagnosis : Diagnosis} (distinct : diagnosis.Distinct) (cwd : Text) :
    (orderedFiles cwd diagnosis).Pairwise fun a b => a.1 ≠ b.1 := by
  have affected : (diagnosis.affected.map Prod.fst).Nodup :=
    distinct.sublist (List.filter_sublist.map Prod.fst)
  exact List.pairwise_map.mp (((perm_orderedFiles cwd diagnosis).map Prod.fst).nodup_iff.mpr affected)

theorem pairwise_orderedFiles {diagnosis : Diagnosis} (distinct : diagnosis.Distinct) (cwd : Text) :
    (orderedFiles cwd diagnosis).Pairwise FileBefore := by
  have sorted := Section.pairwise_ofDiagnosis cwd diagnosis
  rw [← map_ofFile_orderedFiles, List.pairwise_map] at sorted
  exact (sorted.and (nodup_orderedFiles distinct cwd)).imp fun both => fileBefore_of_le both.1 both.2

/-! ### Numbers -/

theorem statsOf_anywhere (cwd other : Text) (diagnosis : Diagnosis) :
    statsOf (Section.ofDiagnosis cwd diagnosis) = statsOf (Section.ofDiagnosis other diagnosis) := by
  have counted (here : Text) (files : Diagnosis) : totals (files.map (Section.ofFile here)) =
      files.foldl (fun (totals : Tally) file =>
        totals.plus (Tally.ofDiagnostics (Diagnostic.sort file.2))) [] :=
    List.foldl_map
  rw [← map_ofFile_orderedFiles cwd, ← map_ofFile_orderedFiles other, orderedFiles_anywhere cwd other]
  simp only [statsOf, counted, List.length_map]

theorem Tally.line_congr {first second : Tally}
    (same : ∀ severity, first.count severity = second.count severity) (alwaysPlural : Bool) :
    first.line alwaysPlural = second.line alwaysPlural := by
  unfold Tally.line Tally.positive
  simp only [same]

theorem line_tally_ofFile (cwd : Text) (file : Text × List Diagnostic) (alwaysPlural : Bool) :
    (Section.ofFile cwd file).tally.line alwaysPlural =
      (Tally.ofDiagnostics file.2).line alwaysPlural := by
  refine Tally.line_congr (fun severity => ?_) alwaysPlural
  rw [count_tally_ofFile, Tally.count_ofDiagnostics]

/-! ### Lines -/

theorem line_header_ofFile (painter : Painter) (cwd : Text) (width : Nat)
    (file : Text × List Diagnostic) :
    painter.line ((Section.ofFile cwd file).header width) = headerText painter cwd width file := by
  rw [line_header, line_tally_ofFile]
  rfl

theorem writtenLines_append (painter : Painter) (ls later : List Line) :
    writtenLines painter (ls ++ later) = writtenLines painter ls ++ writtenLines painter later :=
  List.flatMap_append

theorem writtenLines_flatMap {α : Type} (painter : Painter) (f : α → List Line) (as : List α) :
    writtenLines painter (as.flatMap f) = as.flatMap fun a => writtenLines painter (f a) :=
  List.flatMap_assoc

/-- The lines for a file: those of the header, its own, and a blank one. -/
theorem writtenLines_wholeLines (painter : Painter) (cwd : Text) (width : Nat)
    (file : Text × List Diagnostic) :
    writtenLines painter ((Section.ofFile cwd file).wholeLines width ++ [[]]) =
      FileLines.all ⟨Text.lines (headerText painter cwd width file), ownLines painter file⟩ := by
  have header : writtenLines painter [(Section.ofFile cwd file).header width] =
      Text.lines (painter.line ((Section.ofFile cwd file).header width)) :=
    List.flatMap_singleton _ _
  rw [Section.wholeLines, ← List.singleton_append, writtenLines_append, writtenLines_append, header,
    line_header_ofFile, Section.entriesLines, writtenLines_flatMap, List.flatMap_def]
  rfl

theorem ownLines_diagnosticLines (file : Text × List Diagnostic) :
    List.Forall₂ DiagnosticLines (Diagnostic.sort file.2) (ownLines ⟨false⟩ file) := by
  rw [ownLines, List.map_map, List.forall₂_map_right_iff]
  simp only [Function.comp, writtenLines_disabled]
  exact List.forall₂_same.mpr fun d _ => diagnosticLines_entryLines _ _ d

theorem lines_toText_written (painter : Painter) (cwd : Text) (diagnosis : Diagnosis) :
    Text.lines ((whole cwd diagnosis).toText painter) =
      (orderedFiles cwd diagnosis).flatMap (fun file => FileLines.all
          ⟨Text.lines (headerText painter cwd
            (Section.pathWidth (Section.ofDiagnosis cwd diagnosis)) file), ownLines painter file⟩) ++
        Text.lines (painter.line (whole cwd diagnosis).stats.summary) := by
  have summary (l : Line) : writtenLines painter [l] = Text.lines (painter.line l) :=
    List.flatMap_singleton _ _
  rw [toText, lines_page painter (lines_whole_ne_nil cwd diagnosis), lines_whole_eq_flatMap,
    writtenLines_append, writtenLines_flatMap, summary]
  simp only [writtenLines_wholeLines]

/-! ### Reports -/

/-- A diagnosis is reported as the same files in the same order from every directory, and what is
reported of a file is the same beside any others, but for the path and the blanks in its header. -/
theorem rendered_from_anywhere {diagnosis : Diagnosis} (distinct : diagnosis.Distinct) :
    ∃ files stats, Listed diagnosis files stats := by
  refine ⟨orderedFiles [] diagnosis, statsOf (Section.ofDiagnosis [] diagnosis),
    perm_orderedFiles [] diagnosis, pairwise_orderedFiles distinct [],
    fun file _ => ownLines_diagnosticLines file, ?_, ?_⟩
  · intro writable painter cwd
    have made : ofDiagnosis cwd diagnosis = .ok (whole cwd diagnosis) :=
      ofDiagnosis_eq_ok_iff.mpr ⟨writable, rfl⟩
    rw [rendered, made, statsOf_anywhere [] cwd, orderedFiles_anywhere [] cwd]
    exact ⟨_, _, rfl, lines_toText_written painter cwd diagnosis⟩
  · intro unwritable painter cwd
    rw [rendered]
    cases made : ofDiagnosis cwd diagnosis with
    | error fault => rfl
    | ok report => exact absurd (ofDiagnosis_eq_ok_iff.mp made).1 unwritable

theorem rendered_from_anywhere_two :
    let d (code : String) : Diagnostic :=
      ⟨text code, text "m\nn", ⟨⟨0, 0⟩, ⟨none, 1⟩⟩, .error⟩
    let diagnosis : Diagnosis := [(text "file:///work/b", [d "p", d "q"]), (text "file:///c", []),
      (text "file:///work/%2Da", [d "p"])]
    diagnosis.Distinct ∧ diagnosis.Writable ∧ ∃ files stats, Listed diagnosis files stats ∧
      ∃ inside outside, rendered ⟨false⟩ (text "/work") diagnosis = .ok (inside, stats) ∧
        rendered ⟨false⟩ (text "/other/place") diagnosis = .ok (outside, stats) := by
  intro d diagnosis
  have distinct : diagnosis.Distinct := by
    unfold Diagnosis.Distinct
    decide
  have one := Text.one_lt_numberLimit
  have writable : diagnosis.Writable := by
    intro x mem
    have range : x.range = ⟨⟨0, 0⟩, ⟨none, 1⟩⟩ := by
      simp only [diagnosis, d, Diagnosis.diagnostics, List.flatMap_cons, List.flatMap_nil,
        List.cons_append, List.nil_append, List.mem_cons, List.not_mem_nil, or_false] at mem
      rcases mem with rfl | rfl | rfl <;> rfl
    rw [Place.writable_iff]
    simp [Place.ofDiagnostic, range, one]
  obtain ⟨files, stats, listed⟩ := rendered_from_anywhere distinct
  obtain ⟨inside, _, first, _⟩ := listed.reported writable ⟨false⟩ (text "/work")
  obtain ⟨outside, _, second, _⟩ := listed.reported writable ⟨false⟩ (text "/other/place")
  exact ⟨distinct, writable, files, stats, listed, inside, outside, first, second⟩

end CheckReport.Report

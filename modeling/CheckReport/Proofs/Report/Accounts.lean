import CheckReport.Proofs.Report.Breakdown
import CheckReport.Proofs.Report.Tally

/-!
# Reports account for their diagnoses

The numbers of a report, the headers and the summary all agree with the diagnosis
(`ofDiagnosis_accounts`).
-/

namespace CheckReport.Report

open Breakdown (occurrences)
open Terminal (Line Fragment Painter)

/-! ### Files in the order of a report -/

/-- The files with diagnostics as a report orders them. -/
def orderedFiles (cwd : Text) (diagnosis : Diagnosis) : Diagnosis :=
  diagnosis.affected.mergeSort fun a b => (Section.ofFile cwd a).le (Section.ofFile cwd b)

theorem perm_orderedFiles (cwd : Text) (diagnosis : Diagnosis) :
    (orderedFiles cwd diagnosis).Perm diagnosis.affected :=
  List.mergeSort_perm _ _

theorem map_ofFile_orderedFiles (cwd : Text) (diagnosis : Diagnosis) :
    (orderedFiles cwd diagnosis).map (Section.ofFile cwd) = Section.ofDiagnosis cwd diagnosis :=
  List.map_mergeSort fun _ _ _ _ => rfl

theorem perm_diagnostics_ofFile (cwd : Text) (file : Text × List Diagnostic) :
    (Section.ofFile cwd file).diagnostics.Perm file.2 :=
  List.mergeSort_perm _ _

theorem count_tally_ofFile (cwd : Text) (file : Text × List Diagnostic) (severity : Severity) :
    (Section.ofFile cwd file).tally.count severity = occurrences file.2 severity := by
  rw [Section.tally, Tally.count_ofDiagnostics]
  exact congrArg Int.ofNat ((perm_diagnostics_ofFile cwd file).countP_eq _)

theorem total_tally_ofFile (cwd : Text) (file : Text × List Diagnostic) :
    (Section.ofFile cwd file).tally.total = file.2.length := by
  rw [Section.tally, Tally.total_ofDiagnostics, (perm_diagnostics_ofFile cwd file).length_eq]

/-! ### Diagnostics of files -/

theorem occurrences_diagnostics (files : Diagnosis) (severity : Severity) :
    occurrences files.diagnostics severity =
      files.foldr (fun file n => occurrences file.2 severity + n) 0 := by
  unfold Diagnosis.diagnostics
  induction files with
  | nil => rfl
  | cons file files ih =>
    rw [List.flatMap_cons, occurrences, List.countP_append, List.foldr_cons, ← ih]
    rfl

theorem length_diagnostics (files : Diagnosis) :
    files.diagnostics.length = files.foldr (fun file n => file.2.length + n) 0 := by
  unfold Diagnosis.diagnostics
  induction files with
  | nil => rfl
  | cons file files ih => rw [List.flatMap_cons, List.length_append, List.foldr_cons, ih]

theorem affected_eq (diagnosis : Diagnosis) :
    diagnosis.affected = diagnosis.filter fun file => file.2 ≠ [] := by
  refine List.filter_congr fun file _ => ?_
  cases file.2 <;> rfl

theorem diagnostics_affected (diagnosis : Diagnosis) :
    diagnosis.affected.diagnostics = diagnosis.diagnostics := by
  unfold Diagnosis.affected Diagnosis.diagnostics
  induction diagnosis with
  | nil => rfl
  | cons file rest ih =>
    cases h : file.2 with
    | nil => simp [h, ih]
    | cons d ds => simp [h, ih]

theorem perm_diagnostics_orderedFiles (cwd : Text) (diagnosis : Diagnosis) :
    (orderedFiles cwd diagnosis).diagnostics.Perm diagnosis.diagnostics := by
  rw [← diagnostics_affected diagnosis]
  exact (perm_orderedFiles cwd diagnosis).flatMap_right _

/-! ### Totals -/

theorem foldr_ofFile {cwd : Text} {f : Section → Int} {g : Text × List Diagnostic → Nat}
    (same : ∀ file, f (Section.ofFile cwd file) = g file) (files : Diagnosis) :
    (files.map (Section.ofFile cwd)).foldr (fun s n => f s + n) 0 =
      (files.foldr (fun file n => g file + n) 0 : Nat) := by
  induction files with
  | nil => rfl
  | cons file files ih =>
    rw [List.map_cons, List.foldr_cons, List.foldr_cons, ih, same]
    rfl

theorem count_totals_ofDiagnosis (cwd : Text) (diagnosis : Diagnosis) (severity : Severity) :
    (totals (Section.ofDiagnosis cwd diagnosis)).count severity =
      occurrences diagnosis.diagnostics severity := by
  have each (file : Text × List Diagnostic) := count_tally_ofFile cwd file severity
  rw [count_totals, ← map_ofFile_orderedFiles, foldr_ofFile each, ← occurrences_diagnostics]
  exact congrArg Int.ofNat ((perm_diagnostics_orderedFiles cwd diagnosis).countP_eq _)

theorem total_totals_ofDiagnosis (cwd : Text) (diagnosis : Diagnosis) :
    (totals (Section.ofDiagnosis cwd diagnosis)).total = diagnosis.diagnostics.length := by
  rw [total_totals, ← map_ofFile_orderedFiles, foldr_ofFile (total_tally_ofFile cwd),
    ← length_diagnostics]
  exact congrArg Int.ofNat (perm_diagnostics_orderedFiles cwd diagnosis).length_eq

/-! ### Breakdowns -/

theorem ofTally_eq {tally : Tally} {ds : List Diagnostic}
    (count : ∀ severity, tally.count severity = occurrences ds severity) :
    Breakdown.ofTally tally = Breakdown.ofDiagnostics ds := by
  unfold Breakdown.ofTally Breakdown.ofDiagnostics Tally.positive
  simp only [count, Int.toNat_natCast]
  refine congrArg _ (List.filter_congr fun severity _ => ?_)
  rw [decide_eq_decide]
  omega

theorem number_ofDiagnostics (ds : List Diagnostic) (severity : Severity) :
    (Breakdown.ofDiagnostics ds).number severity = occurrences ds severity := by
  unfold Breakdown.number Breakdown.ofDiagnostics
  rw [List.find?_map, List.find?_filter, Option.map_map]
  by_cases absent : occurrences ds severity = 0
  · cases severity <;> simp [Severity.all, absent]
  · cases severity <;> simp [Severity.all, absent]

theorem total_map_filter (f : Severity → Nat) (all : List Severity) :
    Breakdown.total ((all.filter fun severity => f severity ≠ 0).map fun severity =>
      (severity, f severity)) = all.foldr (fun severity n => f severity + n) 0 := by
  induction all with
  | nil => rfl
  | cons severity all ih =>
    by_cases zero : f severity = 0
    · simpa [zero] using ih
    · simpa [zero, Breakdown.total] using ih

theorem sum_occurrences (ds : List Diagnostic) :
    Severity.all.foldr (fun severity n => occurrences ds severity + n) 0 = ds.length := by
  simp only [Severity.all, List.foldr_cons, List.foldr_nil]
  induction ds with
  | nil => rfl
  | cons d ds ih =>
    simp only [occurrences, List.countP_cons, List.length_cons] at ih ⊢
    cases d.severity <;> simp <;> omega

theorem total_ofDiagnostics_eq (ds : List Diagnostic) :
    (Breakdown.ofDiagnostics ds).total = ds.length := by
  rw [Breakdown.ofDiagnostics, total_map_filter, sum_occurrences]

/-! ### Numbers -/

theorem mem_levels {cwd : Text} {diagnosis : Diagnosis} {severity : Severity} :
    severity ∈ (totals (Section.ofDiagnosis cwd diagnosis)).map (·.1) ↔
      ∃ d ∈ diagnosis.diagnostics, d.severity = severity := by
  rw [← Tally.count_pos_iff (tidy_totals _), count_totals_ofDiagnosis, Int.natCast_pos, occurrences,
    List.countP_pos_iff]
  simp

theorem get_eq (stats : Stats) (severity : Severity) :
    stats.get (.int severity.rank) = .ok (stats.perSeverity.count severity) := by
  rw [Stats.get, Severity.ofValue, Severity.ofRank?_rank]
  rfl

theorem statsOf_account (cwd : Text) (diagnosis : Diagnosis) :
    (statsOf (Section.ofDiagnosis cwd diagnosis)).Account diagnosis where
  files := by
    rw [statsOf, ← map_ofFile_orderedFiles, List.length_map,
      (perm_orderedFiles cwd diagnosis).length_eq, affected_eq]
  total := by
    rw [statsOf, total_totals_ofDiagnosis, length_diagnostics]
  sum := rfl
  get severity := by
    rw [get_eq, statsOf, count_totals_ofDiagnosis]
  occurs severity := mem_levels
  byRank := by
    rw [List.pairwise_map]
    exact (tidy_totals _).byRank

/-! ### Lines -/

theorem line_header (painter : Painter) (width : Nat) (s : Section) :
    painter.line (s.header width) =
      painter.link s.uri (painter.paint (.ofColor .blue) s.display) ++
        Text.spaces (width - Text.cells s.display + 2) ++ painter.line (s.tally.line false) := by
  have gap : Text.spaces (width - Text.cells s.display + 2) =
      Text.spaces (width - Text.cells s.display) ++ Section.gutter :=
    List.replicate_append_replicate.symm
  have path : painter.fragment
      { text := s.display, style := .ofColor .blue, target := some s.uri } =
      painter.link s.uri (painter.paint (.ofColor .blue) s.display) := rfl
  simp only [Section.header, Section.padding, Painter.line, List.flatMap_cons,
    Painter.fragment_plain, path, gap, List.append_assoc]

theorem plain_header (width : Nat) (s : Section) :
    Line.plain (s.header width) =
      s.display ++ Text.spaces (width - Text.cells s.display + 2) ++ Line.plain (s.tally.line false) := by
  have line := line_header ⟨false⟩ width s
  rwa [Painter.line_disabled, Painter.line_disabled] at line

/-- The breakdown in the header of a file is read as that of its diagnostics. -/
theorem read?_line_ofFile (cwd : Text) (file : Text × List Diagnostic) :
    Breakdown.read? (Line.plain ((Section.ofFile cwd file).tally.line false)) =
      some (Breakdown.ofDiagnostics file.2) := by
  rw [Breakdown.read?_line, ofTally_eq (count_tally_ofFile cwd file)]

theorem heads_wholeLines (cwd : Text) (width : Nat) (file : Text × List Diagnostic) :
    Heads cwd file ((Section.ofFile cwd file).wholeLines width) :=
  ⟨_, _, _, _, rfl, plain_header width _, read?_line_ofFile cwd file⟩

theorem orderedFiles_eq_nil_iff {cwd : Text} {diagnosis : Diagnosis} :
    orderedFiles cwd diagnosis = [] ↔ diagnosis.diagnostics = [] := by
  rw [← List.length_eq_zero_iff, (perm_orderedFiles cwd diagnosis).length_eq,
    List.length_eq_zero_iff]
  simp [Diagnosis.affected, Diagnosis.diagnostics, List.filter_eq_nil_iff]

theorem total_eq_zero_iff {cwd : Text} {diagnosis : Diagnosis} :
    (statsOf (Section.ofDiagnosis cwd diagnosis)).total = 0 ↔ diagnosis.diagnostics = [] := by
  rw [statsOf, total_totals_ofDiagnosis, Int.natCast_eq_zero, List.length_eq_zero_iff]

theorem plain_summary {stats : Stats} (some : stats.total ≠ 0) :
    Line.plain stats.summary = text "Total " ++ Text.ofInt stats.total ++ text ": " ++
      Line.plain (stats.perSeverity.line true) ++ text " in " ++ Text.ofInt stats.files ++
        text " files" := by
  simp [Stats.summary, some, Line.plain, Fragment.plain]

theorem plain_summary_clean {stats : Stats} (none : stats.total = 0) :
    Line.plain stats.summary = text "Diagnosis completed, no problems found" := by
  simp [Stats.summary, none, Line.plain, Fragment.plain]

theorem sums_summary (cwd : Text) (diagnosis : Diagnosis) :
    Sums (orderedFiles cwd diagnosis)
      (Line.plain (statsOf (Section.ofDiagnosis cwd diagnosis)).summary) := by
  have all := perm_diagnostics_orderedFiles cwd diagnosis
  by_cases none : diagnosis.diagnostics = []
  · rw [plain_summary_clean (total_eq_zero_iff.mpr none)]
    exact .none (orderedFiles_eq_nil_iff.mpr none)
  · have total : (statsOf (Section.ofDiagnosis cwd diagnosis)).total =
        ((Breakdown.ofDiagnostics (orderedFiles cwd diagnosis).diagnostics).total : Nat) := by
      rw [statsOf, total_totals_ofDiagnosis, total_ofDiagnostics_eq, all.length_eq]
    have files : (statsOf (Section.ofDiagnosis cwd diagnosis)).files =
        ((orderedFiles cwd diagnosis).length : Nat) := by
      rw [statsOf, ← map_ofFile_orderedFiles, List.length_map]
    have counts : Breakdown.ofTally (totals (Section.ofDiagnosis cwd diagnosis)) =
        Breakdown.ofDiagnostics (orderedFiles cwd diagnosis).diagnostics := by
      refine ofTally_eq fun severity => ?_
      rw [count_totals_ofDiagnosis]
      exact congrArg Int.ofNat (all.countP_eq _).symm
    rw [plain_summary (mt total_eq_zero_iff.mp none), total, files]
    refine Sums.some ?_ (fun severity => ?_) rfl
    · rw [Breakdown.read?_line]
      exact congrArg some counts
    · simp only [number_ofDiagnostics, occurrences_diagnostics]

theorem plain_summary_eq_iff {stats : Stats} :
    Line.plain stats.summary = text "Diagnosis completed, no problems found" ↔ stats.total = 0 := by
  constructor
  · intro same
    refine Classical.byContradiction fun some => ?_
    rw [plain_summary some] at same
    have first := congrArg List.head? same
    cases first
  · exact plain_summary_clean

theorem lines_whole (cwd : Text) (diagnosis : Diagnosis) :
    (whole cwd diagnosis).lines =
      separateBlocks ((orderedFiles cwd diagnosis).map fun file =>
        (Section.ofFile cwd file).wholeLines
          (Section.pathWidth (Section.ofDiagnosis cwd diagnosis))) ++
        closing (statsOf (Section.ofDiagnosis cwd diagnosis)) := by
  simp only [whole, ← map_ofFile_orderedFiles, List.map_map]
  rfl

theorem getLast?_lines_whole (cwd : Text) (diagnosis : Diagnosis) :
    (whole cwd diagnosis).lines.getLast? =
      some (statsOf (Section.ofDiagnosis cwd diagnosis)).summary := by
  rw [lines_whole, closing]
  split <;> simp

theorem whole_linesAccount (cwd : Text) (diagnosis : Diagnosis) :
    LinesAccount cwd (whole cwd diagnosis).lines diagnosis where
  blocks := by
    refine ⟨(orderedFiles cwd diagnosis).map fun file => (file, (Section.ofFile cwd file).wholeLines
      (Section.pathWidth (Section.ofDiagnosis cwd diagnosis))),
      (statsOf (Section.ofDiagnosis cwd diagnosis)).summary, ?_, ?_, ?_, ?_⟩
    · rw [List.map_map, ← affected_eq]
      exact (List.map_id _).symm ▸ perm_orderedFiles cwd diagnosis
    · rw [List.forall_mem_map]
      exact fun file _ => heads_wholeLines cwd _ file
    · rw [List.map_map]
      exact (List.map_id _).symm ▸ sums_summary cwd diagnosis
    · simp only [lines_whole, closing, List.map_map, List.map_eq_nil_iff, orderedFiles_eq_nil_iff,
        total_eq_zero_iff]
      rfl
  clean := by
    rw [getLast?_lines_whole, Option.map_some, Option.some.injEq, plain_summary_eq_iff,
      total_eq_zero_iff]

/-- The numbers, the headers and the summary of a report account for the diagnosis: all of them give
what a recount of the diagnosis gives, and no problems are found just where there is no diagnostic. -/
theorem ofDiagnosis_accounts {cwd : Text} {diagnosis : Diagnosis} {report : Report}
    (made : ofDiagnosis cwd diagnosis = .ok report) :
    report.stats.Account diagnosis ∧ LinesAccount cwd report.lines diagnosis := by
  obtain ⟨_, rfl⟩ := ofDiagnosis_eq_ok_iff.mp made
  exact ⟨statsOf_account cwd diagnosis, whole_linesAccount cwd diagnosis⟩

theorem ofDiagnosis_accounts_mixed :
    let d (severity : Severity) : Diagnostic := ⟨text "c", text "m", ⟨⟨0, 0⟩, ⟨none, 1⟩⟩, severity⟩
    let diagnosis : Diagnosis := [(text "file:///b", [d .warning, d .error, d .warning]),
      (text "file:///c", []), (text "file:///a", [d .hint])]
    ofDiagnosis (text "/") diagnosis = .ok (whole (text "/") diagnosis) ∧
      (whole (text "/") diagnosis).stats.Account diagnosis ∧
      LinesAccount (text "/") (whole (text "/") diagnosis).lines diagnosis := by
  intro d diagnosis
  have one := Text.one_lt_numberLimit
  have made : ofDiagnosis (text "/") diagnosis = .ok (whole (text "/") diagnosis) := by
    refine ofDiagnosis_eq_ok_iff.mpr ⟨fun x mem => ?_, rfl⟩
    have range : x.range = ⟨⟨0, 0⟩, ⟨none, 1⟩⟩ := by
      simp only [diagnosis, d, Diagnosis.diagnostics, List.flatMap_cons, List.flatMap_nil,
        List.cons_append, List.nil_append, List.mem_cons, List.not_mem_nil, or_false] at mem
      rcases mem with rfl | rfl | rfl | rfl <;> rfl
    rw [Place.writable_iff]
    simp [Place.ofDiagnostic, range, one]
  exact ⟨made, ofDiagnosis_accounts made⟩

end CheckReport.Report

import CheckReport.Proofs.Text.Numeral
import CheckReport.Validation
import CheckReport.Report.Whole

/-!
# Reports and whole reports

A report is the whole report just where all numbers can be written (`ofDiagnosis_eq_ok_iff`); else
there is none.
-/

namespace CheckReport

namespace Report

open Terminal (Line)
open Validation (bind_eq_ok mapM_eq_ok_iff)

/-! ### Locations -/

theorem numeral_eq_ok_iff {n : Nat} {t : Text} :
    numeral n = .ok t ↔ n < Text.numberLimit ∧ t = Text.ofNat n := by
  rw [← Text.length_ofNat_le_iff]
  simp only [numeral]
  split
  · next long => simp [Nat.not_le.mpr long]
  · next short => simp [Nat.le_of_not_lt short, eq_comm]

theorem startText_eq_ok_iff {d : Diagnostic} {t : Text} :
    startText d.range = .ok t ↔
      ((Place.ofDiagnostic d).line < Text.numberLimit ∧
        (Place.ofDiagnostic d).column < Text.numberLimit) ∧
      t = (Place.ofDiagnostic d).startText := by
  simp only [startText, bind_eq_ok, numeral_eq_ok_iff, pure, Except.pure, Except.ok.injEq,
    Place.startText, Place.ofDiagnostic]
  constructor
  · intro given
    obtain ⟨_, ⟨line, rfl⟩, _, ⟨column, rfl⟩, rfl⟩ := given
    exact ⟨⟨line, column⟩, rfl⟩
  · intro given
    obtain ⟨⟨line, column⟩, rfl⟩ := given
    exact ⟨_, ⟨line, rfl⟩, _, ⟨column, rfl⟩, rfl⟩

theorem stopText_eq_ok_iff {d : Diagnostic} {t : Text} :
    stopText d.range = .ok t ↔
      ((∀ n ∈ (Place.ofDiagnostic d).stopLine, n < Text.numberLimit) ∧
        (Place.ofDiagnostic d).stopColumn < Text.numberLimit) ∧
      t = (Place.ofDiagnostic d).stopText := by
  unfold stopText Place.stopText Place.ofDiagnostic
  cases d.range.stop.line with
  | none => simp [numeral_eq_ok_iff]
  | some line =>
    by_cases same : line = d.range.start.line
    · simp [same, numeral_eq_ok_iff, Option.filter]
    · simp only [same, if_false, bind_eq_ok, numeral_eq_ok_iff, pure, Except.pure, Except.ok.injEq,
        Option.filter, ne_eq, not_false_eq_true, decide_true, if_true, Option.map_some,
        Option.mem_some, forall_eq']
      constructor
      · intro given
        obtain ⟨_, ⟨first, rfl⟩, _, ⟨second, rfl⟩, rfl⟩ := given
        exact ⟨⟨first, second⟩, rfl⟩
      · intro given
        obtain ⟨⟨first, second⟩, rfl⟩ := given
        exact ⟨_, ⟨first, rfl⟩, _, ⟨second, rfl⟩, rfl⟩

theorem Place.writable_iff {p : Place} :
    p.Writable ↔ (p.line < Text.numberLimit ∧ p.column < Text.numberLimit) ∧
      (∀ n ∈ p.stopLine, n < Text.numberLimit) ∧ p.stopColumn < Text.numberLimit := by
  simp only [Writable, numbers, List.forall_mem_append, List.forall_mem_cons, Option.mem_toList,
    Option.mem_def, List.not_mem_nil, false_implies, implies_true, and_true, and_assoc]

theorem locationText_eq_ok_iff {d : Diagnostic} {t : Text} :
    locationText d = .ok t ↔
      (Place.ofDiagnostic d).Writable ∧ t = (Place.ofDiagnostic d).toText := by
  simp only [locationText, bind_eq_ok, startText_eq_ok_iff, stopText_eq_ok_iff, pure, Except.pure,
    Except.ok.injEq, Place.writable_iff]
  constructor
  · intro given
    obtain ⟨_, ⟨first, rfl⟩, _, ⟨second, rfl⟩, rfl⟩ := given
    exact ⟨⟨first, second⟩, rfl⟩
  · intro given
    obtain ⟨⟨first, second⟩, rfl⟩ := given
    exact ⟨_, ⟨first, rfl⟩, _, ⟨second, rfl⟩, rfl⟩

/-! ### Sections -/

theorem entry_eq_ok_iff {uri : Text} {d : Diagnostic} {e : Entry} :
    Section.entry uri d = .ok e ↔ (Place.ofDiagnostic d).Writable ∧ e = Entry.whole uri d := by
  simp only [Section.entry, locationTarget, bind_eq_ok, locationText_eq_ok_iff,
    startText_eq_ok_iff, pure, Except.pure, Except.ok.injEq]
  constructor
  · intro given
    obtain ⟨_, ⟨writable, rfl⟩, _, ⟨_, ⟨_, rfl⟩, rfl⟩, rfl⟩ := given
    exact ⟨writable, rfl⟩
  · intro given
    obtain ⟨writable, rfl⟩ := given
    exact ⟨_, ⟨writable, rfl⟩, _, ⟨_, ⟨(Place.writable_iff.mp writable).1, rfl⟩, rfl⟩, rfl⟩

theorem entries_eq_ok_iff {s : Section} {es : List Entry} :
    s.entries = .ok es ↔
      (∀ d ∈ s.diagnostics, (Place.ofDiagnostic d).Writable) ∧ es = s.wholeEntries :=
  mapM_eq_ok_iff fun _ _ => entry_eq_ok_iff

theorem lines_eq_ok_iff {width : Nat} {s : Section} {ls : List Line} :
    s.lines width = .ok ls ↔
      (∀ d ∈ s.diagnostics, (Place.ofDiagnostic d).Writable) ∧ ls = s.wholeLines width := by
  simp only [Section.lines, bind_eq_ok, entries_eq_ok_iff, pure, Except.pure, Except.ok.injEq]
  constructor
  · intro given
    obtain ⟨_, ⟨writable, rfl⟩, rfl⟩ := given
    exact ⟨writable, rfl⟩
  · intro given
    obtain ⟨writable, rfl⟩ := given
    exact ⟨_, ⟨writable, rfl⟩, rfl⟩

theorem blocks_eq_ok_iff {width : Nat} {sections : List Section} {blocks : List (List Line)} :
    sections.mapM (Section.lines width) = .ok blocks ↔
      (∀ s ∈ sections, ∀ d ∈ s.diagnostics, (Place.ofDiagnostic d).Writable) ∧
        blocks = sections.map (Section.wholeLines width) :=
  mapM_eq_ok_iff fun _ _ => lines_eq_ok_iff

/-! ### Sections of a diagnosis -/

theorem mem_sections {cwd : Text} {diagnosis : Diagnosis} {s : Section} :
    s ∈ Section.ofDiagnosis cwd diagnosis ↔
      ∃ file ∈ diagnosis.affected, Section.ofFile cwd file = s := by
  rw [Section.ofDiagnosis, List.mem_mergeSort, List.mem_map]

theorem mem_affected {diagnosis : Diagnosis} {file : Text × List Diagnostic} :
    file ∈ diagnosis.affected ↔ file ∈ diagnosis ∧ file.2 ≠ [] := by
  simp [Diagnosis.affected]

theorem mem_diagnostics_ofFile {cwd : Text} {file : Text × List Diagnostic} {d : Diagnostic} :
    d ∈ (Section.ofFile cwd file).diagnostics ↔ d ∈ file.2 :=
  List.mem_mergeSort

theorem writable_iff_sections (cwd : Text) {diagnosis : Diagnosis} :
    diagnosis.Writable ↔ ∀ s ∈ Section.ofDiagnosis cwd diagnosis,
      ∀ d ∈ s.diagnostics, (Place.ofDiagnostic d).Writable := by
  constructor
  · rintro writable s mem d found
    obtain ⟨file, affected, rfl⟩ := mem_sections.mp mem
    have inside := (mem_affected.mp affected).1
    exact writable d (List.mem_flatMap.mpr ⟨file, inside, mem_diagnostics_ofFile.mp found⟩)
  · rintro writable d found
    obtain ⟨file, inside, mem⟩ := List.mem_flatMap.mp found
    have affected := mem_affected.mpr ⟨inside, List.ne_nil_of_mem mem⟩
    exact writable _ (mem_sections.mpr ⟨file, affected, rfl⟩) d (mem_diagnostics_ofFile.mpr mem)

/-- There is a report just if all numbers can be written, and it is the whole report. -/
theorem ofDiagnosis_eq_ok_iff {cwd : Text} {diagnosis : Diagnosis} {report : Report} :
    ofDiagnosis cwd diagnosis = .ok report ↔
      diagnosis.Writable ∧ report = whole cwd diagnosis := by
  rw [writable_iff_sections cwd]
  simp only [ofDiagnosis, bind_eq_ok, blocks_eq_ok_iff, pure, Except.pure, Except.ok.injEq]
  constructor
  · intro given
    obtain ⟨_, ⟨writable, rfl⟩, rfl⟩ := given
    exact ⟨writable, rfl⟩
  · intro given
    obtain ⟨writable, rfl⟩ := given
    exact ⟨_, ⟨writable, rfl⟩, rfl⟩

theorem rendered_of_writable {diagnosis : Diagnosis} (writable : diagnosis.Writable)
    (painter : Terminal.Painter) (cwd : Text) :
    rendered painter cwd diagnosis =
      .ok ((whole cwd diagnosis).toText painter, (whole cwd diagnosis).stats) := by
  have made : ofDiagnosis cwd diagnosis = .ok (whole cwd diagnosis) :=
    ofDiagnosis_eq_ok_iff.mpr ⟨writable, rfl⟩
  rw [rendered, made]
  rfl

theorem writable_of_small {diagnosis : Diagnosis}
    (small : ∀ d ∈ diagnosis.diagnostics, ∀ n ∈ d.range.numbers, n < 99) : diagnosis.Writable := by
  intro d mem
  have limit : 100 ≤ Text.numberLimit := Text.pow_le_numberLimit (by decide : 2 ≤ Text.digitLimit)
  have numbers := small d mem
  simp only [Range.numbers, List.forall_mem_append, List.forall_mem_cons, Option.mem_toList] at numbers
  obtain ⟨⟨line, character, stop, _⟩, stopLine⟩ := numbers
  rw [Place.writable_iff]
  refine ⟨⟨?_, ?_⟩, fun n found => ?_, ?_⟩
  · simp only [Place.ofDiagnostic]
    omega
  · simp only [Place.ofDiagnostic]
    omega
  · obtain ⟨m, kept, rfl⟩ := Option.map_eq_some_iff.mp found
    have given := stopLine m (Option.filter_eq_some_iff.mp kept).1
    omega
  · simp only [Place.ofDiagnostic]
    omega

end Report

end CheckReport

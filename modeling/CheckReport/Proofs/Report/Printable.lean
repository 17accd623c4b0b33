import Mathlib
import CheckReport.CommandLine.Run
import CheckReport.Proofs.Diagnosis.Bounds
import CheckReport.Proofs.Report.Characters
import CheckReport.Proofs.Terminal.Encodable

/-!
# When a diagnosis that was read can be reported

A diagnosis from a file is reported, and the report can be written, just if the diagnosis is
printable (`reported_iff_printable`). Not every one is: the greatest number that is read cannot be
written once it is counted from 1, and names, codes and messages can hold surrogates.
-/

namespace CheckReport

open CommandLine (reported cleanStatus problemStatus)
open Terminal (Painter)
open Text.Utf8 (Encodable)

namespace Report

theorem common_not_isSurrogate : Text.Common (Text.isSurrogate · = false) :=
  fun _ ascii => Text.isSurrogate_of_lt (by omega)

/-- A whole report is encodable just where the paths, codes and messages are, and the URIs if there
are links. -/
theorem encodable_whole {painter : Painter} {cwd : Text} {diagnosis : Diagnosis} :
    Encodable ((whole cwd diagnosis).toText painter) ↔
      ∀ file ∈ diagnosis.affected, (Encodable (Path.display cwd none (Path.ofUri file.1)) ∧
        (painter.enabled = true → Encodable file.1)) ∧
        ∀ d ∈ file.2, Encodable d.code ∧ Encodable d.message := by
  rw [Report.toText, Terminal.encodable_page]
  exact holds_whole common_not_isSurrogate rfl rfl

end Report

namespace Diagnosis

theorem forall_affected_iff {diagnosis : Diagnosis} {P : Diagnostic → Prop} :
    (∀ file ∈ diagnosis.affected, ∀ d ∈ file.2, P d) ↔ ∀ d ∈ diagnosis.diagnostics, P d := by
  constructor
  · intro files d mem
    obtain ⟨file, inside, found⟩ := List.mem_flatMap.mp mem
    exact files file (Report.mem_affected.mpr ⟨inside, List.ne_nil_of_mem found⟩) d found
  · intro each file affected d found
    exact each d (List.mem_flatMap.mpr ⟨file, (Report.mem_affected.mp affected).1, found⟩)

theorem succ_lt_iff {n : Nat} (small : n < Text.numberLimit) :
    n + 1 < Text.numberLimit ↔ n ≠ greatest := by
  unfold greatest
  omega

/-- A location can be written unless a line or the first character is the greatest number. -/
theorem writable_iff {d : Diagnostic} (small : ∀ n ∈ d.range.numbers, n < Text.numberLimit) :
    (Report.Place.ofDiagnostic d).Writable ↔ d.range.start.line ≠ greatest ∧
      d.range.start.character ≠ greatest ∧ d.range.stop.line ≠ some greatest := by
  have line := succ_lt_iff (small d.range.start.line (by simp [Range.numbers]))
  have character := succ_lt_iff (small d.range.start.character (by simp [Range.numbers]))
  have stop : d.range.stop.character < Text.numberLimit :=
    small d.range.stop.character (by simp [Range.numbers])
  rw [Report.Place.writable_iff]
  simp only [Report.Place.ofDiagnostic, line, character, stop, and_true, and_assoc]
  refine and_congr_right fun other => and_congr_right fun _ => ?_
  cases h : d.range.stop.line with
  | none => simp
  | some stopLine =>
    have stopLine_iff := succ_lt_iff (small stopLine (by simp [Range.numbers, h]))
    by_cases same : stopLine = d.range.start.line
    · simp [same, Option.filter, other]
    · simp [same, Option.filter, stopLine_iff]

theorem diagnosticPrintable_iff {d : Diagnostic}
    (small : ∀ n ∈ d.range.numbers, n < Text.numberLimit) :
    DiagnosticPrintable d ↔
      (Report.Place.ofDiagnostic d).Writable ∧ Encodable d.code ∧ Encodable d.message := by
  rw [writable_iff small]
  constructor
  · intro given
    obtain ⟨line, character, stopLine, code, message⟩ := given
    exact ⟨⟨line, character, stopLine⟩, code, message⟩
  · intro given
    obtain ⟨⟨line, character, stopLine⟩, code, message⟩ := given
    exact ⟨line, character, stopLine, code, message⟩

/-- Where its numbers have at most as many digits as are read, a diagnosis is printable just if it
has a report and that report is encodable. -/
theorem printable_iff {painter : Painter} {cwd : Text} {diagnosis : Diagnosis}
    (small : ∀ d ∈ diagnosis.diagnostics, ∀ n ∈ d.range.numbers, n < Text.numberLimit) :
    diagnosis.Printable painter cwd ↔
      diagnosis.Writable ∧ Encodable ((Report.whole cwd diagnosis).toText painter) := by
  rw [Report.encodable_whole]
  constructor
  · intro given
    obtain ⟨path, uri, diagnostic⟩ := given
    have parts d mem := (diagnosticPrintable_iff (small d mem)).mp (diagnostic d mem)
    refine ⟨fun d mem => (parts d mem).1, fun file affected => ?_⟩
    exact ⟨⟨path file affected, fun enabled => uri enabled file affected⟩,
      forall_affected_iff.mpr (fun d mem => (parts d mem).2) file affected⟩
  · intro given
    obtain ⟨writable, texts⟩ := given
    have diagnostic := forall_affected_iff.mp fun file affected => (texts file affected).2
    exact ⟨fun file affected => (texts file affected).1.1,
      fun enabled file affected => (texts file affected).1.2 enabled,
      fun d mem => (diagnosticPrintable_iff (small d mem)).mpr ⟨writable d mem, diagnostic d mem⟩⟩

end Diagnosis

namespace Report

theorem encodable_printed {painter : Painter} {report : Report} :
    Encodable (CommandLine.printed painter report) ↔ Encodable (report.toText painter) := by
  have feed : Encodable [Text.newline] := by decide
  unfold CommandLine.printed
  cases painter.enabled <;> simp [Terminal.encodable_withoutControls, feed]

theorem reportStatus_cases (report : Report) :
    CommandLine.reportStatus report = cleanStatus ∨
      CommandLine.reportStatus report = problemStatus := by
  unfold CommandLine.reportStatus
  split
  · exact .inl rfl
  · exact .inr rfl

/-- A diagnosis that was read has a report that can be written, with the status for a clean
workspace or for problems, just if it is printable. -/
theorem reported_iff_printable [Platform] {site : Site} {path : Text} {diagnosis : Diagnosis}
    (loaded : Artifact.load site path = .ok diagnosis) (painter : Painter) (cwd : Text) :
    (∃ report status out, ofDiagnosis cwd diagnosis = .ok report ∧
      reported painter cwd diagnosis = (.status status, out) ∧
      (status = cleanStatus ∨ status = problemStatus) ∧ Text.Utf8.unencodable? out = none) ↔
      diagnosis.Printable painter cwd := by
  rw [Diagnosis.printable_iff (Artifact.numbers_lt_of_load loaded)]
  simp only [Text.Utf8.unencodable?_eq_none_iff]
  constructor
  · intro given
    obtain ⟨report, status, out, made, said, _, encodable⟩ := given
    obtain ⟨writable, rfl⟩ := ofDiagnosis_eq_ok_iff.mp made
    rw [reported, made] at said
    cases said
    exact ⟨writable, encodable_printed.mp encodable⟩
  · intro given
    obtain ⟨writable, encodable⟩ := given
    have made : ofDiagnosis cwd diagnosis = .ok (whole cwd diagnosis) :=
      ofDiagnosis_eq_ok_iff.mpr ⟨writable, rfl⟩
    have said : reported painter cwd diagnosis =
        (.status (CommandLine.reportStatus (whole cwd diagnosis)),
          CommandLine.printed painter (whole cwd diagnosis)) := by
      rw [reported, made]
    exact ⟨_, _, _, made, said, reportStatus_cases _, encodable_printed.mpr encodable⟩

/-- A file tree with an artifact of one diagnostic, whose code is written with `code`. -/
def oneDiagnostic (code : String) : Site :=
  ⟨⟨[([text "check.json"], .file false (text ("\x7b\"file:///a\": [\x7b\"code\": \"" ++ code ++
    "\", \"message\": \"m\", \"range\": \x7b\"start\": \x7b\"line\": 0, \"character\": 0\x7d, " ++
    "\"end\": \x7b\"character\": 1\x7d\x7d, \"severity\": 1\x7d]\x7d")))]⟩, text "/"⟩

theorem zero_ne_greatest : 0 ≠ Diagnosis.greatest := by
  have large := Text.one_lt_numberLimit
  unfold Diagnosis.greatest
  omega

attribute [local instance] Platform.loose

set_option maxRecDepth 4096 in
theorem reported_iff_printable_letter :
    Artifact.load (oneDiagnostic "c") (text "/check.json") =
        .ok [(text "file:///a", [⟨text "c", text "m", ⟨⟨0, 0⟩, ⟨none, 1⟩⟩, .error⟩])] ∧
      ∃ report status out,
        ofDiagnosis (text "/") [(text "file:///a",
          [⟨text "c", text "m", ⟨⟨0, 0⟩, ⟨none, 1⟩⟩, .error⟩])] = .ok report ∧
        reported ⟨true⟩ (text "/") [(text "file:///a",
          [⟨text "c", text "m", ⟨⟨0, 0⟩, ⟨none, 1⟩⟩, .error⟩])] = (.status status, out) ∧
        (status = cleanStatus ∨ status = problemStatus) ∧ Text.Utf8.unencodable? out = none := by
  have loaded : Artifact.load (oneDiagnostic "c") (text "/check.json") =
      .ok [(text "file:///a", [⟨text "c", text "m", ⟨⟨0, 0⟩, ⟨none, 1⟩⟩, .error⟩])] := by cbv
  refine ⟨loaded, (reported_iff_printable loaded ⟨true⟩ (text "/")).mpr ⟨?_, ?_, ?_⟩⟩
  · intro file affected
    cases List.mem_singleton.mp affected
    have shown : Path.display (text "/") none (Path.ofUri (text "file:///a")) = text "a" := by cbv
    rw [shown]
    exact Text.Utf8.encodable_text "a"
  · intro _ file affected
    cases List.mem_singleton.mp affected
    exact Text.Utf8.encodable_text "file:///a"
  · intro d mem
    cases List.mem_singleton.mp mem
    exact ⟨zero_ne_greatest, zero_ne_greatest, Option.some_ne_none _ |>.symm,
      Text.Utf8.encodable_text "c", Text.Utf8.encodable_text "m"⟩

set_option maxRecDepth 8192 in
/-- The escape of a surrogate is read, but what it stands for cannot be written. -/
theorem reported_surrogate_code :
    Artifact.load (oneDiagnostic "\\ud800") (text "/check.json") =
        .ok [(text "file:///a", [⟨[0xD800], text "m", ⟨⟨0, 0⟩, ⟨none, 1⟩⟩, .error⟩])] ∧
      (reported ⟨false⟩ (text "/") [(text "file:///a",
        [⟨[0xD800], text "m", ⟨⟨0, 0⟩, ⟨none, 1⟩⟩, .error⟩])]).1 = .status problemStatus ∧
      Text.Utf8.unencodable? (reported ⟨false⟩ (text "/") [(text "file:///a",
        [⟨[0xD800], text "m", ⟨⟨0, 0⟩, ⟨none, 1⟩⟩, .error⟩])]).2 = some ⟨28, [0xD800]⟩ := by
  refine ⟨?_, ?_, ?_⟩
  · cbv
  · cbv
  · cbv

end Report

end CheckReport

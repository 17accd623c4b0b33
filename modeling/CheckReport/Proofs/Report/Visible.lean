import CheckReport.Proofs.Path.Relative
import CheckReport.Proofs.Report.Characters
import CheckReport.Proofs.Terminal.Token

/-!
# Paint changes nothing visible

What is seen of a painted report is the report without paint, where the diagnosis is free of escape
characters (`visible_rendered`).
-/

namespace CheckReport.Report

open Terminal (Line escapeChar visible)
open Validation (map_eq_ok)

theorem ne_of_free {s : Text} (free : escapeChar ∉ s) : ∀ c ∈ s, c ≠ escapeChar :=
  List.forall_mem_ne'.mpr free

theorem escapeFree_whole {diagnosis : Diagnosis} (free : diagnosis.EscapeFree) (cwd : Text) :
    ∀ l ∈ (whole cwd diagnosis).lines, ∀ f ∈ l, f.Holds (· ≠ escapeChar) ⟨true⟩ := by
  have common : Text.Common (· ≠ escapeChar) := .ne (by decide)
  apply (holds_whole common (by decide) (by decide)).mpr
  intro file affected
  obtain ⟨inside, _⟩ := mem_affected.mp affected
  have display : ∀ c ∈ Path.display cwd none (Path.ofUri file.1), c ≠ escapeChar :=
    Path.forall_mem_display common (ne_of_free (free.path file inside))
  refine ⟨⟨display, fun _ => ne_of_free (free.uri file inside)⟩, fun d mem => ?_⟩
  have found : d ∈ diagnosis.diagnostics := List.mem_flatMap.mpr ⟨file, inside, mem⟩
  exact ⟨ne_of_free (free.code d found), ne_of_free (free.message d found)⟩

/-- What is seen of a report that is rendered with paint, and its numbers, are those of the report
without paint. -/
theorem visible_rendered {diagnosis : Diagnosis} (free : diagnosis.EscapeFree) (cwd : Text) :
    (rendered ⟨true⟩ cwd diagnosis).map (fun painted => (visible painted.1, painted.2)) =
      rendered ⟨false⟩ cwd diagnosis := by
  unfold rendered
  cases made : ofDiagnosis cwd diagnosis with
  | error fault => rfl
  | ok report =>
    obtain ⟨_, rfl⟩ := ofDiagnosis_eq_ok_iff.mp made
    have seen := Terminal.visible_page (escapeFree_whole free cwd)
    exact congrArg (fun s => Except.ok (s, (whole cwd diagnosis).stats)) seen

theorem visible_rendered_hint :
    let hint : Diagnostic := ⟨text "unused", text "first\n\nlast\r", ⟨⟨0, 0⟩, ⟨none, 1⟩⟩, .hint⟩
    let diagnosis : Diagnosis := [(text "file:///work/a%20b.lua", [hint]), (text "file:///c.lua", [])]
    diagnosis.EscapeFree ∧
      (rendered ⟨true⟩ (text "/work") diagnosis).map (fun painted => (visible painted.1, painted.2)) =
        rendered ⟨false⟩ (text "/work") diagnosis := by
  intro hint diagnosis
  have first : Path.ofUri (text "file:///work/a%20b.lua") = text "/work/a b.lua" := by
    decide +kernel
  have second : Path.ofUri (text "file:///c.lua") = text "/c.lua" := by decide +kernel
  have free : diagnosis.EscapeFree := by
    constructor
    · decide
    · intro file mem
      simp only [diagnosis, List.mem_cons, List.not_mem_nil, or_false] at mem
      rcases mem with rfl | rfl
      · rw [first]
        decide
      · rw [second]
        decide
    · decide
    · decide
  exact ⟨free, visible_rendered free (text "/work")⟩

end CheckReport.Report

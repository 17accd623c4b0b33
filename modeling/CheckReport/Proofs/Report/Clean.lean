import CheckReport.Proofs.Report.Rearranged

/-!
# Clean files leave no trace

The sections of a diagnosis are those of the files with diagnostics (`sections_affected`), and all that
is reported comes from the sections. So clean files can be listed or not (`rendered_sameButClean`).
-/

namespace CheckReport

namespace Diagnosis

theorem affected_affected (diagnosis : Diagnosis) :
    diagnosis.affected.affected = diagnosis.affected := by
  unfold affected
  rw [List.filter_filter, funext fun file => Bool.and_self _]

theorem SameButClean.affected_eq {a b : Diagnosis} (same : SameButClean a b) :
    a.affected = b.affected := by
  induction same with
  | nil => rfl
  | @both file a b _ ih => rw [Report.affected_cons, Report.affected_cons, ih]
  | first _ ih => rw [Report.affected_cons, if_pos rfl, ih]
  | second _ ih => rw [Report.affected_cons, if_pos rfl, ih]

theorem affected_eq_nil {diagnosis : Diagnosis} (clean : ∀ file ∈ diagnosis, file.2 = []) :
    diagnosis.affected = [] := by
  refine List.filter_eq_nil_iff.mpr fun file mem => ?_
  rw [clean file mem]
  exact Bool.false_ne_true

end Diagnosis

namespace Report

open Terminal (Painter)

theorem sections_affected (cwd : Text) (diagnosis : Diagnosis) :
    Section.ofDiagnosis cwd diagnosis.affected = Section.ofDiagnosis cwd diagnosis := by
  unfold Section.ofDiagnosis
  rw [Diagnosis.affected_affected]

/-- A report takes nothing from files without diagnostics. -/
theorem rendered_affected (painter : Painter) (cwd : Text) (diagnosis : Diagnosis) :
    rendered painter cwd diagnosis.affected = rendered painter cwd diagnosis := by
  unfold rendered
  rw [ofDiagnosis_congr (sections_affected cwd diagnosis)]

theorem ofDiagnosis_nil (cwd : Text) :
    ofDiagnosis cwd [] = .ok ⟨[[.plain (text "Diagnosis completed, no problems found")]], {}⟩ := by
  have none : Section.ofDiagnosis cwd [] = [] := List.mergeSort_nil
  rw [ofDiagnosis, none]
  rfl

theorem rendered_nil (painter : Painter) (cwd : Text) :
    rendered painter cwd [] = .ok (text "Diagnosis completed, no problems found", {}) := by
  rw [rendered, ofDiagnosis_nil]
  cases painter with
  | mk enabled => cases enabled <;> rfl

/-- Clean files that are added or left out change neither the text of a report nor its numbers, and if
there are no others nothing is reported, as of the empty diagnosis. -/
theorem rendered_sameButClean {a b : Diagnosis} (same : a.SameButClean b) (painter : Painter)
    (cwd : Text) :
    rendered painter cwd a = rendered painter cwd b ∧
      ((∀ file ∈ a, file.2 = []) → rendered painter cwd a = rendered painter cwd [] ∧
        rendered painter cwd [] = .ok (text "Diagnosis completed, no problems found", {})) := by
  constructor
  · rw [← rendered_affected, same.affected_eq, rendered_affected]
  · intro clean
    refine ⟨?_, rendered_nil painter cwd⟩
    rw [← rendered_affected, Diagnosis.affected_eq_nil clean]

theorem rendered_sameButClean_around :
    let d : Diagnostic := ⟨text "c", text "m", ⟨⟨0, 0⟩, ⟨none, 1⟩⟩, .error⟩
    let a : Diagnosis := [(text "file:///work/with/a/long/name/clean.lua", []),
      (text "file:///b", [d]), (text "file:///c", [])]
    let b : Diagnosis := [(text "file:///b", [d]), (text "file:///e", [])]
    let clean : Diagnosis := [(text "file:///c", []), (text "file:///e", [])]
    a.SameButClean b ∧ clean.SameButClean [] ∧ (∀ file ∈ clean, file.2 = []) ∧
      rendered ⟨true⟩ (text "/work") a = rendered ⟨true⟩ (text "/work") b ∧
      rendered ⟨false⟩ (text "/") clean =
        .ok (text "Diagnosis completed, no problems found", {}) := by
  intro d a b clean
  have same : a.SameButClean b := .first (.both (.first (.second .nil)))
  have none : clean.SameButClean [] := .first (.first .nil)
  have all : ∀ file ∈ clean, file.2 = [] := by decide
  obtain ⟨empty, nothing⟩ := (rendered_sameButClean none ⟨false⟩ (text "/")).2 all
  exact ⟨same, none, all, (rendered_sameButClean same ⟨true⟩ (text "/work")).1, empty.trans nothing⟩

end Report

end CheckReport

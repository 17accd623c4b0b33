import Mathlib.Data.List.Nodup
import CheckReport.Proofs.Diagnosis.Order
import CheckReport.Proofs.Report.Whole

/-!
# Reports do not depend on the order in which things are listed

Sections are ordered by path and then by URI, which tells them apart, and the diagnostics of a
section are in their one stable order. So diagnoses that list the same in another order have the
same sections (`sections_rearranged`), and all that is reported comes from these.
-/

namespace CheckReport

namespace Report

/-! ### Order of sections -/

namespace Section

theorem le_iff {a b : Section} :
    a.le b = true ↔ Text.le a.path b.path = true ∧ (a.path = b.path → Text.le a.uri b.uri = true) := by
  unfold le
  by_cases same : a.path = b.path
  · simp [same, Text.le_refl]
  · simp [same]

theorem le_total (a b : Section) : (a.le b || b.le a) = true := by
  have paths := Text.le_total a.path b.path
  have uris := Text.le_total a.uri b.uri
  simp only [Bool.or_eq_true] at paths uris ⊢
  by_cases same : a.path = b.path
  · simpa [le, same] using uris
  · simpa [le, same, Ne.symm same] using paths

theorem le_trans (a b c : Section) (hab : a.le b = true) (hbc : b.le c = true) : a.le c = true := by
  obtain ⟨path_ab, uri_ab⟩ := le_iff.mp hab
  obtain ⟨path_bc, uri_bc⟩ := le_iff.mp hbc
  refine le_iff.mpr ⟨Text.le_trans path_ab path_bc, fun same => ?_⟩
  -- between equal paths there is no other one
  have middle : a.path = b.path := by
    rw [← same] at path_bc
    exact Text.le_antisymm path_ab path_bc
  exact Text.le_trans (uri_ab middle) (uri_bc (middle.symm.trans same))

theorem uri_eq_of_le {a b : Section} (hab : a.le b = true) (hba : b.le a = true) : a.uri = b.uri := by
  obtain ⟨path_ab, uri_ab⟩ := le_iff.mp hab
  obtain ⟨path_ba, uri_ba⟩ := le_iff.mp hba
  have same : a.path = b.path := Text.le_antisymm path_ab path_ba
  exact Text.le_antisymm (uri_ab same) (uri_ba same.symm)

theorem pairwise_ofDiagnosis (cwd : Text) (diagnosis : Diagnosis) :
    (ofDiagnosis cwd diagnosis).Pairwise fun a b => a.le b = true :=
  List.pairwise_mergeSort le_trans le_total _

theorem perm_ofDiagnosis (cwd : Text) (diagnosis : Diagnosis) :
    (ofDiagnosis cwd diagnosis).Perm (diagnosis.affected.map (ofFile cwd)) :=
  List.mergeSort_perm _ _

end Section

/-! ### Files -/

theorem ofFile_eq_of_sameByKey {cwd uri : Text} {xs ys : List Diagnostic}
    (same : Diagnostic.SameByKey xs ys) :
    Section.ofFile cwd (uri, xs) = Section.ofFile cwd (uri, ys) := by
  unfold Section.ofFile
  rw [Diagnostic.sort_eq_of_sameByKey same]

theorem affected_cons (file : Text × List Diagnostic) (rest : Diagnosis) :
    Diagnosis.affected (file :: rest) =
      if file.2 = [] then rest.affected else file :: rest.affected := by
  unfold Diagnosis.affected
  by_cases none : file.2 = []
  · rw [if_pos none, List.filter_cons_of_neg (by simp [none])]
  · rw [if_neg none, List.filter_cons_of_pos (by simp [none])]

theorem map_ofFile_of_sameByKey {cwd : Text} {a b : Diagnosis} (same : Diagnosis.SameByKey a b) :
    a.affected.map (Section.ofFile cwd) = b.affected.map (Section.ofFile cwd) := by
  induction same with
  | nil => rfl
  | @cons uri xs ys a b first rest ih =>
    rw [affected_cons, affected_cons]
    by_cases none : xs = []
    · rw [if_pos none, if_pos (first.nil_iff.mp none), ih]
    · rw [if_neg none, if_neg (mt first.nil_iff.mpr none), List.map_cons, List.map_cons, ih,
        ofFile_eq_of_sameByKey first]

/-- With distinct URIs, a section is told by its URI. -/
theorem eq_of_uri_eq {cwd : Text} {diagnosis : Diagnosis} (distinct : diagnosis.Distinct)
    {s t : Section} (hs : s ∈ Section.ofDiagnosis cwd diagnosis)
    (ht : t ∈ Section.ofDiagnosis cwd diagnosis) (same : s.uri = t.uri) : s = t := by
  obtain ⟨first, affectedFirst, rfl⟩ := mem_sections.mp hs
  obtain ⟨second, affectedSecond, rfl⟩ := mem_sections.mp ht
  have memFirst := (mem_affected.mp affectedFirst).1
  have memSecond := (mem_affected.mp affectedSecond).1
  rw [List.inj_on_of_nodup_map distinct memFirst memSecond same]

theorem sections_perm {cwd : Text} {a b : Diagnosis} (distinct : a.Distinct) (perm : a.Perm b) :
    Section.ofDiagnosis cwd a = Section.ofDiagnosis cwd b := by
  have files : (a.affected.map (Section.ofFile cwd)).Perm (b.affected.map (Section.ofFile cwd)) :=
    (perm.filter _).map _
  have sections : (Section.ofDiagnosis cwd a).Perm (Section.ofDiagnosis cwd b) :=
    (Section.perm_ofDiagnosis cwd a).trans (files.trans (Section.perm_ofDiagnosis cwd b).symm)
  apply sections.eq_of_pairwise _ (Section.pairwise_ofDiagnosis cwd a)
    (Section.pairwise_ofDiagnosis cwd b)
  intro s t hs ht hst hts
  exact eq_of_uri_eq distinct hs (sections.mem_iff.mpr ht) (Section.uri_eq_of_le hst hts)

theorem sections_rearranged {cwd : Text} {a b : Diagnosis} (distinct : a.Distinct)
    (rearranged : a.Rearranged b) : Section.ofDiagnosis cwd a = Section.ofDiagnosis cwd b := by
  obtain ⟨c, perm, same⟩ := rearranged
  rw [sections_perm distinct perm, Section.ofDiagnosis, Section.ofDiagnosis, map_ofFile_of_sameByKey same]

theorem ofDiagnosis_congr {cwd : Text} {a b : Diagnosis}
    (same : Section.ofDiagnosis cwd a = Section.ofDiagnosis cwd b) :
    ofDiagnosis cwd a = ofDiagnosis cwd b := by
  unfold ofDiagnosis
  rw [same]

/-- A diagnosis that lists its files in another order, and their diagnostics in another order of
those with other keys, is rendered as the same text with the same numbers. -/
theorem rendered_rearranged {a b : Diagnosis} (distinct : a.Distinct) (rearranged : a.Rearranged b)
    (painter : Terminal.Painter) (cwd : Text) : rendered painter cwd a = rendered painter cwd b := by
  unfold rendered
  rw [ofDiagnosis_congr (sections_rearranged distinct rearranged)]

theorem rendered_rearranged_one_path :
    let d (code : String) (line : Nat) : Diagnostic :=
      ⟨text code, text "m", ⟨⟨line, 0⟩, ⟨none, 1⟩⟩, .warning⟩
    let a : Diagnosis := [(text "file:///work/a.lua", [d "p" 1, d "q" 0, d "r" 0]),
      (text "file:///work/%61.lua", [d "s" 0])]
    let b : Diagnosis := [(text "file:///work/%61.lua", [d "s" 0]),
      (text "file:///work/a.lua", [d "q" 0, d "p" 1, d "r" 0])]
    a.Distinct ∧ a.Rearranged b ∧
      rendered ⟨true⟩ (text "/work") a = rendered ⟨true⟩ (text "/work") b := by
  intro d a b
  have distinct : a.Distinct := by
    unfold Diagnosis.Distinct
    decide
  have moved : Diagnostic.SameByKey [d "p" 1, d "q" 0, d "r" 0] [d "q" 0, d "p" 1, d "r" 0] :=
    .swap (by decide) _
  have rearranged : a.Rearranged b :=
    ⟨_, .swap _ _ [], .cons (fun _ => rfl) (.cons moved .nil)⟩
  exact ⟨distinct, rearranged, rendered_rearranged distinct rearranged ⟨true⟩ (text "/work")⟩

end Report

end CheckReport

import CheckReport.Proofs.Text.Encodable
import CheckReport.Terminal.Fragment

/-!
# Encodable output

What a painter writes is encodable where the texts are, and where it is enabled, the targets of the
links. Control sequences that are removed do not hold surrogates.
-/

namespace CheckReport.Terminal

open Text.Utf8

/-! ### Control sequences -/

theorem encodable_of_isParameter {s : Text} (parameters : ∀ c ∈ s, isParameter c = true) :
    Encodable s := by
  intro c mem
  have parameter := parameters c mem
  simp only [isParameter, Bool.or_eq_true, beq_iff_eq] at parameter
  rcases parameter with (digit | rfl) | rfl
  · exact not_isSurrogate_of_isDigit digit
  · rfl
  · rfl

theorem not_isSurrogate_of_isLetter {c : Nat} (letter : isLetter c = true) :
    Text.isSurrogate c = false := by
  simp only [isLetter, Bool.or_eq_true, Bool.and_eq_true, decide_eq_true_eq] at letter
  exact Text.isSurrogate_of_lt (by omega)

theorem encodable_afterControl? {s rest : Text} (h : afterControl? s = some rest) :
    Encodable s ↔ Encodable rest := by
  unfold afterControl? at h
  split at h
  · next s =>
    split at h
    · next c rest found =>
      split at h
      · next letter =>
        cases h
        have parameters := encodable_of_isParameter
          (List.all_eq_true.mp (List.all_takeWhile (p := isParameter) (l := s)))
        rw [← List.takeWhile_append_dropWhile (p := isParameter) (l := s), found]
        have bracket : Text.isSurrogate 0x5B = false := rfl
        simp [parameters, not_isSurrogate_of_isLetter letter, bracket]
      · cases h
    · cases h
  · cases h

/-- Removing control sequences keeps all surrogates. -/
theorem encodable_withoutControls {s : Text} : Encodable (withoutControls s) ↔ Encodable s := by
  fun_induction withoutControls s with
  | case1 => exact Iff.rfl
  | case2 s rest found _ ih =>
    have escape : Text.isSurrogate escapeChar = false := rfl
    rw [ih, encodable_cons, encodable_afterControl? found]
    simp [escape]
  | case3 s _ ih => rw [encodable_cons, encodable_cons, ih]
  | case4 c s _ ih => rw [encodable_cons, encodable_cons, ih]

/-! ### Painting -/

theorem encodable_styled {style : Style} {s : Text} : Encodable (styled style s) ↔ Encodable s := by
  have codes : Encodable (Text.join (text ";") (style.codes.map Text.ofNat)) := by
    refine (encodable_join (encodable_text ";")).mpr fun s mem => ?_
    obtain ⟨n, _, rfl⟩ := List.mem_map.mp mem
    exact encodable_ofNat n
  unfold styled
  split
  · exact Iff.rfl
  · simp [switchOn, switchOff, codes]

theorem encodable_linked {target s : Text} :
    Encodable (linked target s) ↔ Encodable target ∧ Encodable s := by
  simp [linked, openLink]

theorem encodable_fragment {painter : Painter} {f : Fragment} :
    Encodable (painter.fragment f) ↔ f.Holds (Text.isSurrogate · = false) painter := by
  unfold Painter.fragment Fragment.Holds Painter.paint Painter.link
  change _ ↔ Encodable f.text ∧
    (painter.enabled = true → ∀ target, f.target = some target → Encodable target)
  cases painter.enabled with
  | false => cases f.target <;> simp
  | true =>
    cases f.target with
    | none => simp [encodable_styled]
    | some target => simp [encodable_styled, encodable_linked, and_comm]

theorem encodable_line {painter : Painter} {l : Line} :
    Encodable (painter.line l) ↔ ∀ f ∈ l, f.Holds (Text.isSurrogate · = false) painter := by
  simp only [Painter.line, encodable_flatMap, encodable_fragment]

/-- A page is encodable just where all fragments of its lines are. -/
theorem encodable_page {painter : Painter} {ls : List Line} :
    Encodable (painter.page ls) ↔
      ∀ l ∈ ls, ∀ f ∈ l, f.Holds (Text.isSurrogate · = false) painter := by
  have feed : Encodable [Text.newline] := by decide
  simp only [Painter.page, encodable_join feed, List.forall_mem_map, encodable_line]

end CheckReport.Terminal

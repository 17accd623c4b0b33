import CheckReport.Proofs.Report.Whole
import CheckReport.Proofs.Text.Split

/-!
# Locations are read back

The text of a place is read as the place (`read?_toText`), so location texts are the same just for
ranges that look the same (`locationText_identifies_iff`).
-/

namespace CheckReport.Report

namespace Place

variable {p q : Place}

/-! ### Reading -/

theorem startText_eq (p : Place) :
    p.startText = Text.ofNat p.line ++ colon :: Text.ofNat p.column := by
  simp [startText, text, colon]

theorem hyphen_not_mem_startText (p : Place) : hyphen ∉ p.startText := by
  rw [startText_eq, List.mem_append, List.mem_cons]
  rintro (line | mark | column)
  · exact Text.not_mem_ofNat rfl p.line line
  · cases mark
  · exact Text.not_mem_ofNat rfl p.column column

theorem hyphen_not_mem_stopText (p : Place) : hyphen ∉ p.stopText := by
  unfold stopText
  split
  · exact Text.not_mem_ofNat rfl _
  · simp only [List.mem_append, not_or]
    exact ⟨⟨Text.not_mem_ofNat rfl _, by decide⟩, Text.not_mem_ofNat rfl _⟩

theorem split_startText (p : Place) :
    Text.split colon p.startText = [Text.ofNat p.line, Text.ofNat p.column] := by
  rw [startText_eq, Text.split_append_cons (Text.not_mem_ofNat rfl _),
    Text.split_of_not_mem (Text.not_mem_ofNat rfl _)]

theorem split_stopText (p : Place) :
    Text.split colon p.stopText = (p.stopLine.toList ++ [p.stopColumn]).map Text.ofNat := by
  unfold stopText
  cases p.stopLine with
  | none => exact Text.split_of_not_mem (Text.not_mem_ofNat rfl _)
  | some line =>
    have mark : text ":" = [colon] := rfl
    simp only [mark, List.append_assoc, List.singleton_append]
    rw [Text.split_append_cons (Text.not_mem_ofNat rfl _),
      Text.split_of_not_mem (Text.not_mem_ofNat rfl _)]
    rfl

theorem split_toText (p : Place) : Text.split hyphen p.toText = [p.startText, p.stopText] := by
  have mark : text "-" = [hyphen] := rfl
  rw [toText, mark, List.append_assoc, List.singleton_append,
    Text.split_append_cons p.hyphen_not_mem_startText,
    Text.split_of_not_mem p.hyphen_not_mem_stopText]

/-- The text of a place is read as the place. -/
theorem read?_toText (p : Place) : read? p.toText = some p := by
  obtain ⟨line, column, stopLine, stopColumn⟩ := p
  rw [read?, split_toText]
  simp only [split_startText, split_stopText]
  cases stopLine <;> simp [Text.number?_ofNat]

theorem toText_inj : p.toText = q.toText ↔ p = q := by
  constructor
  · intro same
    have read := congrArg read? same
    rw [read?_toText, read?_toText] at read
    exact Option.some.inj read
  · exact congrArg toText

end Place

/-! ### Ranges -/

theorem isMultiline_eq_true {range : Range} : range.isMultiline = true ↔
    ∃ line, range.stop.line = some line ∧ line ≠ range.start.line := by
  unfold Range.isMultiline
  cases range.stop.line <;> simp

theorem stopLine_of_multiline {d : Diagnostic} (multiline : d.range.isMultiline = true) :
    (Place.ofDiagnostic d).stopLine = d.range.stop.line.map (· + 1) := by
  obtain ⟨line, given, other⟩ := isMultiline_eq_true.mp multiline
  simp [Place.ofDiagnostic, given, other, Option.filter]

theorem stopLine_eq_none_iff {d : Diagnostic} :
    (Place.ofDiagnostic d).stopLine = none ↔ d.range.isMultiline = false := by
  unfold Place.ofDiagnostic Range.isMultiline
  cases d.range.stop.line <;> simp [Option.filter]

theorem stopLine_eq_iff {x y : Diagnostic} :
    (Place.ofDiagnostic x).stopLine = (Place.ofDiagnostic y).stopLine ↔
      (x.range.isMultiline = false ∧ y.range.isMultiline = false) ∨
        (x.range.isMultiline = true ∧ y.range.isMultiline = true ∧
          x.range.stop.line = y.range.stop.line) := by
  cases first : x.range.isMultiline with
  | false =>
    rw [stopLine_eq_none_iff.mpr first, eq_comm, stopLine_eq_none_iff]
    simp
  | true =>
    cases second : y.range.isMultiline with
    | false =>
      rw [stopLine_eq_none_iff.mpr second, stopLine_eq_none_iff, first]
      simp
    | true =>
      rw [stopLine_of_multiline first, stopLine_of_multiline second]
      have up : Function.Injective fun line : Nat => line + 1 := fun _ _ => Nat.succ.inj
      simp [(Option.map_injective up).eq_iff]

/-- Diagnostics have one place just if their ranges look the same. -/
theorem ofDiagnostic_eq_iff {x y : Diagnostic} :
    Place.ofDiagnostic x = Place.ofDiagnostic y ↔ SameSpan x.range y.range := by
  rw [Place.mk.injEq]
  constructor
  · rintro ⟨line, column, stopLine, stopColumn⟩
    refine ⟨?_, stopColumn, stopLine_eq_iff.mp stopLine⟩
    rw [Position.mk.injEq]
    exact ⟨Nat.succ.inj line, Nat.succ.inj column⟩
  · rintro ⟨start, stopColumn, stopLine⟩
    exact ⟨congrArg (·.line + 1) start, congrArg (·.character + 1) start,
      stopLine_eq_iff.mpr stopLine, stopColumn⟩

/-! ### Location texts -/

theorem locates_iff {d : Diagnostic} {s : Text} :
    Locates d s ↔ (Place.ofDiagnostic d).Writable ∧ s = (Place.ofDiagnostic d).toText := by
  constructor
  · rintro ⟨shown, -⟩
    exact locationText_eq_ok_iff.mp shown
  · rintro ⟨writable, rfl⟩
    exact ⟨locationText_eq_ok_iff.mpr ⟨writable, rfl⟩, Place.read?_toText _⟩

/-- Two diagnostics have location texts that are read as their places, and that are the same just if the
ranges look the same, where no number that is shown is too great, and only there. -/
theorem locationText_identifies_iff {x y : Diagnostic} :
    (∃ s t, Locates x s ∧ Locates y t ∧ (s = t ↔ SameSpan x.range y.range)) ↔
      (Place.ofDiagnostic x).Writable ∧ (Place.ofDiagnostic y).Writable := by
  constructor
  · rintro ⟨s, t, first, second, -⟩
    exact ⟨(locates_iff.mp first).1, (locates_iff.mp second).1⟩
  · rintro ⟨first, second⟩
    refine ⟨_, _, locates_iff.mpr ⟨first, rfl⟩, locates_iff.mpr ⟨second, rfl⟩, ?_⟩
    rw [Place.toText_inj, ofDiagnostic_eq_iff]

/-- The greatest line that a document can give has a number that is not shown. -/
theorem locationText_greatest :
    let d : Diagnostic :=
      ⟨text "c", text "m", ⟨⟨Text.numberLimit - 1, 0⟩, ⟨none, 1⟩⟩, .error⟩
    locationText d = .error {} ∧
      ¬ ∃ s t, Locates d s ∧ Locates d t ∧ (s = t ↔ SameSpan d.range d.range) := by
  intro d
  have unwritable : ¬ (Place.ofDiagnostic d).Writable := by
    intro writable
    have line : Text.numberLimit - 1 + 1 < Text.numberLimit := (Place.writable_iff.mp writable).1.1
    omega
  refine ⟨?_, fun located => unwritable (locationText_identifies_iff.mp located).1⟩
  cases shown : locationText d with
  | error fault => rfl
  | ok s => exact absurd (locationText_eq_ok_iff.mp shown).1 unwritable

end CheckReport.Report

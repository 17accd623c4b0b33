import CheckReport.Report.Breakdown

/-!
# Counting severity by severity

A tally stays tidy, with its severities in the order of their ranks and none without a positive
count, and what is added to it is added to the count of one severity. So the counts that are made
one diagnostic after the other are those of a recount (`count_ofDiagnostics`, `count_totals`).
-/

namespace CheckReport.Report

namespace Tally

/-- A tally by rank with positive counts only. -/
structure Tidy (tally : Tally) : Prop where
  byRank : tally.Pairwise fun a b => a.1.rank < b.1.rank
  positive : ∀ entry ∈ tally, 0 < entry.2

theorem tidy_nil : Tidy [] :=
  ⟨.nil, fun _ mem => by cases mem⟩

theorem tidy_cons {entry : Severity × Int} {tally : Tally} :
    Tidy (entry :: tally) ↔
      (∀ later ∈ tally, entry.1.rank < later.1.rank) ∧ 0 < entry.2 ∧ Tidy tally := by
  constructor
  · intro given
    obtain ⟨byRank, positive⟩ := given
    obtain ⟨before, byRank⟩ := List.pairwise_cons.mp byRank
    obtain ⟨here, positive⟩ := List.forall_mem_cons.mp positive
    exact ⟨before, here, byRank, positive⟩
  · intro given
    obtain ⟨before, here, byRank, positive⟩ := given
    exact ⟨List.pairwise_cons.mpr ⟨before, byRank⟩, List.forall_mem_cons.mpr ⟨here, positive⟩⟩

/-! ### Counts -/

@[simp] theorem count_nil (severity : Severity) : count [] severity = 0 :=
  rfl

theorem count_cons (entry : Severity × Int) (tally : Tally) (severity : Severity) :
    count (entry :: tally) severity = if entry.1 = severity then entry.2 else count tally severity := by
  unfold count
  by_cases same : entry.1 = severity
  · simp [same]
  · simp [same]

theorem count_eq_zero {tally : Tally} {severity : Severity}
    (later : ∀ entry ∈ tally, severity.rank < entry.1.rank) : count tally severity = 0 := by
  induction tally with
  | nil => rfl
  | cons entry tally ih =>
    obtain ⟨here, later⟩ := List.forall_mem_cons.mp later
    have other : entry.1 ≠ severity := by
      rintro rfl
      exact Nat.lt_irrefl _ here
    rw [count_cons, if_neg other, ih later]

theorem count_pos_iff {tally : Tally} (tidy : Tidy tally) {severity : Severity} :
    0 < count tally severity ↔ severity ∈ tally.map (·.1) := by
  induction tally with
  | nil => simp
  | cons entry tally ih =>
    obtain ⟨_, here, tidy⟩ := tidy_cons.mp tidy
    rw [count_cons, List.map_cons, List.mem_cons, ← ih tidy]
    by_cases same : entry.1 = severity
    · simp [same, here]
    · simp [same, Ne.symm same]

/-! ### Adding -/

theorem mem_add {severity : Severity} {n : Int} {tally : Tally} {entry : Severity × Int}
    (mem : entry ∈ add severity n tally) :
    entry.1 = severity ∨ entry ∈ tally := by
  fun_induction add severity n tally with
  | case1 => exact .inl (List.mem_singleton.mp mem ▸ rfl)
  | case2 m rest =>
    rcases List.mem_cons.mp mem with rfl | later
    · exact .inl rfl
    · exact .inr (List.mem_cons_of_mem _ later)
  | case3 other m rest _ _ ih =>
    rcases List.mem_cons.mp mem with rfl | later
    · exact .inr List.mem_cons_self
    · exact (ih later).imp_right (List.mem_cons_of_mem _)
  | case4 other m rest _ _ =>
    rcases List.mem_cons.mp mem with rfl | later
    · exact .inl rfl
    · exact .inr later

theorem tidy_add {severity : Severity} {n : Int} (positive : 0 < n) {tally : Tally}
    (tidy : Tidy tally) : Tidy (add severity n tally) := by
  fun_induction add severity n tally with
  | case1 => exact tidy_cons.mpr ⟨fun _ mem => (by cases mem), positive, tidy_nil⟩
  | case2 m rest =>
    obtain ⟨before, here, tidy⟩ := tidy_cons.mp tidy
    exact tidy_cons.mpr ⟨before, Int.add_pos here positive, tidy⟩
  | case3 other m rest _ less ih =>
    obtain ⟨before, here, tidy⟩ := tidy_cons.mp tidy
    refine tidy_cons.mpr ⟨fun later mem => ?_, here, ih tidy⟩
    rcases mem_add mem with same | mem
    · rw [same]
      exact less
    · exact before later mem
  | case4 other m rest differs notLess =>
    have ranks : other.rank ≠ severity.rank := fun same => differs (Severity.rank_inj.mp same)
    have first : severity.rank < other.rank := by omega
    obtain ⟨before, _⟩ := tidy_cons.mp tidy
    refine tidy_cons.mpr ⟨List.forall_mem_cons.mpr ⟨first, fun later mem => ?_⟩, positive, tidy⟩
    exact Nat.lt_trans first (before later mem)

/-- Adding changes the count of one severity. -/
theorem count_add {severity : Severity} {n : Int} {tally : Tally} (tidy : Tidy tally)
    (other : Severity) :
    count (add severity n tally) other = count tally other + if severity = other then n else 0 := by
  fun_induction add severity n tally with
  | case1 => simp [count_cons]
  | case2 m rest =>
    rw [count_cons, count_cons]
    split <;> simp
  | case3 first m rest differs _ ih =>
    obtain ⟨_, _, tidy⟩ := tidy_cons.mp tidy
    rw [count_cons, count_cons, ih tidy]
    by_cases same : first = other
    · have apart : severity ≠ other := fun equal => differs (same.trans equal.symm)
      simp [same, apart]
    · simp [same]
  | case4 first m rest differs notLess =>
    have ranks : first.rank ≠ severity.rank := fun same => differs (Severity.rank_inj.mp same)
    obtain ⟨before, _⟩ := tidy_cons.mp tidy
    rw [count_cons]
    split
    · next same =>
      -- the severity stands before all others of the tally, which do not have it
      have later : ∀ entry ∈ (first, m) :: rest, other.rank < entry.1.rank := by
        rw [← same]
        have front : severity.rank < first.rank := by omega
        exact List.forall_mem_cons.mpr
          ⟨front, fun entry mem => Nat.lt_trans front (before entry mem)⟩
      rw [count_eq_zero later, Int.zero_add]
    · rw [Int.add_zero]

theorem total_cons (entry : Severity × Int) (tally : Tally) :
    total (entry :: tally) = entry.2 + total tally :=
  rfl

theorem total_add (severity : Severity) (n : Int) (tally : Tally) :
    (add severity n tally).total = tally.total + n := by
  fun_induction add severity n tally with
  | case1 => exact Int.add_comm n 0
  | case2 m rest =>
    rw [total_cons, total_cons]
    omega
  | case3 other m rest _ _ ih =>
    rw [total_cons, total_cons, ih]
    omega
  | case4 other m rest _ _ =>
    rw [total_cons]
    omega

/-! ### Adding tallies -/

theorem tidy_plus {tally more : Tally} (tidy : Tidy tally) (more_tidy : Tidy more) :
    Tidy (plus tally more) := by
  unfold plus
  induction more generalizing tally with
  | nil => exact tidy
  | cons entry more ih =>
    obtain ⟨_, positive, more_tidy⟩ := tidy_cons.mp more_tidy
    exact ih (tidy_add positive tidy) more_tidy

theorem count_plus {tally more : Tally} (tidy : Tidy tally) (more_tidy : Tidy more)
    (severity : Severity) :
    count (plus tally more) severity = count tally severity + count more severity := by
  unfold plus
  induction more generalizing tally with
  | nil => simp
  | cons entry more ih =>
    obtain ⟨before, positive, more_tidy⟩ := tidy_cons.mp more_tidy
    rw [List.foldl_cons, ih (tidy_add positive tidy) more_tidy, count_add tidy, count_cons]
    split
    · next same =>
      rw [same] at before
      rw [count_eq_zero before, Int.add_zero]
    · rw [Int.add_zero]

theorem total_plus (tally more : Tally) : (plus tally more).total = tally.total + more.total := by
  unfold plus
  induction more generalizing tally with
  | nil => exact (Int.add_zero _).symm
  | cons entry more ih =>
    rw [List.foldl_cons, ih, total_add, total_cons]
    omega

/-! ### Counting diagnostics -/

open Breakdown (occurrences)

theorem occurrences_cons (d : Diagnostic) (ds : List Diagnostic) (severity : Severity) :
    (occurrences (d :: ds) severity : Int) =
      (if d.severity = severity then 1 else 0) + occurrences ds severity := by
  unfold occurrences
  rw [List.countP_cons]
  by_cases same : d.severity = severity
  · simp [same, Int.add_comm]
  · simp [same]

theorem tidy_ofDiagnostics (ds : List Diagnostic) : Tidy (ofDiagnostics ds) := by
  have folded : ∀ tally : Tally, Tidy tally →
      Tidy (ds.foldl (fun tally d => tally.add d.severity 1) tally) := by
    induction ds with
    | nil => exact fun _ tidy => tidy
    | cons d ds ih => exact fun _ tidy => ih _ (tidy_add Int.one_pos tidy)
  exact folded [] tidy_nil

/-- Counting one diagnostic after the other gives as many of each severity as there are. -/
theorem count_ofDiagnostics (ds : List Diagnostic) (severity : Severity) :
    count (ofDiagnostics ds) severity = occurrences ds severity := by
  have folded : ∀ tally : Tally, Tidy tally →
      count (ds.foldl (fun tally d => tally.add d.severity 1) tally) severity =
        count tally severity + occurrences ds severity := by
    induction ds with
    | nil => exact fun tally _ => (Int.add_zero _).symm
    | cons d ds ih =>
      intro tally tidy
      rw [List.foldl_cons, ih _ (tidy_add Int.one_pos tidy), count_add tidy, occurrences_cons,
        Int.add_assoc]
  rw [ofDiagnostics, folded [] tidy_nil, count_nil, Int.zero_add]

theorem total_ofDiagnostics (ds : List Diagnostic) : (ofDiagnostics ds).total = ds.length := by
  have folded : ∀ tally : Tally,
      (ds.foldl (fun tally d => tally.add d.severity 1) tally).total = tally.total + ds.length := by
    induction ds with
    | nil => exact fun tally => (Int.add_zero _).symm
    | cons d ds ih =>
      intro tally
      rw [List.foldl_cons, ih, total_add, List.length_cons]
      omega
  exact (folded []).trans (Int.zero_add _)

end Tally

/-! ### Counting sections -/

open Tally

theorem totals_append (sections : List Section) (tally : Tally) (tidy : Tidy tally) :
    Tidy (sections.foldl (fun totals s => totals.plus s.tally) tally) ∧
      (∀ severity, (sections.foldl (fun totals s => totals.plus s.tally) tally).count severity =
        tally.count severity + sections.foldr (fun s n => s.tally.count severity + n) 0) ∧
      (sections.foldl (fun totals s => totals.plus s.tally) tally).total =
        tally.total + sections.foldr (fun s n => s.tally.total + n) 0 := by
  induction sections generalizing tally with
  | nil => exact ⟨tidy, fun _ => (Int.add_zero _).symm, (Int.add_zero _).symm⟩
  | cons s sections ih =>
    have each : Tidy s.tally := tidy_ofDiagnostics s.diagnostics
    obtain ⟨later, counts, total⟩ := ih (tally.plus s.tally) (tidy_plus tidy each)
    refine ⟨later, fun severity => ?_, ?_⟩
    · rw [List.foldl_cons, counts, count_plus tidy each, List.foldr_cons, Int.add_assoc]
    · rw [List.foldl_cons, total, total_plus, List.foldr_cons, Int.add_assoc]

theorem tidy_totals (sections : List Section) : Tidy (totals sections) :=
  (totals_append sections [] tidy_nil).1

/-- The totals are the counts of the sections added up. -/
theorem count_totals (sections : List Section) (severity : Severity) :
    (totals sections).count severity =
      sections.foldr (fun s n => s.tally.count severity + n) 0 :=
  ((totals_append sections [] tidy_nil).2.1 severity).trans (Int.zero_add _)

theorem total_totals (sections : List Section) :
    (totals sections).total = sections.foldr (fun s n => s.tally.total + n) 0 :=
  (totals_append sections [] tidy_nil).2.2.trans (Int.zero_add _)

end CheckReport.Report

import CheckReport.Proofs.Report.Whole
import CheckReport.Proofs.Text.Split

/-!
# Breakdowns are read back

The text of a breakdown is read as that breakdown (`read?_toText`). So counts that are short enough to be
written say which of them are positive and nothing else (`plain_determines_counts`).
-/

namespace CheckReport.Report

open Terminal (Line Fragment Painter)
open Validation (bind_eq_ok map_eq_ok mapM_eq_ok_iff)

namespace Breakdown

/-! ### One count -/

theorem counted_eq (alwaysPlural : Bool) (n : Nat) (severity : Severity) :
    Tally.counted alwaysPlural n severity =
      Text.ofNat n ++ Text.space :: word alwaysPlural n severity := by
  have blank : text " " = [Text.space] := rfl
  simp [Tally.counted, word, blank, Text.ofInt]

theorem space_not_mem_word (alwaysPlural : Bool) (n : Int) (severity : Severity) :
    Text.space ∉ word alwaysPlural n severity := by
  unfold word
  split <;> cases severity <;> decide

theorem severity?_word (alwaysPlural : Bool) (n : Int) (severity : Severity) :
    severity? (word alwaysPlural n severity) = some severity := by
  unfold word
  split <;> cases severity <;> decide

theorem count?_counted (alwaysPlural : Bool) (n : Nat) (severity : Severity) :
    count? (Text.ofNat n) (word alwaysPlural n severity) = some (severity, n) := by
  rw [count?, severity?_word, Text.number?_ofNat]
  rfl

theorem space_not_mem_ofNat (n : Nat) : Text.space ∉ Text.ofNat n :=
  Text.not_mem_ofNat rfl n

/-! ### Lines of counts -/

theorem plain_separated (separator : Text) (fs : List Fragment) :
    Line.plain (Tally.separated separator fs) = Text.join separator (fs.map (·.text)) := by
  fun_induction Tally.separated separator fs with
  | case1 => rfl
  | case2 f => simp [Line.plain, Text.join]
  | case3 f g rest ih =>
    simp only [Line.plain] at ih
    simp [Line.plain, Text.join, Fragment.plain, ih]

theorem plain_line (alwaysPlural : Bool) (tally : Tally) :
    Line.plain (tally.line alwaysPlural) =
      Text.join (text " / ") (tally.positive.map fun severity =>
        Tally.counted alwaysPlural (tally.count severity) severity) := by
  rw [Tally.line, plain_separated, List.map_map]
  rfl

theorem toText_cons_cons (alwaysPlural : Bool) (first next : Severity × Nat) (rest : Breakdown) :
    toText alwaysPlural (first :: next :: rest) =
      Text.ofNat first.2 ++ Text.space :: (word alwaysPlural first.2 first.1 ++
        Text.space :: (text "/" ++ Text.space :: toText alwaysPlural (next :: rest))) := by
  have bar : text " / " = Text.space :: (text "/" ++ [Text.space]) := rfl
  simp [toText, Text.join, counted_eq, bar]

theorem ofWords?_toText (alwaysPlural : Bool) {breakdown : Breakdown} (some : breakdown ≠ []) :
    ofWords? (Text.split Text.space (toText alwaysPlural breakdown)) = .some breakdown := by
  induction breakdown with
  | nil => exact absurd rfl some
  | cons first rest ih =>
    cases rest with
    | nil =>
      have here : toText alwaysPlural [first] =
          Text.ofNat first.2 ++ Text.space :: word alwaysPlural first.2 first.1 :=
        counted_eq alwaysPlural first.2 first.1
      rw [here, Text.split_append_cons (space_not_mem_ofNat _),
        Text.split_of_not_mem (space_not_mem_word _ _ _), ofWords?, count?_counted]
      rfl
    | cons next rest =>
      have bar : Text.space ∉ text "/" := by decide
      rw [toText_cons_cons, Text.split_append_cons (space_not_mem_ofNat _),
        Text.split_append_cons (space_not_mem_word _ _ _), Text.split_append_cons bar, ofWords?,
        if_pos rfl, count?_counted, ih (List.cons_ne_nil _ _)]
      rfl

theorem toText_ne_nil (alwaysPlural : Bool) (first : Severity × Nat) (rest : Breakdown) :
    toText alwaysPlural (first :: rest) ≠ [] := by
  cases rest with
  | nil => simp [toText, Text.join, counted_eq]
  | cons next rest => simp [toText_cons_cons]

theorem read?_toText (alwaysPlural : Bool) (breakdown : Breakdown) :
    read? (toText alwaysPlural breakdown) = some breakdown := by
  cases breakdown with
  | nil => rfl
  | cons first rest =>
    rw [read?, if_neg (toText_ne_nil alwaysPlural first rest)]
    exact ofWords?_toText alwaysPlural (List.cons_ne_nil first rest)

theorem plain_line_eq_toText (alwaysPlural : Bool) (tally : Tally) :
    Line.plain (tally.line alwaysPlural) = toText alwaysPlural (ofTally tally) := by
  rw [plain_line, toText, ofTally, List.map_map]
  refine congrArg _ (List.map_congr_left fun severity mem => ?_)
  have positive := of_decide_eq_true (List.mem_filter.mp mem).2
  simp only [Function.comp, Int.toNat_of_nonneg (Int.le_of_lt positive)]

theorem toText_inj (alwaysPlural : Bool) {breakdown other : Breakdown} :
    toText alwaysPlural breakdown = toText alwaysPlural other ↔ breakdown = other := by
  constructor
  · intro same
    have both := congrArg read? same
    rwa [read?_toText, read?_toText, Option.some.injEq] at both
  · exact congrArg (toText alwaysPlural)

theorem toText_eq_nil_iff (alwaysPlural : Bool) {breakdown : Breakdown} :
    toText alwaysPlural breakdown = [] ↔ breakdown = [] :=
  @toText_inj alwaysPlural breakdown []

theorem toText_eq_join (alwaysPlural : Bool) (breakdown : Breakdown) :
    toText alwaysPlural breakdown =
      Text.join (text " / ") (breakdown.map fun entry =>
        Text.ofNat entry.2 ++ Text.space :: word alwaysPlural entry.2 entry.1) := by
  simp only [toText, counted_eq]

/-- The line of a tally is read as its positive counts. -/
theorem read?_line (alwaysPlural : Bool) (tally : Tally) :
    read? (Line.plain (tally.line alwaysPlural)) = some (ofTally tally) := by
  rw [plain_line_eq_toText, read?_toText]

/-! ### What a line says of a tally -/

theorem lists_ofTally (tally : Tally) : (ofTally tally).Lists tally := by
  constructor
  · have ranks : Severity.all.Pairwise fun a b => a.rank < b.rank := by decide
    exact List.pairwise_map.mpr (ranks.filter _)
  · intro severity n
    simp only [ofTally, Tally.positive, List.mem_map, List.mem_filter, Severity.mem_all, true_and,
      decide_eq_true_eq, Prod.mk.injEq]
    constructor
    · rintro ⟨_, positive, rfl, rfl⟩
      omega
    · rintro ⟨positive, count⟩
      exact ⟨severity, by omega, rfl, by omega⟩

/-- Tallies have the same positive counts just if these are listed in the same way. -/
theorem ofTally_inj {tally other : Tally} :
    ofTally tally = ofTally other ↔
      ∀ severity, 0 < tally.count severity ∨ 0 < other.count severity →
        tally.count severity = other.count severity := by
  constructor
  · intro same severity positive
    -- whichever count is positive is listed for both
    have listed (n : Nat) :
        0 < n ∧ tally.count severity = n ↔ 0 < n ∧ other.count severity = n := by
      rw [← (lists_ofTally tally).mem_iff, ← (lists_ofTally other).mem_iff, same]
    rcases positive with positive | positive
    · have there := (listed (tally.count severity).toNat).mp (by omega)
      omega
    · have here := (listed (other.count severity).toNat).mpr (by omega)
      omega
  · intro agree
    have positive : tally.positive = other.positive := by
      refine List.filter_congr fun severity _ => decide_eq_decide.mpr ?_
      have same := agree severity
      omega
    unfold ofTally
    rw [← positive]
    refine List.map_congr_left fun severity mem => ?_
    rw [agree severity (.inl (of_decide_eq_true (List.mem_filter.mp mem).2))]

theorem ofTally_eq_nil_iff {tally : Tally} :
    ofTally tally = [] ↔ ∀ severity, tally.count severity ≤ 0 := by
  rw [ofTally, List.map_eq_nil_iff, Tally.positive, List.filter_eq_nil_iff]
  constructor
  · intro none severity
    simpa using none severity severity.mem_all
  · intro none severity _
    simpa using none severity

theorem line_disabled (alwaysPlural : Bool) (tally : Tally) :
    Painter.line ⟨false⟩ (tally.line alwaysPlural) = toText alwaysPlural (ofTally tally) :=
  (Painter.line_disabled _).trans (plain_line_eq_toText alwaysPlural tally)

end Breakdown

/-! ### Counts that are given -/

namespace Counts

theorem count_ofTally (tally : Tally) (severity : Severity) :
    (ofTally tally).count severity = .integer (tally.count severity) := by
  have found : (ofTally tally).find? (·.1 = severity) =
      (tally.find? (·.1 = severity)).map fun entry => (entry.1, .integer entry.2) := by
    rw [ofTally, List.find?_map]
    rfl
  rw [count, Tally.count, found]
  cases tally.find? (·.1 = severity) <;> rfl

theorem positive_ofTally (tally : Tally) : (ofTally tally).positive = tally.positive := by
  simp only [positive, Tally.positive, count_ofTally, Count.value]

/-- A count is written just if it is short enough; one that is not positive would be written as zero. -/
theorem fragment_ofTally_eq_ok_iff {alwaysPlural : Bool} {tally : Tally} {severity : Severity}
    {f : Fragment} : (ofTally tally).fragment alwaysPlural severity = .ok f ↔
      tally.count severity < Text.numberLimit ∧
        f = { text := Tally.counted alwaysPlural (tally.count severity).toNat severity,
              style := severity.style } := by
  have one : (tally.count severity).toNat = (1 : Int) ↔ tally.count severity = 1 := by omega
  have small : (tally.count severity).toNat < Text.numberLimit ↔
      tally.count severity < Text.numberLimit := by
    have := Text.one_lt_numberLimit
    omega
  have same : Tally.counted alwaysPlural (tally.count severity).toNat severity =
      Text.ofNat (tally.count severity).toNat ++ text " " ++
        Breakdown.word alwaysPlural (tally.count severity) severity := by
    simp only [Tally.counted, Breakdown.word, one, ne_eq, List.append_assoc]
    rfl
  simp only [fragment, count_ofTally, Count.toText, Count.value, bind_eq_ok, numeral_eq_ok_iff,
    small, same, pure, Except.pure, Except.ok.injEq]
  constructor
  · intro given
    obtain ⟨_, ⟨short, rfl⟩, rfl⟩ := given
    exact ⟨short, rfl⟩
  · intro given
    obtain ⟨short, rfl⟩ := given
    exact ⟨_, ⟨short, rfl⟩, rfl⟩

/-- Integers are written as those of a tally are, just if all are short enough. -/
theorem line_ofTally_eq_ok_iff {alwaysPlural : Bool} {tally : Tally} {l : Line} :
    (ofTally tally).line alwaysPlural = .ok l ↔
      (∀ severity, tally.count severity < Text.numberLimit) ∧ l = tally.line alwaysPlural := by
  have short : (∀ severity ∈ tally.positive, tally.count severity < Text.numberLimit) ↔
      ∀ severity, tally.count severity < Text.numberLimit := by
    refine ⟨fun all severity => ?_, fun all severity _ => all severity⟩
    by_cases positive : 0 < tally.count severity
    · exact all severity (List.mem_filter.mpr ⟨severity.mem_all, decide_eq_true positive⟩)
    · have := Text.one_lt_numberLimit
      omega
  have listed : tally.line alwaysPlural =
      Tally.separated (text " / ") (tally.positive.map fun severity =>
        { text := Tally.counted alwaysPlural (tally.count severity).toNat severity,
          style := severity.style }) := by
    refine congrArg _ (List.map_congr_left fun severity mem => ?_)
    have positive := of_decide_eq_true (List.mem_filter.mp mem).2
    rw [Int.toNat_of_nonneg (Int.le_of_lt positive)]
  simp only [line, positive_ofTally, bind_eq_ok, mapM_eq_ok_iff fun _ _ => fragment_ofTally_eq_ok_iff,
    short, listed, pure, Except.pure, Except.ok.injEq]
  constructor
  · intro given
    obtain ⟨_, ⟨small, rfl⟩, rfl⟩ := given
    exact ⟨small, rfl⟩
  · intro given
    obtain ⟨small, rfl⟩ := given
    exact ⟨_, ⟨small, rfl⟩, rfl⟩

theorem plain_ofTally_eq_ok_iff {alwaysPlural : Bool} {tally : Tally} {s : Text} :
    (ofTally tally).plain alwaysPlural = .ok s ↔
      (∀ severity, tally.count severity < Text.numberLimit) ∧
        s = Breakdown.toText alwaysPlural (Breakdown.ofTally tally) := by
  simp only [plain, map_eq_ok, line_ofTally_eq_ok_iff]
  constructor
  · intro given
    obtain ⟨_, ⟨small, rfl⟩, rfl⟩ := given
    exact ⟨small, Breakdown.line_disabled alwaysPlural tally⟩
  · intro given
    obtain ⟨small, rfl⟩ := given
    exact ⟨_, ⟨small, rfl⟩, Breakdown.line_disabled alwaysPlural tally⟩

theorem plain_ofTally_eq_error_iff {alwaysPlural : Bool} {tally : Tally} :
    (ofTally tally).plain alwaysPlural = .error {} ↔
      ∃ severity, Text.numberLimit ≤ tally.count severity := by
  have long : (∃ severity, (Text.numberLimit : Int) ≤ tally.count severity) ↔
      ¬ ∀ severity, tally.count severity < Text.numberLimit := by
    simp only [Classical.not_forall, Int.not_lt]
  rw [long]
  cases made : (ofTally tally).plain alwaysPlural with
  | error fault =>
    refine iff_of_true rfl fun short => ?_
    cases made.symm.trans (plain_ofTally_eq_ok_iff.mpr ⟨short, rfl⟩)
  | ok s => exact iff_of_false nofun (not_not_intro (plain_ofTally_eq_ok_iff.mp made).1)

/-- Integers are written without paint just if all are short enough. What is written says which of them
are positive, each once and by rank, and nothing else. -/
theorem plain_determines_counts (alwaysPlural : Bool) (tally other : Tally) :
    let written (tally : Tally) := (ofTally tally).plain alwaysPlural
    (written tally = .error {} ↔ ∃ severity, Text.numberLimit ≤ tally.count severity) ∧
    ((∃ s, written tally = .ok s ∧ written other = .ok s) ↔
      (∀ severity, tally.count severity < Text.numberLimit) ∧
        ∀ severity, 0 < tally.count severity ∨ 0 < other.count severity →
          tally.count severity = other.count severity) ∧
    ∀ s, written tally = .ok s →
      (∃ breakdown : Breakdown, breakdown.Lists tally ∧
        s = Text.join (text " / ") (breakdown.map fun entry =>
          Text.ofNat entry.2 ++ Text.space :: Breakdown.word alwaysPlural entry.2 entry.1) ∧
        Breakdown.read? s = some breakdown) ∧
      (s = [] ↔ ∀ severity, tally.count severity ≤ 0) := by
  intro written
  refine ⟨plain_ofTally_eq_error_iff, ?_, ?_⟩
  · simp only [written, plain_ofTally_eq_ok_iff]
    constructor
    · rintro ⟨_, ⟨short, rfl⟩, -, same⟩
      exact ⟨short, Breakdown.ofTally_inj.mp ((Breakdown.toText_inj alwaysPlural).mp same)⟩
    · rintro ⟨short, agree⟩
      refine ⟨_, ⟨short, rfl⟩, fun severity => ?_, ?_⟩
      · have := agree severity
        have := short severity
        have := Text.one_lt_numberLimit
        omega
      · rw [Breakdown.ofTally_inj.mpr agree]
  · intro s made
    obtain ⟨-, rfl⟩ := plain_ofTally_eq_ok_iff.mp made
    refine ⟨⟨Breakdown.ofTally tally, Breakdown.lists_ofTally tally, ?_, ?_⟩, ?_⟩
    · exact Breakdown.toText_eq_join alwaysPlural (Breakdown.ofTally tally)
    · exact Breakdown.read?_toText alwaysPlural (Breakdown.ofTally tally)
    · exact (Breakdown.toText_eq_nil_iff alwaysPlural).trans Breakdown.ofTally_eq_nil_iff

/-- A count of too many digits is not written, and a truth value is not written as the integer that it
counts as. -/
theorem plain_differs :
    let long : Counts := [(.error, .integer Text.numberLimit)]
    let truth : Counts := [(.error, .truth true)]
    let one : Counts := [(.error, .integer 1)]
    long.plain false = .error {} ∧
      (∀ severity, (truth.count severity).value = (one.count severity).value) ∧
      truth.plain false = .ok (text "True Error") ∧ one.plain false = .ok (text "1 Error") := by
  intro long truth one
  have counted : Tally.count [(.error, (Text.numberLimit : Int))] .error = Text.numberLimit := rfl
  have unwritten : (ofTally [(.error, Text.numberLimit)]).plain false = .error {} :=
    plain_ofTally_eq_error_iff.mpr ⟨.error, Int.le_of_eq counted.symm⟩
  refine ⟨unwritten, fun severity => ?_, rfl, rfl⟩
  cases severity <;> rfl

end Counts

end CheckReport.Report

import CheckReport.Diagnosis.Format
import CheckReport.Proofs.Number.Integer

/-!
# Reading follows the format

`ofValue` gives a diagnosis just for the values that stand for it (`ofValue_eq_ok_iff`).
-/

namespace CheckReport

open Json (Value)
open Validation (both both_eq_ok)

open Validation (map_eq_ok mapError_eq_ok map_both_eq_ok)

namespace Checked

variable {α : Type}

theorem inside_eq_ok {step : Step} {x : Checked α} {a : α} : inside step x = .ok a ↔ x = .ok a := by
  cases x <;> simp [inside]

theorem required_eq_ok {name : Text} {read : Value → Checked α} {members : List (Text × Value)}
    {a : α} :
    required name read members = .ok a ↔
      ∃ v, Value.member? name members = some v ∧ read v = .ok a := by
  rw [required, inside_eq_ok]
  cases Value.member? name members <;> simp [fail]

theorem optional_eq_ok {name : Text} {read : Value → Checked (Option α)}
    {members : List (Text × Value)} {a : Option α} :
    optional name read members = .ok a ↔
      Value.member? name members = none ∧ a = none ∨
        ∃ v, Value.member? name members = some v ∧ read v = .ok a := by
  unfold optional
  cases Value.member? name members with
  | none => simp [eq_comm]
  | some v => simp [inside_eq_ok]

end Checked

namespace Diagnosis

open Checked

/-! ### Records -/

theorem readText_eq_ok {v : Value} {s : Text} : readText v = .ok s ↔ v = .str s := by
  cases v <;> simp [readText, fail]

theorem required_readText {name s : Text} {members : List (Text × Value)} :
    required name readText members = .ok s ↔ Value.member? name members = some (.str s) := by
  simp only [required_eq_ok, readText_eq_ok]
  constructor
  · intro given
    obtain ⟨_, found, rfl⟩ := given
    exact found
  · intro found
    exact ⟨_, found, rfl⟩

theorem readOffset_eq_ok {v : Value} {n : Nat} : readOffset v = .ok n ↔ integer v = .ok (n : Int) := by
  unfold readOffset
  cases integer v with
  | error => simp [fail]
  | ok i =>
    cases i with
    | ofNat a => exact ⟨fun h => congrArg Except.ok (congrArg Int.ofNat (Except.ok.inj h)),
        fun h => congrArg Except.ok (Int.ofNat.inj (Except.ok.inj h))⟩
    | negSucc a => exact ⟨fun h => (by cases h), fun h => (by cases h)⟩

theorem integer_null : integer .null = .error .notInteger :=
  rfl

/-- A floating point number stands for the integer that it is, of a magnitude below `2 ^ 63`. -/
theorem integer_float_eq_ok_iff {negative : Bool} {m : Nat} {e n : Int} :
    integer (.float (.finite negative m e)) = .ok n ↔ n.natAbs < twoTo 63 ∧
      n * twoTo (-e).toNat =
        if negative then -((m * twoTo e.toNat : Nat) : Int) else (m * twoTo e.toNat : Nat) := by
  rw [integer, mapError_eq_ok, Integer.ofBinary64_eq_ok_iff]

/-- A decimal numeral stands for its integer. -/
theorem integer_ofInt {n : Int} (small : n.natAbs < Text.numberLimit) :
    integer (.str (Text.ofInt n)) = .ok n := by
  have paired : (Text.ofInt n).any Text.isSurrogate = false := by
    rw [List.any_eq_false]
    intro c mem
    obtain rfl | digit := Integer.sign_or_digit_of_mem_ofInt mem
    · decide
    · have := Text.isDigit_iff.mp digit
      simp [Text.isSurrogate_of_lt (by omega : c < 0xD800)]
  rw [integer, if_neg (Bool.eq_false_iff.mp paired), Integer.ofText_ofInt small]
  rfl

theorem required_readOffset {name : Text} {members : List (Text × Value)} {n : Nat} :
    required name readOffset members = .ok n ↔ HasOffset name n members := by
  simp only [required_eq_ok, readOffset_eq_ok, HasOffset]

theorem readLine_eq_ok {v : Value} {line : Option Nat} :
    readLine v = .ok line ↔
      v = .null ∧ line = none ∨ ∃ n, line = some n ∧ integer v = .ok (n : Int) := by
  have some_iff (w : Value) :
      (readOffset w).map some = .ok line ↔ ∃ n, line = some n ∧ integer w = .ok (n : Int) := by
    simp only [map_eq_ok, readOffset_eq_ok]
    exact exists_congr fun n => by rw [and_comm, eq_comm]
  cases v with
  | null => simp [readLine, integer_null, eq_comm]
  | _ => simp [readLine, some_iff]

theorem optional_readLine {members : List (Text × Value)} {line : Option Nat} :
    optional (text "line") readLine members = .ok line ↔ HasLine members line := by
  simp only [optional_eq_ok, readLine_eq_ok]
  constructor
  · intro given
    rcases given with ⟨absent, rfl⟩ | ⟨v, found, ⟨rfl, rfl⟩ | ⟨n, rfl, whole⟩⟩
    · exact .absent absent
    · exact .null found
    · exact .line ⟨v, found, whole⟩
  · intro h
    cases h with
    | absent h => exact .inl ⟨h, rfl⟩
    | null h => exact .inr ⟨.null, h, .inl ⟨rfl, rfl⟩⟩
    | line h =>
      obtain ⟨v, found, whole⟩ := h
      exact .inr ⟨v, found, .inr ⟨_, rfl, whole⟩⟩

theorem readPosition_eq_ok {v : Value} {p : Position} :
    readPosition v = .ok p ↔ DenotesPosition v p := by
  cases v with
  | obj members =>
    simp only [readPosition, map_both_eq_ok, required_readOffset]
    constructor
    · intro given
      obtain ⟨line, character, first, second, rfl⟩ := given
      exact .mk first second
    · intro given
      obtain ⟨first, second⟩ := given
      exact ⟨_, _, first, second, rfl⟩
  | _ => exact ⟨fun h => (by cases h), fun h => (by cases h)⟩

theorem readEndPosition_eq_ok {v : Value} {p : EndPosition} :
    readEndPosition v = .ok p ↔ DenotesEndPosition v p := by
  cases v with
  | obj members =>
    simp only [readEndPosition, map_both_eq_ok, optional_readLine, required_readOffset]
    constructor
    · intro given
      obtain ⟨line, character, first, second, rfl⟩ := given
      exact .mk first second
    · intro given
      obtain ⟨first, second⟩ := given
      exact ⟨_, _, first, second, rfl⟩
  | _ => exact ⟨fun h => (by cases h), fun h => (by cases h)⟩

theorem readRange_eq_ok {v : Value} {range : Range} :
    readRange v = .ok range ↔ DenotesRange v range := by
  cases v with
  | obj members =>
    simp only [readRange, map_both_eq_ok, required_eq_ok, readPosition_eq_ok,
      readEndPosition_eq_ok]
    constructor
    · intro given
      obtain ⟨start, stop, ⟨v, first, start_eq⟩, ⟨w, second, stop_eq⟩, rfl⟩ := given
      exact .mk first second start_eq stop_eq
    · intro given
      obtain ⟨first, second, start_eq, stop_eq⟩ := given
      exact ⟨_, _, ⟨_, first, start_eq⟩, ⟨_, second, stop_eq⟩, rfl⟩
  | _ => exact ⟨fun h => (by cases h), fun h => (by cases h)⟩

theorem ofRank?_eq_some {n : Int} {severity : Severity} :
    Severity.ofRank? n = some severity ↔ n = severity.rank := by
  constructor
  · intro h
    have same := List.find?_some h
    exact (of_decide_eq_true same).symm
  · rintro rfl
    exact Severity.ofRank?_rank severity

theorem readSeverity_eq_ok {v : Value} {severity : Severity} :
    readSeverity v = .ok severity ↔ v = .int severity.rank := by
  cases v with
  | int n =>
    rw [Value.int.injEq, ← ofRank?_eq_some]
    simp only [readSeverity, Severity.ofValue]
    cases Severity.ofRank? n <;> simp [fail]
  | _ => exact ⟨fun h => (by cases h), fun h => (by cases h)⟩

theorem required_readSeverity {name : Text} {members : List (Text × Value)} {severity : Severity} :
    required name readSeverity members = .ok severity ↔
      Value.member? name members = some (.int severity.rank) := by
  simp only [required_eq_ok, readSeverity_eq_ok]
  constructor
  · intro given
    obtain ⟨_, found, rfl⟩ := given
    exact found
  · intro found
    exact ⟨_, found, rfl⟩

theorem readDiagnostic_eq_ok {v : Value} {d : Diagnostic} :
    readDiagnostic v = .ok d ↔ DenotesDiagnostic v d := by
  cases v with
  | obj members =>
    simp only [readDiagnostic, map_both_eq_ok, required_readText]
    constructor
    · intro given
      obtain ⟨code, ⟨message, range, severity⟩, first, read, rfl⟩ := given
      obtain ⟨second, read⟩ := both_eq_ok.mp read
      obtain ⟨third, fourth⟩ := both_eq_ok.mp read
      obtain ⟨v, range_mem, range_read⟩ := required_eq_ok.mp third
      exact .mk first (required_readText.mp second) range_mem (readRange_eq_ok.mp range_read)
        (required_readSeverity.mp fourth)
    · intro given
      obtain ⟨code, message, range_mem, range_eq, severity⟩ := given
      have third := required_eq_ok.mpr ⟨_, range_mem, readRange_eq_ok.mpr range_eq⟩
      have second := both_eq_ok.mpr ⟨third, required_readSeverity.mpr severity⟩
      exact ⟨_, (_, _, _), code, both_eq_ok.mpr ⟨required_readText.mpr message, second⟩, rfl⟩
  | _ => exact ⟨fun h => (by cases h), fun h => (by cases h)⟩

/-! ### Lists -/

theorem items_eq_ok {index : Nat} {vs : List Value} {ds : List Diagnostic} :
    items readDiagnostic index vs = .ok ds ↔ DenotesAll vs ds := by
  induction vs generalizing index ds with
  | nil =>
    constructor
    · intro h
      cases h
      exact .nil
    · intro h
      cases h
      rfl
  | cons v vs ih =>
    simp only [items, map_both_eq_ok, inside_eq_ok, readDiagnostic_eq_ok, ih]
    constructor
    · intro given
      obtain ⟨d, ds, first, rest, rfl⟩ := given
      exact .cons first rest
    · intro h
      cases h with
      | cons first rest => exact ⟨_, _, first, rest, rfl⟩

theorem readFile_eq_ok {v : Value} {ds : List Diagnostic} :
    readFile v = .ok ds ↔ ∃ vs, v = .arr vs ∧ DenotesAll vs ds := by
  cases v <;> simp [readFile, fail, items_eq_ok]

theorem entries_eq_ok {members : List (Text × Value)} {diagnosis : Diagnosis} :
    entries readFile members = .ok diagnosis ↔ DenotesFiles members diagnosis := by
  induction members generalizing diagnosis with
  | nil =>
    constructor
    · intro h
      cases h
      exact .nil
    · intro h
      cases h
      rfl
  | cons m members ih =>
    obtain ⟨uri, v⟩ := m
    simp only [entries, map_both_eq_ok, inside_eq_ok, readFile_eq_ok, ih]
    constructor
    · intro given
      obtain ⟨ds, diagnosis, ⟨vs, rfl, first⟩, rest, rfl⟩ := given
      exact .cons first rest
    · intro h
      cases h with
      | cons first rest => exact ⟨_, _, ⟨_, rfl, first⟩, rest, rfl⟩

/-- The diagnosis of a value is the one that the value stands for, if there is one. -/
theorem ofValue_eq_ok_iff {v : Value} {diagnosis : Diagnosis} :
    ofValue v = .ok diagnosis ↔ Denotes v diagnosis := by
  cases v with
  | obj members =>
    rw [ofValue, mapError_eq_ok, entries_eq_ok]
    constructor
    · exact .mk
    · intro given
      obtain ⟨files⟩ := given
      exact files
  | _ => exact ⟨fun h => (by cases h), fun h => (by cases h)⟩

end Diagnosis

end CheckReport

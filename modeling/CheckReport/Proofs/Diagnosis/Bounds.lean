import CheckReport.Diagnosis.Artifact
import CheckReport.Proofs.Diagnosis.Format
import CheckReport.Proofs.Json.Bounded

/-!
# How great the numbers of a diagnosis get

An artifact gives no number of more digits than are read, however the number is written
(`numbers_lt_of_load`).
-/

namespace CheckReport

open Json (Value)
open Text (numberLimit)

namespace Diagnosis

theorem integer_natAbs_lt {v : Value} (bounded : v.Bounded) {n : Int} (h : integer v = .ok n) :
    n.natAbs < numberLimit := by
  unfold integer at h
  split at h
  · next b =>
    cases h
    cases b with
    | false => exact Nat.lt_trans Nat.zero_lt_one Text.one_lt_numberLimit
    | true => exact Text.one_lt_numberLimit
  · cases h
    cases bounded with
    | int small => exact small
  · next x =>
    cases read : Integer.ofBinary64 x with
    | error fault =>
      rw [read] at h
      cases h
    | ok m =>
      rw [read] at h
      cases h
      exact Integer.ofBinary64_natAbs_lt read
  · next s =>
    split at h
    · cases h
    · exact Integer.ofText_natAbs_lt (Validation.mapError_eq_ok.mp h)
  · cases h

theorem bounded_of_member? {name : Text} {members : List (Text × Value)} {v : Value}
    (bounded : (Value.obj members).Bounded) (found : Value.member? name members = some v) :
    v.Bounded := by
  obtain ⟨m, first, rfl⟩ := Option.map_eq_some_iff.mp found
  cases bounded with
  | obj each => exact each m (List.mem_of_find?_eq_some first)

theorem lt_of_hasOffset {name : Text} {members : List (Text × Value)} {n : Nat}
    (bounded : (Value.obj members).Bounded) (h : HasOffset name n members) :
    n < numberLimit := by
  obtain ⟨v, found, whole⟩ := h
  exact integer_natAbs_lt (bounded_of_member? bounded found) whole

theorem lt_of_hasLine {members : List (Text × Value)} {line : Option Nat}
    (bounded : (Value.obj members).Bounded) (h : HasLine members line) :
    ∀ n ∈ line, n < numberLimit := by
  intro n mem
  cases h with
  | absent | null => cases mem
  | line h =>
    cases mem
    exact lt_of_hasOffset bounded h

theorem numbers_lt_of_denotesRange {v : Value} {range : Range} (bounded : v.Bounded)
    (h : DenotesRange v range) : ∀ n ∈ range.numbers, n < numberLimit := by
  obtain ⟨start_mem, stop_mem, start, stop⟩ := h
  have startBounded := bounded_of_member? bounded start_mem
  have stopBounded := bounded_of_member? bounded stop_mem
  obtain ⟨line, character⟩ := start
  obtain ⟨stopLine, stopCharacter⟩ := stop
  simp only [Range.numbers, List.forall_mem_append, List.forall_mem_cons, Option.mem_toList]
  exact ⟨⟨lt_of_hasOffset startBounded line, lt_of_hasOffset startBounded character,
    lt_of_hasOffset stopBounded stopCharacter, fun _ mem => (by cases mem)⟩, lt_of_hasLine stopBounded stopLine⟩

theorem numbers_lt_of_denotesAll {vs : List Value} {ds : List Diagnostic}
    (bounded : ∀ v ∈ vs, v.Bounded) (h : DenotesAll vs ds) :
    ∀ d ∈ ds, ∀ n ∈ d.range.numbers, n < numberLimit := by
  induction h with
  | nil => exact fun _ mem => by cases mem
  | cons first _ ih =>
    obtain ⟨here, later⟩ := List.forall_mem_cons.mp bounded
    obtain ⟨_, _, range_mem, range, _⟩ := first
    exact List.forall_mem_cons.mpr
      ⟨numbers_lt_of_denotesRange (bounded_of_member? here range_mem) range, ih later⟩

theorem numbers_lt_of_denotesFiles {members : List (Text × Value)} {diagnosis : Diagnosis}
    (bounded : ∀ m ∈ members, m.2.Bounded) (h : DenotesFiles members diagnosis) :
    ∀ file ∈ diagnosis, ∀ d ∈ file.2, ∀ n ∈ d.range.numbers, n < numberLimit := by
  induction h with
  | nil => exact fun _ mem => by cases mem
  | cons first _ ih =>
    obtain ⟨here, later⟩ := List.forall_mem_cons.mp bounded
    cases here with
    | arr each => exact List.forall_mem_cons.mpr ⟨numbers_lt_of_denotesAll each first, ih later⟩

theorem numbers_lt_of_ofValue {v : Value} {diagnosis : Diagnosis} (bounded : v.Bounded)
    (h : ofValue v = .ok diagnosis) :
    ∀ d ∈ diagnosis.diagnostics, ∀ n ∈ d.range.numbers, n < numberLimit := by
  obtain ⟨files⟩ := ofValue_eq_ok_iff.mp h
  cases bounded with
  | obj each =>
    intro d mem
    obtain ⟨file, inside, found⟩ := List.mem_flatMap.mp mem
    exact numbers_lt_of_denotesFiles each files file inside d found

end Diagnosis

namespace Artifact

variable [Platform]

theorem value_eq_ok_iff {path document : Text} {v : Value} :
    value path document = .ok v ↔ Json.read document = .ok v := by
  unfold value
  cases Json.read document with
  | ok w => simp
  | error fault => cases fault <;> simp

theorem exists_document_of_load {site : Site} {path : Text} {diagnosis : Diagnosis}
    (h : load site path = .ok diagnosis) :
    ∃ document v, Json.read document = .ok v ∧ Diagnosis.ofValue v = .ok diagnosis := by
  unfold load at h
  split at h
  · obtain ⟨document, _, h⟩ := Validation.bind_eq_ok.mp h
    obtain ⟨v, valued, h⟩ := Validation.bind_eq_ok.mp h
    exact ⟨_, v, value_eq_ok_iff.mp valued, Validation.mapError_eq_ok.mp h⟩
  · cases h

/-- The numbers of a diagnosis in a file have at most as many digits as are read. -/
theorem numbers_lt_of_load {site : Site} {path : Text} {diagnosis : Diagnosis}
    (h : load site path = .ok diagnosis) :
    ∀ d ∈ diagnosis.diagnostics, ∀ n ∈ d.range.numbers, n < numberLimit := by
  obtain ⟨document, v, read, whole⟩ := exists_document_of_load h
  exact Diagnosis.numbers_lt_of_ofValue (Json.bounded_of_read read) whole

end Artifact

end CheckReport

import Mathlib.Data.List.Nodup
import CheckReport.Diagnosis.Offence
import CheckReport.Proofs.Diagnosis.Format

/-!
# Readings tell every offence

A value either stands for a diagnosis, which is then read, or is refused with all its offences, each
told once and in the order of the document (`ofValue_denoted_or_refused`). For this every reader is
shown to report the offences of what it expects, part by part.
-/

namespace CheckReport.Diagnosis

open Json (Value)
open Checked
open Validation (both)

/-! ### Lists of violations -/

section

variable {P Q : Place → Violation → Prop}

theorem Lists.congr {all : List Violation} (listed : Lists P all)
    (same : ∀ place violation, P place violation ↔ Q place violation) : Lists Q all := by
  obtain ⟨found, told, ordered, mem⟩ := listed
  exact ⟨found, told, ordered, fun place violation => (mem place violation).trans (same _ _)⟩

/-- What is to be listed leaves no choice: the order of the places decides. -/
theorem Lists.unique {all others : List Violation} (first : Lists P all) (second : Lists P others) :
    all = others := by
  obtain ⟨found, rfl, ordered, mem⟩ := first
  obtain ⟨found', rfl, ordered', mem'⟩ := second
  have distinct {xs : List (Place × Violation)} (h : xs.Pairwise fun a b => a.1 < b.1) : xs.Nodup :=
    h.imp fun {a b} (lt : a.1 < b.1) same => List.lt_irrefl a.1 (same ▸ lt)
  have perm : found.Perm found' :=
    (List.perm_ext_iff_of_nodup (distinct ordered) (distinct ordered')).mpr fun entry =>
      (mem entry.1 entry.2).trans (mem' entry.1 entry.2).symm
  have apart (a b : Place × Violation) (_ : a ∈ found) (_ : b ∈ found') (lt : a.1 < b.1)
      (gt : b.1 < a.1) : a = b := absurd gt (List.lt_asymm lt)
  rw [perm.eq_of_pairwise apart ordered ordered']

theorem Lists.append {all later : List Violation} (first : Lists P all) (second : Lists Q later)
    (before : ∀ p u q t, P p u → Q q t → p < q) :
    Lists (fun place violation => P place violation ∨ Q place violation) (all ++ later) := by
  obtain ⟨found, rfl, ordered, mem⟩ := first
  obtain ⟨found', rfl, ordered', mem'⟩ := second
  refine ⟨found ++ found', List.map_append, ?_, fun place violation => ?_⟩
  · refine List.pairwise_append.mpr ⟨ordered, ordered', fun a ha b hb => ?_⟩
    exact before a.1 a.2 b.1 b.2 ((mem _ _).mp ha) ((mem' _ _).mp hb)
  · rw [List.mem_append, mem, mem']

end

/-! ### Reports of offences -/

/-- A reading reports what is to be told: it fails with a list of just this, or gives a value where
there is nothing to tell. -/
inductive Reports {α : Type} : Checked α → (Place → Violation → Prop) → Prop where
  | ok {a : α} {kind : Place → Violation → Prop} (none : ∀ place violation, ¬kind place violation) :
      Reports (.ok a) kind
  | error {all : List Violation} {kind : Place → Violation → Prop} (some : all ≠ [])
      (listed : Lists kind all) : Reports (.error all) kind

namespace Reports

variable {α β : Type} {x : Checked α} {y : Checked β} {P Q : Place → Violation → Prop}

theorem congr (reports : Reports x P)
    (same : ∀ place violation, P place violation ↔ Q place violation) : Reports x Q := by
  cases reports with
  | ok none => exact .ok fun place violation given => none place violation ((same _ _).mpr given)
  | error some listed => exact .error some (listed.congr same)

theorem map (reports : Reports x P) (f : α → β) : Reports (x.map f) P := by
  cases reports with
  | ok none => exact .ok none
  | error some listed => exact .error some listed

theorem both (first : Reports x P) (second : Reports y Q)
    (before : ∀ p u q t, P p u → Q q t → p < q) :
    Reports (both x y) fun place violation => P place violation ∨ Q place violation := by
  cases first with
  | ok none =>
    have same (place : Place) (violation : Violation) :
        Q place violation ↔ P place violation ∨ Q place violation :=
      (or_iff_right (none place violation)).symm
    cases second with
    | ok none' => exact .ok fun place violation given => none' _ _ ((same _ _).mpr given)
    | error some listed => exact .error some (listed.congr same)
  | error some listed =>
    cases second with
    | ok none' =>
      have same (place : Place) (violation : Violation) :
          P place violation ↔ P place violation ∨ Q place violation :=
        (or_iff_left (none' place violation)).symm
      exact .error some (listed.congr same)
    | error some' listed' =>
      exact .error (List.append_ne_nil_of_left_ne_nil some _) (listed.append listed' before)

theorem fail {defect : Defect} {v : Value}
    (only : ∀ place violation, P place violation ↔ place = [] ∧ violation = ⟨[], defect, v⟩) :
    Reports (fail defect v : Checked α) P := by
  refine .error (List.cons_ne_nil _ _) ⟨[([], ⟨[], defect, v⟩)], rfl, List.pairwise_singleton _ _, ?_⟩
  intro place violation
  rw [only, List.mem_singleton, Prod.mk.injEq]

/-- A reading inside a part reports what it reports, from the place of the part on. -/
theorem inside (reports : Reports x P) (step : Step) (i : Nat) :
    Reports (inside step x) fun place violation =>
      ∃ q t, place = i :: q ∧ violation = t.under step ∧ P q t := by
  cases reports with
  | ok none =>
    refine .ok ?_
    rintro _ _ ⟨q, t, _, _, given⟩
    exact none q t given
  | error some listed =>
    obtain ⟨found, rfl, ordered, mem⟩ := listed
    refine .error ?_ ⟨found.map fun entry => (i :: entry.1, entry.2.under step), ?_, ?_, ?_⟩
    · simpa using some
    · rw [List.map_map, List.map_map]
      rfl
    · rw [List.pairwise_map]
      exact ordered.imp fun lt => List.cons_lt_cons_iff.mpr (.inr ⟨rfl, lt⟩)
    · intro place violation
      rw [List.mem_map]
      constructor
      · rintro ⟨⟨q, t⟩, told, same⟩
        cases same
        exact ⟨q, t, rfl, rfl, (mem q t).mp told⟩
      · rintro ⟨q, t, rfl, rfl, given⟩
        exact ⟨(q, t), (mem q t).mpr given, rfl⟩

end Reports

/-! ### Offences in parts -/

/-- An offence in one part, the `k`th of a value. -/
def PartOffends (v : Value) (k : Nat) (part : Part) (place : Place) (violation : Violation) : Prop :=
  (part.required = true ∧ part.value = none ∧ place = [k] ∧
      violation = ⟨[part.step], .missing, v⟩) ∨
    ∃ w q t, part.value = some w ∧ place = k :: q ∧ violation = t.under part.step ∧
      Offends part.expected w q t

/-- An offence in some parts, which are counted from `k`. -/
def PartsOffend (v : Value) (k : Nat) (parts : List Part) (place : Place) (violation : Violation) :
    Prop :=
  ∃ i part, parts[i]? = some part ∧ PartOffends v (k + i) part place violation

theorem partsOffend_nil {v : Value} {k : Nat} {place : Place} {violation : Violation} :
    ¬PartsOffend v k [] place violation := by
  rintro ⟨i, part, found, _⟩
  cases found

theorem partsOffend_cons {v : Value} {k : Nat} {part : Part} {parts : List Part} {place : Place}
    {violation : Violation} :
    PartsOffend v k (part :: parts) place violation ↔
      PartOffends v k part place violation ∨ PartsOffend v (k + 1) parts place violation := by
  constructor
  · rintro ⟨i, p, found, given⟩
    cases i with
    | zero =>
      cases found
      exact .inl given
    | succ i =>
      rw [Nat.add_succ, ← Nat.succ_add] at given
      exact .inr ⟨i, p, found, given⟩
  · rintro (given | ⟨i, p, found, given⟩)
    · exact ⟨0, part, rfl, given⟩
    · rw [Nat.succ_add, ← Nat.add_succ] at given
      exact ⟨i + 1, p, found, given⟩

theorem head?_of_partOffends {v : Value} {k : Nat} {part : Part} {place : Place}
    {violation : Violation} (given : PartOffends v k part place violation) :
    ∃ q, place = k :: q := by
  rcases given with ⟨_, _, rfl, _⟩ | ⟨_, q, _, _, rfl, _⟩
  · exact ⟨[], rfl⟩
  · exact ⟨q, rfl⟩

theorem partOffends_lt {v : Value} {k : Nat} {part : Part} {parts : List Part} {p q : Place}
    {u t : Violation} (first : PartOffends v k part p u) (later : PartsOffend v (k + 1) parts q t) :
    p < q := by
  obtain ⟨i, _, _, second⟩ := later
  obtain ⟨_, rfl⟩ := head?_of_partOffends first
  obtain ⟨_, rfl⟩ := head?_of_partOffends second
  exact List.cons_lt_cons_iff.mpr (.inl (by omega))

theorem offends_iff {expected : Expected} {v : Value} {place : Place} {violation : Violation} :
    Offends expected v place violation ↔
      (∃ defect, Wrong expected v defect ∧ place = [] ∧ violation = ⟨[], defect, v⟩) ∨
        PartsOffend v 0 (expected.parts v) place violation := by
  constructor
  · intro given
    cases given with
    | whole wrong => exact .inl ⟨_, wrong, rfl, rfl⟩
    | missing found required absent =>
      exact .inr ⟨_, _, found, .inl ⟨required, absent, by rw [Nat.zero_add], rfl⟩⟩
    | part found there inside =>
      exact .inr ⟨_, _, found, .inr ⟨_, _, _, there, by rw [Nat.zero_add], rfl, inside⟩⟩
  · rintro (⟨defect, wrong, rfl, rfl⟩ | ⟨i, part, found, given⟩)
    · exact .whole wrong
    · rw [Nat.zero_add] at given
      rcases given with ⟨required, absent, rfl, rfl⟩ | ⟨w, q, t, there, rfl, rfl, inside⟩
      · exact .missing found required absent
      · exact .part found there inside

namespace Reports

variable {α β : Type} {v : Value}

/-- A reading of one part, and readings of the parts after it. -/
theorem cons {x : Checked α} {y : Checked β} {k : Nat} {part : Part} {parts : List Part}
    (first : Reports x (PartOffends v k part)) (later : Reports y (PartsOffend v (k + 1) parts)) :
    Reports (Validation.both x y) (PartsOffend v k (part :: parts)) :=
  (first.both later fun _ _ _ _ => partOffends_lt).congr fun _ _ => partsOffend_cons.symm

theorem last {x : Checked α} {k : Nat} {part : Part} (only : Reports x (PartOffends v k part)) :
    Reports x (PartsOffend v k [part]) :=
  only.congr fun _ _ => (partsOffend_cons.trans (or_iff_left partsOffend_nil)).symm

/-- A value that is not wrong itself has the offences of its parts. -/
theorem ofParts {x : Checked α} {expected : Expected} (right : ∀ defect, ¬Wrong expected v defect)
    (parts : Reports x (PartsOffend v 0 (expected.parts v))) : Reports x (Offends expected v) := by
  refine parts.congr fun place violation => ?_
  rw [offends_iff, or_iff_right]
  rintro ⟨defect, wrong, _⟩
  exact right defect wrong

theorem ofWrong {expected : Expected} {defect : Defect}
    (wrong : ∀ d, Wrong expected v d ↔ d = defect) (none : expected.parts v = []) :
    Reports (Checked.fail defect v : Checked α) (Offends expected v) := by
  refine .fail fun place violation => ?_
  rw [offends_iff, none, or_iff_left partsOffend_nil]
  simp only [wrong, exists_eq_left]

theorem ofRight {expected : Expected} {a : α} (right : ∀ defect, ¬Wrong expected v defect)
    (none : expected.parts v = []) : Reports (.ok a) (Offends expected v) := by
  refine ofParts right ?_
  rw [none]
  exact .ok fun _ _ => partsOffend_nil

end Reports

/-- A reader reports the offences of every value against what is expected. -/
def Finds {α : Type} (expected : Expected) (read : Value → Checked α) : Prop :=
  ∀ v, Reports (read v) (Offends expected v)

section

variable {α : Type} {expected : Expected}

theorem reports_part {read : Value → Checked α} (finds : Finds expected read) {v w : Value}
    {step : Step} {required : Bool} (k : Nat) :
    Reports (inside step (read w)) (PartOffends v k ⟨step, expected, some w, required⟩) := by
  refine ((finds w).inside step k).congr fun place violation => ?_
  simp [PartOffends]

theorem reports_required (name : Text) (members : List (Text × Value))
    {read : Value → Checked α} (finds : Finds expected read) (k : Nat) :
    Reports (required name read members)
      (PartOffends (.obj members) k (.field members name expected)) := by
  unfold required Part.field
  cases Value.member? name members with
  | none =>
    refine ((Reports.fail fun _ _ => Iff.rfl).inside (.member name) k).congr fun place violation => ?_
    simp [PartOffends, Violation.under]
  | some v => exact reports_part finds k

theorem reports_optional (name : Text) (members : List (Text × Value))
    {read : Value → Checked (Option α)} (finds : Finds expected read) (k : Nat) :
    Reports (Checked.optional name read members)
      (PartOffends (.obj members) k (.field members name expected false)) := by
  unfold Checked.optional Part.field
  cases Value.member? name members with
  | none =>
    refine .ok fun place violation => ?_
    simp [PartOffends]
  | some v => exact reports_part finds k

end

/-! ### What is wrong -/

section

variable {v : Value} {d : Defect}

theorem wrong_string_iff : Wrong .string v d ↔ d = .notText ∧ ∀ s, v ≠ .str s := by
  constructor
  · intro wrong
    cases wrong with
    | notRecord named => cases named
    | notText other => exact ⟨rfl, other⟩
  · rintro ⟨rfl, other⟩
    exact .notText other

theorem wrong_offset_iff :
    Wrong .offset v d ↔ integer v = .error d ∨ d = .negative ∧ ∃ n, integer v = .ok n ∧ n < 0 := by
  constructor
  · intro wrong
    cases wrong with
    | notRecord named => cases named
    | notOffset fails => exact .inl fails
    | negative whole below => exact .inr ⟨rfl, _, whole, below⟩
  · rintro (fails | ⟨rfl, n, whole, below⟩)
    · exact .notOffset fails
    · exact .negative whole below

theorem wrong_line_iff : Wrong .line v d ↔ v ≠ .null ∧ Wrong .offset v d := by
  constructor
  · intro wrong
    cases wrong with
    | notRecord named => cases named
    | line other wrong => exact ⟨other, wrong⟩
  · rintro ⟨other, wrong⟩
    exact .line other wrong

theorem wrong_severity_iff : Wrong .severity v d ↔
    d = .unknownSeverity ⟨v⟩ ∧ ∀ severity : Severity, v ≠ .int severity.rank := by
  constructor
  · intro wrong
    cases wrong with
    | notRecord named => cases named
    | severity other => exact ⟨rfl, other⟩
  · rintro ⟨rfl, other⟩
    exact .severity other

theorem wrong_file_iff : Wrong .file v d ↔ d = .notList ∧ ∀ vs, v ≠ .arr vs := by
  constructor
  · intro wrong
    cases wrong with
    | notRecord named => cases named
    | notList other => exact ⟨rfl, other⟩
  · rintro ⟨rfl, other⟩
    exact .notList other

theorem wrong_record_iff {expected : Expected} {record : Record}
    (named : expected.record? = some record) :
    Wrong expected v d ↔ d = .notRecord record ∧ ∀ members, v ≠ .obj members := by
  constructor
  · intro wrong
    cases wrong with
    | notRecord named' other => exact ⟨by rw [Option.some.inj (named'.symm.trans named)], other⟩
    | notList | notText | notOffset | negative | line | severity => cases named
  · rintro ⟨rfl, other⟩
    exact .notRecord named other

end

/-! ### Values without parts -/

theorem finds_readText : Finds .string readText := by
  intro v
  cases v with
  | str s => exact .ofRight (by simp [wrong_string_iff]) rfl
  | _ => exact .ofWrong (by simp [wrong_string_iff]) rfl

theorem parts_offset (v : Value) : Expected.offset.parts v = [] := by
  cases v <;> rfl

theorem parts_line (v : Value) : Expected.line.parts v = [] := by
  cases v <;> rfl

theorem parts_severity (v : Value) : Expected.severity.parts v = [] := by
  cases v <;> rfl

theorem finds_readOffset : Finds .offset readOffset := by
  intro v
  unfold readOffset
  cases given : integer v with
  | error defect =>
    exact .ofWrong (by simp [wrong_offset_iff, given, eq_comm]) (parts_offset v)
  | ok n =>
    cases n with
    | ofNat n => exact .ofRight (by simp [wrong_offset_iff, given]) (parts_offset v)
    | negSucc n =>
      exact .ofWrong (by simp [wrong_offset_iff, given, Int.negSucc_lt_zero]) (parts_offset v)

theorem readLine_of_ne_null {v : Value} (other : v ≠ .null) :
    readLine v = (readOffset v).map some := by
  cases v with
  | null => exact absurd rfl other
  | _ => rfl

theorem finds_readLine : Finds .line readLine := by
  intro v
  by_cases null : v = .null
  · subst null
    exact .ofRight (by simp [wrong_line_iff]) rfl
  · rw [readLine_of_ne_null null]
    refine ((finds_readOffset v).map some).congr fun place violation => ?_
    rw [offends_iff, offends_iff, parts_line, parts_offset]
    simp only [wrong_line_iff, null, ne_eq, not_false_eq_true, true_and, partsOffend_nil]

theorem readSeverity_of_unknown {v : Value} (other : ∀ severity : Severity, v ≠ .int severity.rank) :
    readSeverity v = fail (.unknownSeverity ⟨v⟩) v := by
  cases v with
  | int n =>
    have none : Severity.ofRank? n = none := by
      cases found : Severity.ofRank? n with
      | none => rfl
      | some severity => exact absurd (congrArg Value.int (ofRank?_eq_some.mp found)) (other severity)
    simp only [readSeverity, Severity.ofValue, none]
  | _ => rfl

theorem finds_readSeverity : Finds .severity readSeverity := by
  intro v
  by_cases known : ∃ severity : Severity, v = .int severity.rank
  · obtain ⟨severity, rfl⟩ := known
    rw [readSeverity_eq_ok.mpr rfl]
    exact .ofRight (fun _ wrong => (wrong_severity_iff.mp wrong).2 severity rfl) rfl
  · have other (severity : Severity) : v ≠ .int severity.rank := fun same => known ⟨severity, same⟩
    rw [readSeverity_of_unknown other]
    exact .ofWrong (fun d => wrong_severity_iff.trans (and_iff_left other)) (parts_severity v)

/-! ### Records -/

section

variable {α : Type} {expected : Expected} {record : Record}

theorem finds_record {read : Value → Checked α} (named : expected.record? = some record)
    (whole : ∀ members, Reports (read (.obj members))
      (PartsOffend (.obj members) 0 (expected.parts (.obj members))))
    (other : ∀ v, (∀ members, v ≠ .obj members) →
      read v = fail (.notRecord record) v ∧ expected.parts v = []) : Finds expected read := by
  intro v
  by_cases object : ∃ members, v = .obj members
  · obtain ⟨members, rfl⟩ := object
    exact .ofParts (by simp [wrong_record_iff named]) (whole members)
  · have none (members : List (Text × Value)) : v ≠ .obj members := fun same => object ⟨members, same⟩
    obtain ⟨refused, noParts⟩ := other v none
    rw [refused]
    exact .ofWrong (fun d => (wrong_record_iff named).trans (and_iff_left none)) noParts

end

theorem finds_readPosition : Finds .position readPosition := by
  refine finds_record rfl (fun members => ?_) fun v other => ?_
  · have line := reports_required (text "line") members finds_readOffset 0
    have character := reports_required (text "character") members finds_readOffset 1
    exact (line.cons character.last).map _
  · cases v with
    | obj members => exact absurd rfl (other members)
    | _ => exact ⟨rfl, rfl⟩

theorem finds_readEndPosition : Finds .endPosition readEndPosition := by
  refine finds_record rfl (fun members => ?_) fun v other => ?_
  · have line := reports_optional (text "line") members finds_readLine 0
    have character := reports_required (text "character") members finds_readOffset 1
    exact (line.cons character.last).map _
  · cases v with
    | obj members => exact absurd rfl (other members)
    | _ => exact ⟨rfl, rfl⟩

theorem finds_readRange : Finds .range readRange := by
  refine finds_record rfl (fun members => ?_) fun v other => ?_
  · have start := reports_required (text "start") members finds_readPosition 0
    have stop := reports_required (text "end") members finds_readEndPosition 1
    exact (start.cons stop.last).map _
  · cases v with
    | obj members => exact absurd rfl (other members)
    | _ => exact ⟨rfl, rfl⟩

theorem finds_readDiagnostic : Finds .diagnostic readDiagnostic := by
  refine finds_record rfl (fun members => ?_) fun v other => ?_
  · have code := reports_required (text "code") members finds_readText 0
    have message := reports_required (text "message") members finds_readText 1
    have range := reports_required (text "range") members finds_readRange 2
    have severity := reports_required (text "severity") members finds_readSeverity 3
    exact (code.cons (message.cons (range.cons severity.last))).map _
  · cases v with
    | obj members => exact absurd rfl (other members)
    | _ => exact ⟨rfl, rfl⟩

/-! ### Lists and objects -/

theorem reports_items (v : Value) (vs : List Value) (k : Nat) :
    Reports (items readDiagnostic k vs) (PartsOffend v k
      ((vs.zipIdx k).map fun v => { step := .item v.2, expected := .diagnostic, value := some v.1 })) := by
  induction vs generalizing k with
  | nil => exact .ok fun _ _ => partsOffend_nil
  | cons w vs ih => exact ((reports_part finds_readDiagnostic k).cons (ih (k + 1))).map _

theorem finds_readFile : Finds .file readFile := by
  intro v
  cases v with
  | arr vs => exact .ofParts (by simp [wrong_file_iff]) (reports_items (.arr vs) vs 0)
  | _ => exact .ofWrong (by simp [wrong_file_iff]) rfl

theorem reports_entries (v : Value) (members : List (Text × Value)) (k : Nat) :
    Reports (entries readFile members) (PartsOffend v k
      (members.map fun m => { step := .member m.1, expected := .file, value := some m.2 })) := by
  induction members generalizing k with
  | nil => exact .ok fun _ _ => partsOffend_nil
  | cons m members ih =>
    exact ((reports_part finds_readFile k).cons (ih (k + 1))).map _

theorem reports_diagnosis (members : List (Text × Value)) :
    Reports (entries readFile members) (Offends .diagnosis (.obj members)) := by
  refine .ofParts ?_ (reports_entries (.obj members) members 0)
  rintro d (_ | ⟨named, _⟩)
  cases named

/-! ### Paths -/

/-- The names of the members of a diagnosis, as far as it has any, are distinct. -/
def NamesDistinct (expected : Expected) (v : Value) : Prop :=
  expected = .diagnosis → ∀ members, v = .obj members → (members.map Prod.fst).Nodup

theorem expected_ne_diagnosis (expected : Expected) (v : Value) :
    ∀ part ∈ expected.parts v, part.expected ≠ .diagnosis := by
  unfold Expected.parts
  split
  · exact List.forall_mem_map.mpr fun _ _ same => by cases same
  · exact List.forall_mem_map.mpr fun _ _ same => by cases same
  all_goals simp [Part.field]

theorem nodup_steps {expected : Expected} {v : Value} (distinct : NamesDistinct expected v) :
    ((expected.parts v).map Part.step).Nodup := by
  unfold Expected.parts
  split
  · next members =>
    have names : (members.map Prod.fst).Nodup := distinct rfl members rfl
    have steps := names.map fun _ _ => Step.member.inj
    rwa [List.map_map] at steps ⊢
  · next vs =>
    have steps := (List.nodup_range' (s := 0) (n := vs.length)).map fun _ _ => Step.item.inj
    rw [← List.zipIdx_map_snd, List.map_map] at steps
    rwa [List.map_map]
  all_goals simp [Part.field, text]

theorem index_eq_of_step_eq {expected : Expected} {v : Value} {i j : Nat} {a b : Part}
    (distinct : NamesDistinct expected v) (first : (expected.parts v)[i]? = some a)
    (second : (expected.parts v)[j]? = some b) (same : a.step = b.step) : i = j := by
  have steps := nodup_steps distinct
  have inside : i < ((expected.parts v).map Part.step).length := by
    rw [List.length_map]
    exact (List.getElem?_eq_some_iff.mp first).1
  refine (List.getElem?_inj inside steps).mp ?_
  rw [List.getElem?_map, List.getElem?_map, first, second, Option.map_some, Option.map_some, same]

/-- Offences at different places have different paths. -/
theorem place_eq_of_path_eq {expected : Expected} {v : Value} {p q : Place} {u t : Violation}
    (distinct : NamesDistinct expected v) (first : Offends expected v p u)
    (second : Offends expected v q t) (same : u.path = t.path) : p = q := by
  induction first generalizing q t with
  | whole =>
    cases second with
    | whole => rfl
    | missing => cases same
    | part => cases same
  | missing found _ absent =>
    cases second with
    | whole => cases same
    | missing found' =>
      rw [index_eq_of_step_eq distinct found found' (List.cons.inj same).1]
    | part found' there =>
      obtain rfl := index_eq_of_step_eq distinct found found' (List.cons.inj same).1
      cases found.symm.trans found'
      cases absent.symm.trans there
  | part found there _ ih =>
    cases second with
    | whole => cases same
    | missing found' _ absent =>
      obtain rfl := index_eq_of_step_eq distinct found found' (List.cons.inj same).1
      cases found.symm.trans found'
      cases absent.symm.trans there
    | part found' there' inside =>
      obtain rfl := index_eq_of_step_eq distinct found found' (List.cons.inj same).1
      cases found.symm.trans found'
      cases there.symm.trans there'
      have later := expected_ne_diagnosis _ _ _ (List.mem_of_getElem? found)
      rw [ih (fun whole => absurd whole later) inside (List.cons.inj same).2]

theorem nodup_paths {members : List (Text × Value)} {all : List Violation}
    (distinct : (members.map Prod.fst).Nodup)
    (listed : Lists (Offends .diagnosis (.obj members)) all) : (all.map Violation.path).Nodup := by
  obtain ⟨found, rfl, ordered, mem⟩ := listed
  have names : NamesDistinct .diagnosis (.obj members) := by
    rintro _ _ ⟨⟩
    exact distinct
  rw [List.map_map, List.Nodup, List.pairwise_map]
  refine ordered.imp_of_mem fun {a b} ha hb lt same => ?_
  have places := place_eq_of_path_eq names ((mem _ _).mp ha) ((mem _ _).mp hb) same
  exact List.lt_irrefl b.1 (places ▸ lt)

/-! ### Diagnoses -/

/-- A value stands for a diagnosis, which is then read, or it is refused: as no object, or with all
its offences. -/
theorem ofValue_denoted_or_refused (v : Value) :
    (∀ diagnosis, ofValue v = .ok diagnosis ↔ Denotes v diagnosis) ∧
      ∀ fault, ofValue v = .error fault ↔ Refused v fault := by
  refine ⟨fun _ => ofValue_eq_ok_iff, fun fault => ?_⟩
  cases v with
  | obj members =>
    have reports := reports_diagnosis members
    change (entries readFile members).mapError .violations = .error fault ↔ _
    cases read : entries readFile members with
    | ok diagnosis =>
      rw [read] at reports
      cases reports with
      | ok none =>
        constructor
        · rintro ⟨⟩
        · rintro (⟨other⟩ | ⟨some, ⟨found, rfl, _, mem⟩, _⟩)
          · exact absurd rfl (other members)
          · obtain ⟨entry, inside⟩ := List.exists_mem_of_ne_nil found (by simpa using some)
            exact absurd ((mem _ _).mp inside) (none entry.1 entry.2)
    | error all =>
      rw [read] at reports
      cases reports with
      | error some listed =>
        constructor
        · rintro ⟨⟩
          exact .violations some listed fun distinct => nodup_paths distinct listed
        · rintro (⟨other⟩ | ⟨_, listed', _⟩)
          · exact absurd rfl (other members)
          · rw [listed'.unique listed]
            rfl
  | _ =>
    constructor
    · rintro ⟨⟩
      exact .notObject fun _ => by simp
    · rintro ⟨⟩
      rfl

end CheckReport.Diagnosis

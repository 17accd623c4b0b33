import CheckReport.Diagnosis.Document
import CheckReport.Proofs.Diagnosis.Artifact
import CheckReport.Proofs.Diagnosis.Format
import CheckReport.Proofs.Json.Echo
import CheckReport.Proofs.Json.Members

/-!
# Written diagnoses are loaded again

A file that holds a diagnosis as printed JSON is loaded as this diagnosis (`load_of_printed`): what
comes back for its value still stands for the diagnosis.
-/

namespace CheckReport

open Json (Value Echo EchoMember members paired)
open Json.Value (member?)

/-! ### Members that come back -/

namespace Json

theorem exists_mem_of_forall₂ {α β : Type} {R : α → β → Prop} {as : List α} {bs : List β} {a : α}
    (both : List.Forall₂ R as bs) (mem : a ∈ as) : ∃ b ∈ bs, R a b := by
  induction both with
  | nil => cases mem
  | cons first later ih =>
    rcases List.mem_cons.mp mem with rfl | mem
    · exact ⟨_, List.mem_cons_self, first⟩
    · obtain ⟨b, here, related⟩ := ih mem
      exact ⟨b, List.mem_cons_of_mem _ here, related⟩

section

variable {name : Text} {v : Value} {ms known listed : List (Text × Value)}

/-- A name in ASCII comes back from itself alone. -/
theorem paired_eq_iff (ascii : ∀ c ∈ name, c < 0x80) {s : Text} : paired s = name ↔ s = name := by
  constructor
  · intro same
    rw [← same] at ascii
    exact (eq_of_paired_ascii ascii).symm.trans same
  · rintro rfl
    exact paired_of_scalar fun c inside =>
      Text.isSurrogate_of_lt (Nat.lt_trans (ascii c inside) (by decide))

theorem exists_of_mem_listed (echo : List.Forall₂ (EchoMember Echo) ms listed)
    (ascii : ∀ c ∈ name, c < 0x80) {w : Value} (mem : (name, w) ∈ listed) :
    ∃ v, (name, v) ∈ ms ∧ Echo v w := by
  obtain ⟨m, here, source⟩ := exists_mem_of_forall₂ echo.flip mem
  generalize back : (name, w) = l at source
  cases source with
  | @mk n v w' value =>
    obtain ⟨same, rfl⟩ := Prod.mk.inj back
    exact ⟨v, (paired_eq_iff ascii).mp same.symm ▸ here, value⟩

/-- A member of a record comes back under its name. -/
theorem member?_of_echo (name : Text) (echo : List.Forall₂ (EchoMember Echo) ms listed) (order : ms.Perm known)
    (ascii : ∀ c ∈ name, c < 0x80) (mem : (name, v) ∈ known)
    (only : ∀ m ∈ known, m.1 = name → m.2 = v) :
    ∃ w, member? name (members listed) = some w ∧ Echo v w := by
  obtain ⟨l, here, source⟩ := exists_mem_of_forall₂ echo (order.mem_iff.mpr mem)
  cases source with
  | @mk _ _ u _ =>
    rw [(paired_eq_iff ascii).mpr rfl] at here
    obtain ⟨w, found, listed⟩ := exists_member?_members here
    obtain ⟨v', source, value⟩ := exists_of_mem_listed echo ascii listed
    obtain rfl : v' = v := only _ (order.mem_iff.mp source) rfl
    exact ⟨w, found, value⟩

/-- A name that a record does not have does not come back. -/
theorem member?_eq_none_of_echo (name : Text) (echo : List.Forall₂ (EchoMember Echo) ms listed)
    (order : ms.Perm known) (ascii : ∀ c ∈ name, c < 0x80) (absent : ∀ m ∈ known, m.1 ≠ name) :
    member? name (members listed) = none := by
  cases found : member? name (members listed) with
  | none => rfl
  | some w =>
    rw [member?_members] at found
    have here := List.mem_reverse.mp (mem_of_member? found)
    obtain ⟨v, source, _⟩ := exists_of_mem_listed echo ascii here
    exact absurd rfl (absent _ (order.mem_iff.mp source))

end

end Json

namespace Diagnosis

open Json (member?_of_echo member?_eq_none_of_echo)

/-! ### Records -/

section

variable {v w : Value}

theorem denotesPosition_of_echo {p : Position} (writes : WritesPosition v p) (echo : Echo v w) :
    DenotesPosition w p := by
  obtain ⟨order⟩ := writes
  cases echo with
  | obj items =>
    obtain ⟨_, line, ⟨⟩⟩ := member?_of_echo (text "line") items order (by decide)
      (.head _) (by simp [text])
    obtain ⟨_, character, ⟨⟩⟩ := member?_of_echo (text "character") items order
      (by decide) (.tail _ (.head _)) (by simp [text])
    exact .mk ⟨_, line, rfl⟩ ⟨_, character, rfl⟩

theorem denotesEndPosition_of_echo {p : EndPosition} (writes : WritesEndPosition v p)
    (echo : Echo v w) : DenotesEndPosition w p := by
  cases writes with
  | line order =>
    cases echo with
    | obj items =>
      obtain ⟨_, line, ⟨⟩⟩ := member?_of_echo (text "line") items order (by decide)
        (.head _) (by simp [text])
      obtain ⟨_, character, ⟨⟩⟩ := member?_of_echo (text "character") items order
        (by decide) (.tail _ (.head _)) (by simp [text])
      exact .mk (.line ⟨_, line, rfl⟩) ⟨_, character, rfl⟩
  | null order =>
    cases echo with
    | obj items =>
      obtain ⟨_, line, ⟨⟩⟩ := member?_of_echo (text "line") items order (by decide)
        (.head _) (by simp [text])
      obtain ⟨_, character, ⟨⟩⟩ := member?_of_echo (text "character") items order
        (by decide) (.tail _ (.head _)) (by simp [text])
      exact .mk (.null line) ⟨_, character, rfl⟩
  | absent order =>
    cases echo with
    | obj items =>
      have line := member?_eq_none_of_echo (text "line") items order (by decide)
        (by simp [text])
      obtain ⟨_, character, ⟨⟩⟩ := member?_of_echo (text "character") items order
        (by decide) (.head _) (by simp [text])
      exact .mk (.absent line) ⟨_, character, rfl⟩

theorem denotesRange_of_echo {range : Range} (writes : WritesRange v range) (echo : Echo v w) :
    DenotesRange w range := by
  obtain ⟨startWrites, stopWrites, order⟩ := writes
  cases echo with
  | obj items =>
    obtain ⟨_, start, startBack⟩ := member?_of_echo (text "start") items order (by decide)
      (.head _) (by simp [text])
    obtain ⟨_, stop, stopBack⟩ := member?_of_echo (text "end") items order (by decide)
      (.tail _ (.head _)) (by simp [text])
    exact .mk start stop (denotesPosition_of_echo startWrites startBack)
      (denotesEndPosition_of_echo stopWrites stopBack)

/-- A member that a diagnostic needs comes back, whatever others there are. -/
theorem member?_field_of_echo (name : Text) {ms own extra listed : List (Text × Value)}
    (items : List.Forall₂ (EchoMember Echo) ms listed) (foreign : ∀ m ∈ extra, m.1 ∉ fields)
    (order : ms.Perm (own ++ extra)) (needed : name ∈ fields) (mem : (name, v) ∈ own)
    (only : ∀ m ∈ own, m.1 = name → m.2 = v) :
    ∃ w, member? name (members listed) = some w ∧ Echo v w := by
  have ascii : ∀ name ∈ fields, ∀ c ∈ name, c < 0x80 := by decide
  refine member?_of_echo name items order (ascii name needed) (List.mem_append_left _ mem) ?_
  intro m mem same
  rcases List.mem_append.mp mem with known | other
  · exact only m known same
  · exact absurd (same ▸ needed) (foreign m other)

theorem denotesDiagnostic_of_echo {d : Diagnostic}
    (scalar : (∀ c ∈ d.code, Text.IsScalar c) ∧ ∀ c ∈ d.message, Text.IsScalar c)
    (writes : WritesDiagnostic v d) (echo : Echo v w) : DenotesDiagnostic w d := by
  obtain ⟨rangeWrites, foreign, order⟩ := writes
  cases echo with
  | obj items =>
    obtain ⟨_, code, ⟨⟩⟩ := member?_field_of_echo (text "code") items foreign order
      (by decide) (.head _) (by simp [text])
    obtain ⟨_, message, ⟨⟩⟩ := member?_field_of_echo (text "message") items foreign order
      (by decide) (.tail _ (.head _)) (by simp [text])
    obtain ⟨_, range, rangeBack⟩ := member?_field_of_echo (text "range") items foreign order
      (by decide) (.tail _ (.tail _ (.head _))) (by simp [text])
    obtain ⟨_, severity, ⟨⟩⟩ := member?_field_of_echo (text "severity") items foreign order
      (by decide) (.tail _ (.tail _ (.tail _ (.head _)))) (by simp [text])
    rw [Json.paired_of_scalar fun c mem => (scalar.1 c mem).2] at code
    rw [Json.paired_of_scalar fun c mem => (scalar.2 c mem).2] at message
    exact .mk code message range (denotesRange_of_echo rangeWrites rangeBack) severity

end

/-! ### Files -/

theorem denotesAll_of_echo {vs ws : List Value} {ds : List Diagnostic}
    (scalar : ∀ d ∈ ds, (∀ c ∈ d.code, Text.IsScalar c) ∧ ∀ c ∈ d.message, Text.IsScalar c)
    (writes : List.Forall₂ WritesDiagnostic vs ds) (echo : List.Forall₂ Echo vs ws) :
    DenotesAll ws ds := by
  induction writes generalizing ws with
  | nil =>
    cases echo
    exact .nil
  | cons first later ih =>
    cases echo with
    | cons back rest =>
      have here := denotesDiagnostic_of_echo (scalar _ List.mem_cons_self) first back
      exact .cons here (ih (fun d mem => scalar d (List.mem_cons_of_mem _ mem)) rest)

theorem denotesFiles_of_echo {ms listed : List (Text × Value)} {diagnosis : Diagnosis}
    (scalar : diagnosis.Scalar) (writes : WritesFiles ms diagnosis)
    (echo : List.Forall₂ (EchoMember Echo) ms listed) :
    DenotesFiles listed diagnosis ∧ listed.map Prod.fst = diagnosis.map Prod.fst := by
  induction writes generalizing listed with
  | nil =>
    cases echo
    exact ⟨.nil, rfl⟩
  | @cons uri vs ds _ _ first _ ih =>
    cases echo with
    | cons back rest =>
      obtain ⟨uriScalar, each⟩ := scalar _ List.mem_cons_self
      obtain ⟨denotes, names⟩ := ih (fun file mem => scalar file (List.mem_cons_of_mem _ mem)) rest
      cases back with
      | mk value =>
        cases value with
        | arr items =>
          rw [Json.paired_of_scalar fun c mem => (uriScalar c mem).2]
          exact ⟨.cons (denotesAll_of_echo each first items) denotes, congrArg (uri :: ·) names⟩

/-- What a written diagnosis comes back as stands for it. -/
theorem denotes_of_echo {v w : Value} {diagnosis : Diagnosis} (scalar : diagnosis.Scalar)
    (distinct : (diagnosis.map Prod.fst).Nodup) (writes : Writes v diagnosis) (echo : Echo v w) :
    Denotes w diagnosis := by
  obtain ⟨files⟩ := writes
  cases echo with
  | obj items =>
    obtain ⟨denotes, names⟩ := denotesFiles_of_echo scalar files items
    rw [Json.members_of_nodup (names ▸ distinct)]
    exact .mk denotes

/-! ### Documents -/

section

variable {showNull : Bool} {levels : Nat}

theorem writesEndPosition_toValue (p : EndPosition) :
    WritesEndPosition (p.toValue showNull) p := by
  obtain ⟨line, character⟩ := p
  cases line with
  | some line => exact .line (.refl _)
  | none =>
    cases showNull with
    | true => exact .null (.refl _)
    | false => exact .absent (.refl _)

theorem writesRange_toValue (range : Range) : WritesRange (range.toValue showNull) range :=
  .mk (.mk (.refl _)) (writesEndPosition_toValue range.stop) (.refl _)

/-- A document of a diagnosis is one that it is written as. -/
theorem Formed.writes {formed : Formed}
    (foreign : ∀ file ∈ formed, ∀ d ∈ file.2, ∀ m ∈ d.2.extra, m.1 ∉ fields) :
    Writes formed.toValue formed.diagnosis := by
  have list {ds : List (Diagnostic × Diagnostic.Form)}
      (foreign : ∀ d ∈ ds, ∀ m ∈ d.2.extra, m.1 ∉ fields) :
      List.Forall₂ WritesDiagnostic (ds.map fun d => d.1.toValue d.2) (ds.map (·.1)) := by
    rw [List.forall₂_map_left_iff, List.forall₂_map_right_iff, List.forall₂_same]
    exact fun d mem => .mk (writesRange_toValue d.1.range) (foreign d mem) (.refl _)
  refine .mk ?_
  induction formed with
  | nil => exact .nil
  | cons file formed ih =>
    exact .cons (list (foreign file List.mem_cons_self))
      (ih fun other mem => foreign other (List.mem_cons_of_mem _ mem))

/-- An object fits whose names are ASCII and whose values fit. -/
theorem fits_record {ms : List (Text × Value)} (ascii : ∀ m ∈ ms, ∀ c ∈ m.1, c < 0x80)
    (values : ∀ m ∈ ms, m.2.Fits levels) : (Value.obj ms).Fits (levels + 1) :=
  .obj (fun m mem c inside => Nat.lt_trans (ascii m mem c inside) (by decide)) values

theorem fits_two {first second : Text} {v w : Value} (ascii : ∀ c ∈ first ++ second, c < 0x80)
    (one : v.Fits levels) (two : w.Fits levels) :
    (Value.obj [(first, v), (second, w)]).Fits (levels + 1) := by
  obtain ⟨former, latter⟩ := List.forall_mem_append.mp ascii
  exact fits_record (List.forall_mem_cons.mpr ⟨former, List.forall_mem_singleton.mpr latter⟩)
    (List.forall_mem_cons.mpr ⟨one, List.forall_mem_singleton.mpr two⟩)

theorem fits_range {range : Range} (small : ∀ n ∈ range.numbers, n < Text.numberLimit) :
    (range.toValue showNull).Fits (levels + 2) := by
  obtain ⟨⟨line, character⟩, ⟨last, stop⟩⟩ := range
  have offset (n : Nat) (mem : n ∈ Range.numbers ⟨⟨line, character⟩, ⟨last, stop⟩⟩) :
      (Value.int n).Fits levels := .int (small n mem)
  have start : (Position.toValue ⟨line, character⟩).Fits (levels + 1) :=
    fits_two (by decide) (offset line (by simp [Range.numbers]))
      (offset character (by simp [Range.numbers]))
  have column : (Value.int stop).Fits levels := offset stop (by simp [Range.numbers])
  have close : (EndPosition.toValue ⟨last, stop⟩ showNull).Fits (levels + 1) := by
    cases last with
    | some last => exact fits_two (by decide) (offset last (by simp [Range.numbers])) column
    | none =>
      cases showNull with
      | true => exact fits_two (by decide) .null column
      | false =>
        have ascii : ∀ c ∈ text "character", c < 0x80 := by decide
        exact fits_record (List.forall_mem_singleton.mpr ascii) (List.forall_mem_singleton.mpr column)
  exact fits_two (by decide) start close

theorem rank_lt_numberLimit (severity : Severity) : severity.rank < Text.numberLimit := by
  have digit : severity.rank < Nat.pow 10 1 := by cases severity <;> decide
  exact Nat.lt_of_lt_of_le digit (Text.pow_le_numberLimit (by decide))

theorem fits_diagnostic {d : Diagnostic} {form : Diagnostic.Form}
    (scalar : (∀ c ∈ d.code, Text.IsScalar c) ∧ ∀ c ∈ d.message, Text.IsScalar c)
    (small : ∀ n ∈ d.range.numbers, n < Text.numberLimit)
    (extra : ∀ m ∈ form.extra, (∀ c ∈ m.1, c < 0x110000) ∧ m.2.Fits (levels + 2)) :
    (d.toValue form).Fits (levels + 3) := by
  have names : ∀ m ∈ d.members form.showNull, ∀ c ∈ m.1, c < 0x110000 := by
    simp [Diagnostic.members, text]
  have values : ∀ m ∈ d.members form.showNull, m.2.Fits (levels + 2) := by
    have code : (Value.str d.code).Fits (levels + 2) := .str fun c mem => (scalar.1 c mem).1
    have message : (Value.str d.message).Fits (levels + 2) := .str fun c mem => (scalar.2 c mem).1
    have severity : (Value.int d.severity.rank).Fits (levels + 2) :=
      .int (rank_lt_numberLimit d.severity)
    simp [Diagnostic.members, code, message, fits_range small, severity]
  exact .obj (List.forall_mem_append.mpr ⟨names, fun m mem => (extra m mem).1⟩)
    (List.forall_mem_append.mpr ⟨values, fun m mem => (extra m mem).2⟩)

/-- A document of a diagnosis takes three levels more than the deepest of the further members. -/
theorem Formed.fits (levels : Nat) {formed : Formed} (scalar : formed.diagnosis.Scalar)
    (small : ∀ file ∈ formed, ∀ d ∈ file.2, ∀ n ∈ d.1.range.numbers, n < Text.numberLimit)
    (extra : ∀ file ∈ formed, ∀ d ∈ file.2, ∀ m ∈ d.2.extra,
      (∀ c ∈ m.1, c < 0x110000) ∧ m.2.Fits (levels + 2)) : formed.toValue.Fits (levels + 5) := by
  have each (file : Text × List (Diagnostic × Diagnostic.Form)) (mem : file ∈ formed) :=
    scalar _ (List.mem_map_of_mem mem)
  refine .obj (List.forall_mem_map.mpr fun file mem c inside => ((each file mem).1 c inside).1)
    (List.forall_mem_map.mpr fun file mem => ?_)
  refine .arr (List.forall_mem_map.mpr fun d inside => ?_)
  exact fits_diagnostic ((each file mem).2 d.1 (List.mem_map_of_mem inside))
    (small file mem d inside) (extra file mem d inside)

end

end Diagnosis

/-! ### Files of ASCII -/

namespace Artifact

open Text.Utf8 (encode)

theorem withLineFeeds_of_ascii {s : Text} (printable : ∀ c ∈ s, 0x20 ≤ c ∧ c < 0x7F) :
    withLineFeeds s = s := by
  fun_induction withLineFeeds s with
  | case1 => rfl
  | case2 => exact absurd (printable _ List.mem_cons_self) (by decide)
  | case3 => rfl
  | case4 => exact absurd (printable _ List.mem_cons_self) (by decide)
  | case5 => exact absurd (printable _ List.mem_cons_self) (by decide)
  | case6 c d s other ih => rw [ih fun c mem => printable c (List.mem_cons_of_mem _ mem)]

/-- A file that holds a diagnosis as printed JSON is loaded as this diagnosis. -/
theorem load_of_printed [Platform] {site : Site} {path : Text} {executable : Bool} {v : Value}
    {diagnosis : Diagnosis} (writes : Diagnosis.Writes v diagnosis) (fits : v.Fits Platform.levels)
    (scalar : diagnosis.Scalar) (distinct : (diagnosis.map Prod.fst).Nodup)
    (file : site.at? path = .ok (some (.file executable (encode v.print)))) :
    load site path = .ok diagnosis := by
  have printable := Value.ascii_print v
  have decoded : Text.Utf8.decode (encode v.print) = .ok v.print := by
    refine Text.Utf8.decode_eq_ok_iff.mpr ⟨fun c mem => ?_, rfl⟩
    have bounds := printable c mem
    exact ⟨by omega, Text.isSurrogate_of_lt (by omega)⟩
  obtain ⟨w, echo, read⟩ := Json.read_print fits
  have denotes := Diagnosis.denotes_of_echo scalar distinct writes echo
  rw [load_of_file file, read_of_decode decoded, withLineFeeds_of_ascii printable, value, read]
  change (Diagnosis.ofValue w).mapError Fault.malformed = _
  rw [Diagnosis.ofValue_eq_ok_iff.mpr denotes]
  rfl

attribute [local instance] Platform.loose in
theorem load_of_printed_document :
    let formed : Diagnosis.Formed := [(text "file:///a\"", [(⟨[0x5C, 0x0A, 0x1F600], text "m",
      ⟨⟨0, 4⟩, ⟨none, 9⟩⟩, .warning⟩, { showNull := true, extra := [(text "tags", .arr [.null])] })])]
    formed.toValue.Fits Platform.levels ∧ formed.diagnosis.Scalar ∧
      load ⟨⟨[([text "check.json"], .file false (encode formed.toValue.print))]⟩, text "/"⟩
        (text "/check.json") = .ok formed.diagnosis := by
  intro formed
  have scalar : formed.diagnosis.Scalar := by decide
  have small : ∀ file ∈ formed, ∀ d ∈ file.2, ∀ n ∈ d.1.range.numbers, n < 10 := by decide
  have limit : 10 ≤ Text.numberLimit := Text.pow_le_numberLimit (k := 1) (by decide)
  have fits : formed.toValue.Fits Platform.levels :=
    Diagnosis.Formed.fits 985 scalar
      (fun file mem d inside n found => Nat.lt_of_lt_of_le (small file mem d inside n found) limit)
      (by simpa [formed, text] using .arr (by simpa using .null))
  have file : Site.at?
      ⟨⟨[([text "check.json"], .file false (encode formed.toValue.print))]⟩, text "/"⟩
      (text "/check.json") = .ok (some (.file false (encode formed.toValue.print))) := by cbv
  exact ⟨fits, scalar,
    load_of_printed (Diagnosis.Formed.writes (by decide)) fits scalar (by decide) file⟩

end Artifact

end CheckReport

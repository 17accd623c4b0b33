import CheckReport.Proofs.Text.Utf8

/-!
# Bytes are kept by decoding

`decodeEscaping` gives the one text that stands for some bytes (`standsFor_iff`), and from it
`encodeEscaping` takes the bytes back. Bytes may be cut where no character goes on, and the texts of
the two parts joined.
-/

namespace CheckReport.Text.Utf8

/-- Bytes that do not go on with a character that started before them. -/
def StartsFresh (s : Bytes) : Prop :=
  ∀ b, s.head? = some b → isContinuation b = false

/-! ### Bytes of a character -/

/-- The UTF-8 of a character starts with a byte that starts characters, and goes on with bytes that
go on with them. -/
theorem encodeChar_eq_cons (c : Nat) :
    ∃ lead tail, encodeChar c = lead :: tail ∧ isContinuation lead = false ∧
      ∀ b ∈ tail, isContinuation b = true := by
  unfold encodeChar
  repeat' split
  all_goals
    refine ⟨_, _, rfl, ?_, ?_⟩
    · rw [← Bool.not_eq_true, isContinuation_eq_true]
      omega
    · simp only [List.forall_mem_cons, isContinuation_eq_true, List.not_mem_nil, false_implies,
        implies_true, and_true]
      try omega

theorem encodeChar_lt {c : Nat} (scalar : IsScalar c) : ∀ b ∈ encodeChar c, b < 0x100 := by
  have last := scalar.1
  unfold encodeChar
  repeat' split
  all_goals
    simp only [List.forall_mem_cons, List.not_mem_nil, false_implies, implies_true, and_true]
    omega

theorem startsFresh_encodeChar (c : Nat) (s : Bytes) : StartsFresh (encodeChar c ++ s) := by
  obtain ⟨lead, tail, spelled, fresh, _⟩ := encodeChar_eq_cons c
  intro b first
  rw [spelled, List.cons_append, List.head?_cons] at first
  rwa [← Option.some.inj first]

theorem startsFresh_nil : StartsFresh [] :=
  fun _ first => nomatch first

/-! ### Stray bytes -/

theorem stray_of_isContinuation {b : Nat} (continues : isContinuation b = true) (s : Bytes) :
    Stray (b :: s) := by
  intro c _ starts
  obtain ⟨lead, tail, spelled, fresh, _⟩ := encodeChar_eq_cons c
  rw [spelled] at starts
  rw [(List.cons_prefix_cons.mp starts).1, continues] at fresh
  cases fresh

theorem stray_of_step_fault {s bad rest : Bytes} {reason : Reason}
    (h : step s = .fault bad reason rest) : Stray s := by
  rintro c scalar ⟨later, rfl⟩
  rw [step_encodeChar scalar] at h
  cases h

theorem Stray.append {b : Nat} {s : Bytes} (stray : Stray (b :: s)) {later : Bytes}
    (fresh : StartsFresh later) : Stray (b :: s ++ later) := by
  intro c scalar starts
  rcases List.prefix_or_prefix_of_prefix starts (List.prefix_append (b :: s) later) with inside | across
  · exact stray c scalar inside
  · obtain ⟨lead, tail, spelled, _, continues⟩ := encodeChar_eq_cons c
    obtain ⟨crossing, whole⟩ := across
    rw [← whole, List.prefix_append_right_inj] at starts
    cases crossing with
    | nil =>
      rw [List.append_nil] at whole
      exact stray c scalar (whole ▸ List.prefix_refl _)
    | cons next crossing =>
      -- the character would reach over the cut with a byte that goes on
      have inTail : next ∈ tail := by
        rw [spelled, List.cons_append, List.cons.injEq] at whole
        rw [← whole.2]
        exact List.mem_append_right s List.mem_cons_self
      obtain ⟨rest, rfl⟩ := starts
      have cut := fresh next rfl
      rw [continues next inTail] at cut
      cases cut

/-! ### Faults -/

theorem isContinuation_of_isSecond {lead b : Nat} (h : isSecond lead b = true) :
    isContinuation b = true := by
  rw [isSecond_eq_true] at h
  exact isContinuation_eq_true.mpr ⟨h.1, h.2.1⟩

/-- The bytes at fault are those in front, one byte and others that go on with it. -/
def IsFault (s bad rest : Bytes) : Prop :=
  s = bad ++ rest ∧ ∃ b tail, bad = b :: tail ∧ ∀ x ∈ tail, isContinuation x = true

theorem isFault_one (b : Nat) (rest : Bytes) : IsFault (b :: rest) [b] rest :=
  ⟨rfl, b, [], rfl, List.forall_mem_nil _⟩

theorem isFault_of_stepTwo {a : Nat} {s bad rest : Bytes} {reason : Reason}
    (h : stepTwo a s = .fault bad reason rest) : IsFault (a :: s) bad rest := by
  unfold stepTwo at h
  repeat' split at h
  all_goals try contradiction
  all_goals
    obtain ⟨rfl, _, rfl⟩ := Step.fault.inj h
    exact isFault_one a _

theorem isFault_of_stepThree {a : Nat} {s bad rest : Bytes} {reason : Reason}
    (h : stepThree a s = .fault bad reason rest) : IsFault (a :: s) bad rest := by
  unfold stepThree at h
  repeat' split at h
  all_goals try contradiction
  all_goals
    obtain ⟨rfl, _, rfl⟩ := Step.fault.inj h
    refine ⟨rfl, _, _, rfl, ?_⟩
    grind [isContinuation_of_isSecond]

theorem isFault_of_stepFour {a : Nat} {s bad rest : Bytes} {reason : Reason}
    (h : stepFour a s = .fault bad reason rest) : IsFault (a :: s) bad rest := by
  unfold stepFour at h
  repeat' split at h
  all_goals try contradiction
  all_goals
    obtain ⟨rfl, _, rfl⟩ := Step.fault.inj h
    refine ⟨rfl, _, _, rfl, ?_⟩
    grind [isContinuation_of_isSecond]

theorem isFault_of_step {s bad rest : Bytes} {reason : Reason}
    (h : step s = .fault bad reason rest) : IsFault s bad rest := by
  unfold step at h
  repeat' split at h
  · cases h
  · cases h
  · exact isFault_of_stepTwo h
  · exact isFault_of_stepThree h
  · exact isFault_of_stepFour h
  · obtain ⟨rfl, _, rfl⟩ := Step.fault.inj h
    exact isFault_one _ _

/-! ### Texts for bytes -/

namespace StandsFor

theorem append {t later : Text} {s rest : Bytes} (first : StandsFor t s) (second : StandsFor later rest)
    (fresh : StartsFresh rest) : StandsFor (t ++ later) (s ++ rest) := by
  induction first with
  | nil => exact second
  | char scalar _ ih =>
    rw [List.cons_append, List.append_assoc]
    exact .char scalar ih
  | stray none _ ih => exact .stray (none.append fresh) ih

theorem continuations {tail rest : Bytes} {t : Text} (continues : ∀ x ∈ tail, isContinuation x = true)
    (later : StandsFor t rest) : StandsFor (tail.map (0xDC00 + ·) ++ t) (tail ++ rest) := by
  induction tail with
  | nil => exact later
  | cons b tail ih =>
    obtain ⟨first, others⟩ := List.forall_mem_cons.mp continues
    exact .stray (stray_of_isContinuation first _) (ih others)

/-- No two texts stand for the same bytes. -/
theorem unique {t u : Text} {s : Bytes} (first : StandsFor t s) (second : StandsFor u s) : t = u := by
  induction first generalizing u with
  | nil =>
    generalize same : ([] : Bytes) = s at second
    cases second with
    | nil => rfl
    | char => exact absurd (List.append_eq_nil_iff.mp same.symm).1 (encodeChar_ne_nil _)
    | stray => cases same
  | @char c t s scalar rest ih =>
    generalize same : encodeChar c ++ s = whole at second
    cases second with
    | nil => exact absurd (List.append_eq_nil_iff.mp same).1 (encodeChar_ne_nil c)
    | @char d u later scalar' rest' =>
      have front := step_encodeChar scalar s
      rw [same, step_encodeChar scalar'] at front
      obtain ⟨rfl, rfl⟩ := Step.char.inj front
      rw [ih rest']
    | stray none _ => exact absurd ⟨s, same⟩ (none c scalar)
  | @stray b t s none rest ih =>
    generalize same : b :: s = whole at second
    cases second with
    | nil => cases same
    | @char d u later scalar _ => exact absurd ⟨later, same.symm⟩ (none d scalar)
    | stray _ rest' =>
      obtain ⟨rfl, rfl⟩ := List.cons.inj same
      rw [ih rest']

end StandsFor

theorem standsFor_decodeEscaping (s : Bytes) : StandsFor (decodeEscaping s) s := by
  fun_induction decodeEscaping s with
  | case1 s done =>
    rw [step_eq_done_iff.mp done]
    exact .nil
  | case2 s c rest char _ ih =>
    obtain ⟨scalar, rfl⟩ := step_eq_char_iff.mp char
    exact .char scalar ih
  | case3 s bad reason rest fault _ ih =>
    -- the first byte at fault is stray, and so are the others, which go on with no character
    have stray := stray_of_step_fault fault
    obtain ⟨rfl, b, tail, rfl, continues⟩ := isFault_of_step fault
    exact .stray stray (ih.continuations continues)

/-- Decoding gives the one text that stands for the bytes. -/
theorem standsFor_iff {t : Text} {s : Bytes} : StandsFor t s ↔ t = decodeEscaping s := by
  constructor
  · exact fun stands => stands.unique (standsFor_decodeEscaping s)
  · rintro rfl
    exact standsFor_decodeEscaping s

theorem standsFor_encode {t : Text} (scalar : ∀ c ∈ t, IsScalar c) : StandsFor t (encode t) := by
  rw [standsFor_iff, decodeEscaping_encode scalar]

/-! ### Back to bytes -/

theorem le_of_stray {b : Nat} {s : Bytes} (stray : Stray (b :: s)) : 0x80 ≤ b := by
  refine Nat.le_of_not_lt fun small => stray b (isScalar_iff.mpr (by omega)) ?_
  rw [encodeChar, if_pos small]
  exact ⟨s, rfl⟩

/-- What stands for a byte is a surrogate of its own, and all else is a scalar. -/
theorem StandsFor.scalar_or_stray {t : Text} {s : Bytes} (stands : StandsFor t s)
    (bytes : ∀ b ∈ s, b < 0x100) : ∀ c ∈ t, IsScalar c ∨ 0xDC80 ≤ c ∧ c ≤ 0xDCFF := by
  induction stands with
  | nil => exact List.forall_mem_nil _
  | char scalar _ ih =>
    exact List.forall_mem_cons.mpr ⟨.inl scalar, ih (List.forall_mem_append.mp bytes).2⟩
  | stray none _ ih =>
    obtain ⟨first, later⟩ := List.forall_mem_cons.mp bytes
    have high := le_of_stray none
    exact List.forall_mem_cons.mpr ⟨.inr (by omega), ih later⟩

theorem StandsFor.encodeEscaping_eq {t : Text} {s : Bytes} (stands : StandsFor t s)
    (bytes : ∀ b ∈ s, b < 0x100) : encodeEscaping t = s := by
  unfold encodeEscaping
  induction stands with
  | nil => rfl
  | char scalar _ ih =>
    rw [isScalar_iff] at scalar
    rw [List.flatMap_cons, if_neg (by omega), ih (List.forall_mem_append.mp bytes).2]
  | stray none _ ih =>
    obtain ⟨first, later⟩ := List.forall_mem_cons.mp bytes
    -- only bytes from 0x80 on are taken back from surrogates
    have high := le_of_stray none
    rw [List.flatMap_cons, if_pos (by omega), ih later, Nat.add_sub_cancel_left]
    rfl

end CheckReport.Text.Utf8

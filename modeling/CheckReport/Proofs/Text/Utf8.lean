import CheckReport.Text.Utf8

/-!
# UTF-8 forth and back

`step` reads at the front of some bytes just what `encodeChar` writes for a scalar. So the texts that
`decode` gives are those whose UTF-8 it is given (`decode_eq_ok_iff`), and no decoder finds a fault in
what `encode` writes.
-/

namespace CheckReport.Text.Utf8

theorem isScalar_iff {c : Nat} : IsScalar c ↔ c < 0xD800 ∨ 0xDFFF < c ∧ c < 0x110000 := by
  simp only [IsScalar, isSurrogate, Bool.and_eq_false_iff, decide_eq_false_iff_not]
  omega

theorem isContinuation_eq_true {b : Nat} : isContinuation b = true ↔ 0x80 ≤ b ∧ b ≤ 0xBF := by
  simp [isContinuation]

theorem isSecond_eq_true {lead b : Nat} :
    isSecond lead b = true ↔ 0x80 ≤ b ∧ b ≤ 0xBF ∧ (lead = 0xE0 → 0xA0 ≤ b) ∧
      (lead = 0xED → b ≤ 0x9F) ∧ (lead = 0xF0 → 0x90 ≤ b) ∧ (lead = 0xF4 → b ≤ 0x8F) := by
  unfold isSecond
  repeat' split
  all_goals simp only [isContinuation_eq_true, Bool.and_eq_true, decide_eq_true_eq]
  all_goals omega

/-! ### One character -/

theorem encodeChar_ne_nil (c : Nat) : encodeChar c ≠ [] := by
  unfold encodeChar
  repeat' split
  all_goals simp

theorem step_encodeChar {c : Nat} (h : IsScalar c) (s : Bytes) :
    step (encodeChar c ++ s) = .char c s := by
  rw [isScalar_iff] at h
  unfold encodeChar
  split
  · simp [step, *]
  · split
    · have value : (0xC0 + c / 0x40 - 0xC0) * 0x40 + (0x80 + c % 0x40 - 0x80) = c := by omega
      simp only [List.cons_append, List.nil_append]
      rw [step, if_neg (by omega), if_pos (by omega), stepTwo,
        if_pos (isContinuation_eq_true.mpr (by omega)), value]
    · split
      · have value : ((0xE0 + c / 0x1000 - 0xE0) * 0x40 + (0x80 + c / 0x40 % 0x40 - 0x80)) * 0x40 +
            (0x80 + c % 0x40 - 0x80) = c := by omega
        simp only [List.cons_append, List.nil_append]
        rw [step, if_neg (by omega), if_neg (by omega), if_pos (by omega), stepThree,
          if_pos (isSecond_eq_true.mpr (by omega))]
        rw [if_pos (isContinuation_eq_true.mpr (by omega)), value]
      · have value : (((0xF0 + c / 0x40000 - 0xF0) * 0x40 + (0x80 + c / 0x1000 % 0x40 - 0x80)) * 0x40 +
            (0x80 + c / 0x40 % 0x40 - 0x80)) * 0x40 + (0x80 + c % 0x40 - 0x80) = c := by omega
        simp only [List.cons_append, List.nil_append]
        rw [step, if_neg (by omega), if_neg (by omega), if_neg (by omega), if_pos (by omega),
          stepFour, if_pos (isSecond_eq_true.mpr (by omega))]
        rw [if_pos (isContinuation_eq_true.mpr (by omega))]
        rw [if_pos (isContinuation_eq_true.mpr (by omega)), value]

theorem stepTwo_eq_char {a c : Nat} {s rest : Bytes} (ha : 0xC2 ≤ a ∧ a ≤ 0xDF)
    (h : stepTwo a s = .char c rest) : IsScalar c ∧ a :: s = encodeChar c ++ rest := by
  unfold stepTwo at h
  split at h
  · cases h
  · split at h
    · next b s hb =>
      rw [isContinuation_eq_true] at hb
      obtain ⟨rfl, rfl⟩ := Step.char.inj h
      refine ⟨isScalar_iff.mpr (by omega), ?_⟩
      rw [encodeChar, if_neg (by omega), if_pos (by omega)]
      simp only [List.cons_append, List.nil_append, List.cons.injEq, and_true]
      omega
    · cases h

theorem stepThree_eq_char {a c : Nat} {s rest : Bytes} (ha : 0xE0 ≤ a ∧ a ≤ 0xEF)
    (h : stepThree a s = .char c rest) : IsScalar c ∧ a :: s = encodeChar c ++ rest := by
  unfold stepThree at h
  repeat' split at h
  all_goals try contradiction
  next b hb _ d s hd =>
  obtain ⟨rfl, rfl⟩ := Step.char.inj h
  rw [isContinuation_eq_true] at hd
  rw [isSecond_eq_true] at hb
  refine ⟨isScalar_iff.mpr (by omega), ?_⟩
  rw [encodeChar, if_neg (by omega), if_neg (by omega), if_pos (by omega)]
  simp only [List.cons_append, List.nil_append, List.cons.injEq, and_true]
  omega

theorem stepFour_eq_char {a c : Nat} {s rest : Bytes} (ha : 0xF0 ≤ a ∧ a ≤ 0xF4)
    (h : stepFour a s = .char c rest) : IsScalar c ∧ a :: s = encodeChar c ++ rest := by
  unfold stepFour at h
  repeat' split at h
  all_goals try contradiction
  next b hb _ d hd _ e s he =>
  obtain ⟨rfl, rfl⟩ := Step.char.inj h
  rw [isContinuation_eq_true] at hd he
  rw [isSecond_eq_true] at hb
  refine ⟨isScalar_iff.mpr (by omega), ?_⟩
  rw [encodeChar, if_neg (by omega), if_neg (by omega), if_neg (by omega)]
  simp only [List.cons_append, List.nil_append, List.cons.injEq, and_true]
  omega

/-- A step reads the shortest spelling of a scalar and nothing else. -/
theorem step_eq_char_iff {s rest : Bytes} {c : Nat} :
    step s = .char c rest ↔ IsScalar c ∧ s = encodeChar c ++ rest := by
  constructor
  · intro h
    unfold step at h
    repeat' split at h
    · cases h
    · next ha =>
      obtain ⟨rfl, rfl⟩ := Step.char.inj h
      exact ⟨isScalar_iff.mpr (by omega), by simp [encodeChar, ha]⟩
    · next ha => exact stepTwo_eq_char ha h
    · next ha => exact stepThree_eq_char ha h
    · next ha => exact stepFour_eq_char ha h
    · cases h
  · intro given
    obtain ⟨hc, rfl⟩ := given
    exact step_encodeChar hc rest

theorem step_eq_done_iff {s : Bytes} : step s = .done ↔ s = [] := by
  constructor
  · intro h
    unfold step stepTwo stepThree stepFour at h
    repeat' split at h
    all_goals first
      | rfl
      | contradiction
  · rintro rfl
    rfl

/-! ### Decoding what is encoded -/

theorem encode_cons (c : Nat) (t : Text) : encode (c :: t) = encodeChar c ++ encode t :=
  List.flatMap_cons

theorem step_encode_cons {c : Nat} {t : Text} (h : IsScalar c) :
    step (encode (c :: t)) = .char c (encode t) := by
  rw [encode_cons, step_encodeChar h]

theorem decodeFrom_encode {t : Text} (h : ∀ c ∈ t, IsScalar c) (offset : Nat) :
    decodeFrom offset (encode t) = .ok t := by
  induction t generalizing offset with
  | nil => rw [encode, List.flatMap_nil, decodeFrom]; rfl
  | cons c t ih =>
    obtain ⟨hc, ht⟩ := List.forall_mem_cons.mp h
    rw [decodeFrom]
    split
    · next done => rw [step_encode_cons hc] at done; cases done
    · next d rest char =>
      rw [step_encode_cons hc] at char
      obtain ⟨rfl, rfl⟩ := Step.char.inj char
      rw [ih ht]
    · next broken => rw [step_encode_cons hc] at broken; cases broken

theorem encode_of_decodeFrom {offset : Nat} {s : Bytes} {t : Text}
    (h : decodeFrom offset s = .ok t) : (∀ c ∈ t, IsScalar c) ∧ s = encode t := by
  fun_induction decodeFrom offset s generalizing t with
  | case1 offset s done =>
    obtain rfl := Except.ok.inj h
    exact ⟨by simp, step_eq_done_iff.mp done⟩
  | case2 offset s c rest char _ u read ih =>
    obtain ⟨hc, rfl⟩ := step_eq_char_iff.mp char
    obtain rfl := Except.ok.inj h
    obtain ⟨hu, same⟩ := ih read
    exact ⟨List.forall_mem_cons.mpr ⟨hc, hu⟩, by rw [encode_cons, ← same]⟩
  | case3 => cases h
  | case4 => cases h

/-- Bytes are decoded just when they are the UTF-8 of some scalars, and then to these. -/
theorem decode_eq_ok_iff {s : Bytes} {t : Text} :
    decode s = .ok t ↔ (∀ c ∈ t, IsScalar c) ∧ s = encode t := by
  constructor
  · exact encode_of_decodeFrom
  · intro given
    obtain ⟨scalar, rfl⟩ := given
    exact decodeFrom_encode scalar 0

theorem decodeEscaping_encode {t : Text} (h : ∀ c ∈ t, IsScalar c) :
    decodeEscaping (encode t) = t := by
  induction t with
  | nil => rw [encode, List.flatMap_nil, decodeEscaping]; rfl
  | cons c t ih =>
    obtain ⟨hc, ht⟩ := List.forall_mem_cons.mp h
    rw [decodeEscaping]
    split
    · next done => rw [step_encode_cons hc] at done; cases done
    · next d rest char =>
      rw [step_encode_cons hc] at char
      obtain ⟨rfl, rfl⟩ := Step.char.inj char
      rw [ih ht]
    · next broken => rw [step_encode_cons hc] at broken; cases broken

end CheckReport.Text.Utf8

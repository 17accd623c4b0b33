import CheckReport.Text.Basic

/-!
# Decimal numerals

A numeral is a run of digits that has the number as its value. Runs of as many digits as are read
and written stand for the numbers below the limit.
-/

namespace CheckReport.Text

theorem isDigit_iff {c : Nat} : isDigit c = true ↔ 0x30 ≤ c ∧ c ≤ 0x39 := by
  simp [isDigit]

theorem isDigit_toNat {c : Char} (digit : c.isDigit = true) : isDigit c.toNat = true := by
  simp only [Char.isDigit, Bool.and_eq_true, decide_eq_true_eq] at digit
  exact isDigit_iff.mpr digit

/-! ### Numerals of naturals -/

theorem isDigit_of_mem_ofNat {n c : Nat} (mem : c ∈ ofNat n) : isDigit c = true := by
  obtain ⟨d, found, rfl⟩ := List.mem_map.mp mem
  exact isDigit_toNat (Nat.isDigit_of_mem_toDigits (by decide) (by decide) found)

theorem ofNat_ne_nil (n : Nat) : ofNat n ≠ [] := by
  rw [ofNat, ne_eq, List.map_eq_nil_iff]
  exact Nat.toDigits_ne_nil

theorem length_ofNat_le_iff_pow {n k : Nat} (positive : 0 < k) :
    (ofNat n).length ≤ k ↔ n < Nat.pow 10 k := by
  rw [ofNat, List.length_map]
  exact Nat.length_toDigits_le_iff (by decide) positive

/-- The numbers below the limit are those whose numerals can be written. -/
theorem length_ofNat_le_iff {n : Nat} : (ofNat n).length ≤ digitLimit ↔ n < numberLimit := by
  unfold numberLimit
  exact length_ofNat_le_iff_pow (by decide)

theorem pow_le_numberLimit {k : Nat} (short : k ≤ digitLimit) : Nat.pow 10 k ≤ numberLimit := by
  have mono (m n : Nat) (le : m ≤ n) : Nat.pow 10 m ≤ Nat.pow 10 n :=
    Nat.pow_le_pow_right (by decide) le
  unfold numberLimit
  exact mono k digitLimit short

theorem one_lt_numberLimit : 1 < numberLimit := by
  have ten : 1 < Nat.pow 10 1 := by decide
  exact Nat.lt_of_lt_of_le ten (pow_le_numberLimit (by decide))

/-- A numeral spells the number that it is made from. -/
theorem digitsValue_ofNat (n : Nat) : digitsValue (ofNat n) = n := by
  have spelled := Nat.ofDigitChars_ten_toDigits (n := n)
  rw [Nat.ofDigitChars_eq_foldl] at spelled
  rw [digitsValue, ofNat, List.foldl_map]
  exact spelled

/-- The numeral of a number other than zero has no zero in front. -/
theorem head?_ofNat {n : Nat} (other : n ≠ 0) : (ofNat n).head? ≠ some 0x30 := by
  induction n using Nat.strongRecOn with
  | ind n ih =>
    by_cases single : n < 10
    · have first : ∀ k < 10, k ≠ 0 → some k.digitChar.toNat ≠ some 0x30 := by decide
      rw [ofNat, Nat.toDigits_of_lt_base single]
      exact first n single other
    · have split := Nat.toDigits_of_base_le (by decide : 1 < 10) (Nat.le_of_not_lt single)
      have later := ih (n / 10) (by omega) (by omega)
      obtain ⟨d, t, front⟩ := List.exists_cons_of_ne_nil (ofNat_ne_nil (n / 10))
      rw [ofNat, split, List.map_append, ← ofNat, front]
      rwa [front] at later

/-! ### Values of digits -/

theorem digits_foldl_lt {s : Text} (digits : ∀ c ∈ s, isDigit c = true) (n : Nat) :
    s.foldl (fun n c => 10 * n + (c - 0x30)) n < (n + 1) * Nat.pow 10 s.length := by
  induction s generalizing n with
  | nil => simp
  | cons c s ih =>
    have first := isDigit_iff.mp (digits c List.mem_cons_self)
    have later := ih (fun d mem => digits d (List.mem_cons_of_mem _ mem)) (10 * n + (c - 0x30))
    have room : 10 * n + (c - 0x30) + 1 ≤ (n + 1) * 10 := by omega
    calc
      _ < (10 * n + (c - 0x30) + 1) * Nat.pow 10 s.length := later
      _ ≤ (n + 1) * 10 * Nat.pow 10 s.length := Nat.mul_le_mul_right _ room
      _ = (n + 1) * (Nat.pow 10 s.length * 10) := by
        rw [Nat.mul_assoc, Nat.mul_comm 10]

/-- Digits that are not too many have a value below the limit. -/
theorem digitsValue_lt {s : Text} (digits : ∀ c ∈ s, isDigit c = true)
    (short : s.length ≤ digitLimit) : digitsValue s < numberLimit := by
  have bound := digits_foldl_lt digits 0
  rw [Nat.zero_add, Nat.one_mul] at bound
  exact Nat.lt_of_lt_of_le bound (pow_le_numberLimit short)

end CheckReport.Text

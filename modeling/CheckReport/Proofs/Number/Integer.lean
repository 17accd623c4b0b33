import CheckReport.Number.Integer
import CheckReport.Proofs.Text.Split
import CheckReport.Text.Trimmed

/-!
# Which integers are read

A decimal numeral is read as its integer (`ofText_ofInt`), and a floating point number as the integer
that it is (`ofBinary64_eq_ok_iff`). Neither gives an integer of more digits than are taken.
-/

namespace CheckReport.Integer

open Text (isDigit isWhiteSpace numberLimit digitLimit)

/-! ### How great they get -/

theorem natural?_lt {s : Text} {n : Nat} (h : natural? s = some n) : n < numberLimit := by
  unfold natural? at h
  split at h
  · cases h
    exact Nat.lt_trans Nat.zero_lt_one Text.one_lt_numberLimit
  · split at h
    · next plain =>
      obtain ⟨_, whole, short⟩ := plain
      have digits : ∀ c ∈ s, isDigit c = true := by
        intro c mem
        rw [← whole] at mem
        unfold plainDigits at mem
        split at mem
        · cases mem
        · exact List.all_eq_true.mp List.all_takeWhile c mem
      rw [← Option.some.inj h]
      exact Text.digitsValue_lt digits short
    · cases h

theorem plain?_natAbs_lt {s : Text} {n : Int} (h : plain? s = some n) :
    n.natAbs < numberLimit := by
  unfold plain? at h
  split at h
  · obtain ⟨m, read, rfl⟩ := Option.map_eq_some_iff.mp h
    rw [Int.natAbs_neg]
    exact natural?_lt read
  · obtain ⟨m, read, rfl⟩ := Option.map_eq_some_iff.mp h
    exact natural?_lt read

theorem ofText_natAbs_lt {s : Text} {n : Int} (h : ofText s = .ok n) :
    n.natAbs < numberLimit := by
  unfold ofText at h
  split at h
  · cases h
  · split at h
    · next read =>
      cases h
      obtain ⟨t, _, plain⟩ := Option.bind_eq_some_iff.mp read
      exact plain?_natAbs_lt plain
    · cases h

theorem twoTo_lt : twoTo 63 < numberLimit := by
  have small : twoTo 63 < Nat.pow 10 19 := by decide
  exact Nat.lt_of_lt_of_le small (Text.pow_le_numberLimit (by decide))

theorem ofBinary64_natAbs_lt {x : Binary64} {n : Int} (h : ofBinary64 x = .ok n) :
    n.natAbs < numberLimit := by
  unfold ofBinary64 at h
  split at h
  · split at h
    · cases h
    · split at h
      · cases h
      · next small =>
        cases h
        exact Nat.lt_trans (Nat.lt_of_not_le small) twoTo_lt
  · cases h

/-! ### Decimal numerals -/

section

variable {n : Nat} {s : Text}

theorem takeWhile_ofNat (n : Nat) : (Text.ofNat n).takeWhile isDigit = Text.ofNat n :=
  List.takeWhile_eq_self_iff.mpr fun _ mem => Text.isDigit_of_mem_ofNat mem

/-- A numeral of a natural number starts with a digit, and so with no sign. -/
theorem exists_cons_ofNat (n : Nat) : ∃ c rest, Text.ofNat n = c :: rest ∧ isDigit c = true := by
  obtain ⟨c, rest, split⟩ := List.exists_cons_of_ne_nil (Text.ofNat_ne_nil n)
  exact ⟨c, rest, split, Text.isDigit_of_mem_ofNat (split ▸ List.mem_cons_self)⟩

theorem length_plainDigits_ofNat (n : Nat) :
    (plainDigits (Text.ofNat n)).length ≤ (Text.ofNat n).length := by
  unfold plainDigits
  split
  · exact Nat.zero_le _
  · exact Nat.le_of_eq (congrArg List.length (takeWhile_ofNat n))

theorem natural?_ofNat (small : n < numberLimit) : natural? (Text.ofNat n) = some n := by
  have short : (Text.ofNat n).length ≤ digitLimit := Text.length_ofNat_le_iff.mpr small
  by_cases none : n = 0
  · subst none
    rfl
  · have first : (Text.ofNat n).head? ≠ some zero := Text.head?_ofNat none
    have other : Text.ofNat n ≠ [zero] := by
      intro same
      rw [same] at first
      exact first rfl
    have plain : plainDigits (Text.ofNat n) = Text.ofNat n := by
      rw [plainDigits, if_neg first, takeWhile_ofNat]
    rw [natural?, if_neg other, if_pos ⟨Text.ofNat_ne_nil n, plain, short⟩, Text.digitsValue_ofNat]

theorem withoutZeros?_ofNat (n : Nat) : withoutZeros? (Text.ofNat n) = some (Text.ofNat n) := by
  by_cases none : n = 0
  · subst none
    rfl
  · have digit : (Text.ofNat n).head?.any isDigit = true := by
      obtain ⟨c, rest, split⟩ := List.exists_cons_of_ne_nil (Text.ofNat_ne_nil n)
      rw [split]
      exact Text.isDigit_of_mem_ofNat (split ▸ List.mem_cons_self)
    have first : (Text.ofNat n).head? ≠ some zero := Text.head?_ofNat none
    rw [withoutZeros?, if_neg first, if_pos digit]

theorem withoutNullFraction_of_not_mem (whole : point ∉ s) : withoutNullFraction s = s := by
  have passed : s.dropWhile (· ≠ point) = [] := by
    rw [List.dropWhile_eq_nil_iff]
    exact fun c mem => decide_eq_true fun same => whole (same ▸ mem)
  rw [withoutNullFraction, passed]

theorem withoutUnderscores_of_not_mem (free : underscore ∉ s) : withoutUnderscores s = s := by
  unfold withoutUnderscores
  rw [Text.split_of_not_mem free]
  dsimp only
  split
  · exact List.append_nil s
  · rfl

theorem sign_or_digit_of_mem_ofInt {n : Int} {c : Nat} (mem : c ∈ Text.ofInt n) :
    c = minus ∨ isDigit c = true := by
  cases n with
  | ofNat n => exact .inr (Text.isDigit_of_mem_ofNat mem)
  | negSucc n =>
    obtain rfl | mem := List.mem_cons.mp mem
    · exact .inl rfl
    · exact .inr (Text.isDigit_of_mem_ofNat mem)

theorem tight_ofInt (n : Int) : Text.Tight isWhiteSpace (Text.ofInt n) := by
  have black {c : Nat} (mem : c ∈ Text.ofInt n) : isWhiteSpace c = false := by
    obtain rfl | digit := sign_or_digit_of_mem_ofInt mem
    · rfl
    · have := Text.isDigit_iff.mp digit
      simp only [isWhiteSpace, Bool.or_eq_false_iff, Bool.and_eq_false_iff, decide_eq_false_iff_not,
        beq_eq_false_iff_ne]
      omega
  exact ⟨fun _ first => black (List.mem_of_head? first),
    fun _ last => black (List.mem_of_getLast? last)⟩

/-- A numeral is in plain form. -/
theorem plainForm?_ofInt (n : Int) : plainForm? (Text.ofInt n) = some (Text.ofInt n) := by
  have signs : signed? (Text.ofInt n) = some (Text.ofInt n) := by
    cases n with
    | negSucc n => exact congrArg (Option.map (minus :: ·)) (withoutZeros?_ofNat (n + 1))
    | ofNat n =>
      obtain ⟨c, rest, split, digit⟩ := exists_cons_ofNat n
      rw [Text.ofInt]
      unfold signed?
      split
      · next same =>
        cases split.symm.trans same
        cases digit
      · next same =>
        cases split.symm.trans same
        cases digit
      · exact withoutZeros?_ofNat n
  have without {mark : Nat} (other : mark ≠ minus) (mark_not_digit : isDigit mark = false) :
      mark ∉ Text.ofInt n := by
    intro mem
    obtain same | digit := sign_or_digit_of_mem_ofInt mem
    · exact other same
    · cases mark_not_digit.symm.trans digit
  rw [plainForm?, (tight_ofInt n).trim_eq, signs, Option.map_some,
    withoutNullFraction_of_not_mem (without (by decide) rfl),
    withoutUnderscores_of_not_mem (without (by decide) rfl)]

end

theorem startsTooLarge_ofInt {n : Int} (small : n.natAbs < numberLimit) :
    startsTooLarge (Text.ofInt n) = false := by
  have short {m : Nat} (small : m < numberLimit) :
      ¬ digitLimit < (plainDigits (Text.ofNat m)).length :=
    Nat.not_lt.mpr ((length_plainDigits_ofNat m).trans (Text.length_ofNat_le_iff.mpr small))
  cases n with
  | negSucc n => exact decide_eq_false (short small)
  | ofNat n =>
    obtain ⟨c, rest, first, digit⟩ := exists_cons_ofNat n
    rw [Text.ofInt]
    unfold startsTooLarge
    split
    · next same =>
      cases first.symm.trans same
      cases digit
    · exact decide_eq_false (short small)

theorem plain?_ofInt {n : Int} (small : n.natAbs < numberLimit) :
    plain? (Text.ofInt n) = some n := by
  cases n with
  | negSucc n => exact congrArg (Option.map fun n : Nat => -(n : Int)) (natural?_ofNat small)
  | ofNat n =>
    obtain ⟨c, rest, first, digit⟩ := exists_cons_ofNat n
    rw [Text.ofInt]
    unfold plain?
    split
    · next same =>
      cases first.symm.trans same
      cases digit
    · exact congrArg (Option.map Int.ofNat) (natural?_ofNat small)

/-- A numeral is read as its integer, if it has not too many digits. -/
theorem ofText_ofInt {n : Int} (small : n.natAbs < numberLimit) : ofText (Text.ofInt n) = .ok n := by
  rw [ofText, startsTooLarge_ofInt small, plainForm?_ofInt, Option.bind_some, plain?_ofInt small]
  rfl

/-! ### Whole numbers -/

/-- One of two opposite powers of two is one. -/
theorem mod_twoTo_eq_zero_iff (m : Nat) (e : Int) :
    m % twoTo (-e).toNat = 0 ↔ twoTo (-e).toNat ∣ m * twoTo e.toNat := by
  rw [← Nat.dvd_iff_mod_eq_zero]
  obtain up | down : (-e).toNat = 0 ∨ e.toNat = 0 := by omega
  · have one : twoTo (-e).toNat = 1 := by
      rw [up]
      rfl
    simp [one]
  · have one : twoTo e.toNat = 1 := by
      rw [down]
      rfl
    rw [one, Nat.mul_one]

/-- What a quotient is, with a sign, in terms of products. -/
theorem signed_div_eq_iff {negative : Bool} {b M : Nat} (positive : 0 < b) {n : Int} :
    (b ∣ M ∧ (if negative then -((M / b : Nat) : Int) else (M / b : Nat)) = n) ↔
      n * b = if negative then -(M : Int) else M := by
  constructor
  · rintro ⟨⟨k, rfl⟩, rfl⟩
    rw [Nat.mul_div_cancel_left k positive]
    cases negative with
    | false => simp [Int.mul_comm]
    | true => simp only [if_true, Int.natCast_mul, Int.mul_comm, Int.mul_neg]
  · intro same
    have whole : M = n.natAbs * b := by
      have sizes := congrArg Int.natAbs same
      rw [Int.natAbs_mul, Int.natAbs_natCast] at sizes
      cases negative <;> simpa using sizes.symm
    subst whole
    refine ⟨Nat.dvd_mul_left b n.natAbs, ?_⟩
    rw [Nat.mul_div_cancel n.natAbs positive]
    have other : (b : Int) ≠ 0 := by omega
    refine (Int.eq_of_mul_eq_mul_right other (same.trans ?_)).symm
    cases negative with
    | false => simp
    | true => simp only [if_true, Int.natCast_mul, Int.neg_mul]

/-- A number is an integer just if it is that integer's value: `n = ± m * 2 ^ e`. -/
theorem integer?_eq_some_iff {negative : Bool} {m : Nat} {e n : Int} :
    Binary64.integer? (.finite negative m e) = some n ↔
      n * twoTo (-e).toNat =
        if negative then -((m * twoTo e.toNat : Nat) : Int) else (m * twoTo e.toNat : Nat) := by
  have positive : 0 < twoTo (-e).toNat := Nat.pow_pos (by decide)
  rw [← signed_div_eq_iff positive, ← mod_twoTo_eq_zero_iff, Binary64.integer?]
  by_cases whole : m % twoTo (-e).toNat = 0
  · simp [whole]
  · simp [whole]

theorem ofBinary64_eq_ok_iff {negative : Bool} {m : Nat} {e n : Int} :
    ofBinary64 (.finite negative m e) = .ok n ↔
      n.natAbs < twoTo 63 ∧
        n * twoTo (-e).toNat =
          if negative then -((m * twoTo e.toNat : Nat) : Int) else (m * twoTo e.toNat : Nat) := by
  rw [← integer?_eq_some_iff]
  unfold ofBinary64
  dsimp only
  split
  · next none => simp [none]
  · next found some =>
    split
    · next large =>
      simp [some]
      omega
    · next small =>
      simp [some]
      omega

end CheckReport.Integer

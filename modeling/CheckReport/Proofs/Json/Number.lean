import CheckReport.Json.Printer
import CheckReport.Proofs.Json.Limits
import CheckReport.Proofs.Number.Shortest
import CheckReport.Proofs.Text.Numeral

/-!
# Printed numbers are read

A printed number is read as a whole, where an element can end after it: an integer as itself
(`leaf_ofInt`), a floating point number as one (`leaf_printNumber`).
-/

namespace CheckReport.Json

open Text (isDigit)

/-! ### Ends of elements -/

/-- Whether an element can end in front of a text: nothing follows, or a comma or closing character. -/
def Ends (s : Text) : Prop :=
  ∀ c ∈ s.head?, c = 0x2C ∨ c = 0x5D ∨ c = 0x7D

theorem ends_nil : Ends [] := by
  rintro _ ⟨⟩

theorem ends_cons {c : Nat} (mark : c = 0x2C ∨ c = 0x5D ∨ c = 0x7D) (s : Text) : Ends (c :: s) := by
  rintro _ ⟨⟩
  exact mark

theorem Ends.not_goesOn {s : Text} (ends : Ends s) : ¬GoesOn s := by
  rintro ⟨d, rest, digit, rfl | rfl | ⟨e, sign, mark, _, rfl⟩⟩
  · have mark := ends d rfl
    rw [Text.isDigit_iff] at digit
    omega
  · exact absurd (ends 0x2E rfl) (by decide)
  · have := ends e rfl
    omega

/-- Neither digits nor a fraction nor an exponent go on where an element can end. -/
theorem Ends.done {s : Text} (ends : Ends s) :
    (¬∃ d t, isDigit d = true ∧ s = d :: t) ∧ (fraction s).1 = [] ∧ exponent? s = none :=
  not_goesOn_iff.mp ends.not_goesOn

/-! ### Numbers by their parts -/

/-- A number is read from its sign and its first digit on. -/
theorem leaf_of_unsigned {negative : Bool} {d : Nat} {t rest : Text} {v : Value}
    (digit : isDigit d = true) (read : unsigned negative d t = .ok (v, rest)) :
    Leaf ((if negative then text "-" else []) ++ d :: t) v rest := by
  have bounds := Text.isDigit_iff.mp digit
  cases negative with
  | true =>
    refine ⟨rfl, ?_⟩
    have scalar : leaf (0x2D :: d :: t) = scalar (0x2D :: d :: t) := rfl
    change leaf (0x2D :: d :: t) = _
    rw [scalar, Json.scalar, words_of_digit digit (.inr rfl)]
    change (if isDigit d = true then unsigned true d t else _) = _
    rw [if_pos digit, read]
  | false =>
    have notOpen : opens (d :: t) = false := by
      simp only [opens, List.head?_cons, Option.some.injEq, Bool.or_eq_false_iff,
        decide_eq_false_iff_not]
      omega
    refine ⟨notOpen, ?_⟩
    have scalar : leaf (d :: t) = scalar (d :: t) := by
      unfold leaf
      split
      · next same =>
        cases same
        cases digit
      · rfl
    change leaf (d :: t) = _
    rw [scalar, Json.scalar, words_of_digit digit (.inl rfl), number, minus_of_digit digit]
    change (if isDigit d = true then unsigned false d t else _) = _
    rw [if_pos digit, read]

/-- Digits, without a zero in front of others. -/
structure Whole (s : Text) : Prop where
  filled : s ≠ []
  digits : ∀ c ∈ s, isDigit c = true
  zero : s.head? = some 0x30 → s = [0x30]

/-- Whole digits are read up to what is no digit. -/
theorem Whole.integerDigits {s : Text} (whole : Whole s) :
    ∃ d ds, s = d :: ds ∧ isDigit d = true ∧ ∀ rest,
      (¬∃ c t, isDigit c = true ∧ rest = c :: t) → integerDigits d (ds ++ rest) = (s, rest) := by
  obtain ⟨filled, digits, zero⟩ := whole
  obtain ⟨d, ds, rfl⟩ := List.exists_cons_of_ne_nil filled
  obtain ⟨digit, digits⟩ := List.forall_mem_cons.mp digits
  refine ⟨d, ds, rfl, digit, fun rest ends => ?_⟩
  by_cases first : d = 0x30
  · obtain ⟨_, none⟩ := List.cons.inj (zero (congrArg some first))
    rw [none, Json.integerDigits, if_pos first]
    rfl
  · exact integerDigits_append first digits ends

theorem fraction_append {places rest : Text} (some : places ≠ [])
    (digits : ∀ c ∈ places, isDigit c = true)
    (ends : ¬∃ c t, isDigit c = true ∧ rest = c :: t) :
    fraction (0x2E :: (places ++ rest)) = (places, rest) := by
  obtain ⟨run, left⟩ := span_append digits ends
  have starts : (places ++ rest).head?.any isDigit = true := by
    obtain ⟨d, ds, rfl⟩ := List.exists_cons_of_ne_nil some
    exact digits d List.mem_cons_self
  rw [fraction, if_pos starts, run, left]

theorem exponent?_append {sign : Nat} {digits rest : Text} (known : sign = 0x2B ∨ sign = 0x2D)
    (some : digits ≠ []) (all : ∀ c ∈ digits, isDigit c = true)
    (ends : ¬∃ c t, isDigit c = true ∧ rest = c :: t) :
    exponent? (0x65 :: sign :: (digits ++ rest)) =
      .some (signed (sign == 0x2D) (Text.digitsValue digits), rest) := by
  obtain ⟨run, left⟩ := span_append all ends
  have starts : (digits ++ rest).head?.any isDigit = true := by
    obtain ⟨d, ds, rfl⟩ := List.exists_cons_of_ne_nil some
    exact all d List.mem_cons_self
  have split : exponentSign (sign :: (digits ++ rest)) = (sign == 0x2D, digits ++ rest) := by
    rcases known with rfl | rfl
    · rfl
    · rfl
  unfold exponent?
  dsimp only
  rw [split, if_pos ⟨.inl rfl, starts⟩, run, left]

/-! ### Integers -/

theorem whole_ofNat (n : Nat) : Whole (Text.ofNat n) where
  filled := Text.ofNat_ne_nil n
  digits := fun _ => Text.isDigit_of_mem_ofNat
  zero := by
    intro first
    have : n = 0 := Classical.byContradiction fun other => Text.head?_ofNat other first
    rw [this]
    rfl

theorem leaf_ofNat {n : Nat} (small : n < Text.numberLimit) (negative : Bool) {rest : Text}
    (ends : Ends rest) :
    Leaf ((if negative then text "-" else []) ++ (Text.ofNat n ++ rest)) (.int (signed negative n))
      rest := by
  obtain ⟨after, noPlaces, noExponent⟩ := ends.done
  have value := Text.digitsValue_ofNat n
  have short := Text.length_ofNat_le_iff.mpr small
  obtain ⟨d, ds, spelled, digit, split⟩ := (whole_ofNat n).integerDigits
  have whole := split rest after
  rw [spelled] at value short whole
  rw [spelled, List.cons_append]
  refine leaf_of_unsigned digit ?_
  rw [unsigned]
  dsimp only
  rw [whole]
  dsimp only
  rw [fraction_snd noPlaces, noExponent, noPlaces]
  simp only [ne_eq, not_true_eq_false, if_false, Nat.not_lt.mpr short, value]

theorem leaf_ofInt {n : Int} (small : n.natAbs < Text.numberLimit) {rest : Text}
    (ends : Ends rest) : Leaf (Text.ofInt n ++ rest) (.int n) rest := by
  cases n with
  | ofNat n => exact leaf_ofNat small false ends
  | negSucc n => exact leaf_ofNat small true ends

/-! ### Floating point numbers -/

section

variable {negative : Bool} {d : Nat} {t whole after rest places : Text}

theorem unsigned_of_places (digits : integerDigits d t = (whole, after))
    (point : fraction after = (places, rest)) (some : places ≠ []) (done : exponent? rest = none) :
    unsigned negative d t = .ok (.float (Binary64.ofDecimal negative
      (Text.digitsValue (whole ++ places)) (-places.length)), rest) := by
  rw [unsigned]
  dsimp only
  rw [digits]
  dsimp only
  rw [point]
  dsimp only
  rw [done]
  simp only [ne_eq, some, not_false_eq_true, if_true]

theorem unsigned_of_exponent {e : Int} (digits : integerDigits d t = (whole, after))
    (point : fraction after = (places, rest)) {left : Text} (found : exponent? rest = some (e, left)) :
    unsigned negative d t = .ok (.float (Binary64.ofDecimal negative
      (Text.digitsValue (whole ++ places)) (e - places.length)), left) := by
  rw [unsigned]
  dsimp only
  rw [digits]
  dsimp only
  rw [point]
  dsimp only
  rw [found]

end

/-- A text that is read as a floating point number, after a minus or without one. -/
def Floating (s : Text) : Prop :=
  ∀ negative : Bool, ∃ x, ∀ rest, Ends rest →
    Leaf ((if negative then text "-" else []) ++ (s ++ rest)) (.float x) rest

theorem noDigit_cons {c : Nat} (other : isDigit c = false) (s : Text) :
    ¬∃ d t, isDigit d = true ∧ c :: s = d :: t := by
  rintro ⟨d, t, digit, ⟨⟩⟩
  rw [other] at digit
  cases digit

theorem floating_of_places {whole places : Text} (first : Whole whole) (some : places ≠ [])
    (digits : ∀ c ∈ places, isDigit c = true) : Floating (whole ++ 0x2E :: places) := by
  intro negative
  refine ⟨Binary64.ofDecimal negative (Text.digitsValue (whole ++ places)) (-places.length),
    fun rest ends => ?_⟩
  obtain ⟨after, _, noExponent⟩ := ends.done
  obtain ⟨d, ds, rfl, digit, split⟩ := first.integerDigits
  rw [List.append_assoc, List.cons_append, List.cons_append]
  exact leaf_of_unsigned digit (unsigned_of_places (split _ (noDigit_cons rfl (places ++ rest)))
    (fraction_append some digits after) some noExponent)

/-- The fraction of a number in exponent form: none, or a point and digits. -/
inductive IsFraction : Text → Text → Prop where
  | none : IsFraction [] []
  | point {places : Text} (filled : places ≠ []) (digits : ∀ c ∈ places, isDigit c = true) :
      IsFraction (0x2E :: places) places

theorem IsFraction.fraction_append {point places : Text} (given : IsFraction point places)
    (rest : Text) : fraction (point ++ 0x65 :: rest) = (places, 0x65 :: rest) := by
  cases given with
  | none => rfl
  | point filled digits => exact Json.fraction_append filled digits (noDigit_cons rfl rest)

theorem IsFraction.noDigit {point places : Text} (given : IsFraction point places) (rest : Text) :
    ¬∃ d t, isDigit d = true ∧ point ++ 0x65 :: rest = d :: t := by
  cases given with
  | none => exact noDigit_cons rfl rest
  | point => exact noDigit_cons rfl _

theorem floating_of_exponent {whole point places digits : Text} {sign : Nat} (first : Whole whole)
    (given : IsFraction point places) (known : sign = 0x2B ∨ sign = 0x2D) (some : digits ≠ [])
    (all : ∀ c ∈ digits, isDigit c = true) :
    Floating (whole ++ (point ++ 0x65 :: sign :: digits)) := by
  intro negative
  refine ⟨Binary64.ofDecimal negative (Text.digitsValue (whole ++ places))
    (signed (sign == 0x2D) (Text.digitsValue digits) - places.length), fun rest ends => ?_⟩
  obtain ⟨after, _⟩ := ends.done
  obtain ⟨d, ds, rfl, digit, split⟩ := first.integerDigits
  simp only [List.append_assoc, List.cons_append]
  exact leaf_of_unsigned digit (unsigned_of_exponent (split _ (given.noDigit _))
    (given.fraction_append _) (exponent?_append known some all after))

/-! ### Layouts -/

section

variable {s : Text}

theorem digits_append_zeros (digits : ∀ c ∈ s, isDigit c = true) (n : Nat) :
    (∀ c ∈ List.replicate n 0x30 ++ s, isDigit c = true) ∧
      ∀ c ∈ s ++ List.replicate n 0x30, isDigit c = true := by
  have zeros : ∀ c ∈ List.replicate n 0x30, isDigit c = true := by
    intro c mem
    rw [List.eq_of_mem_replicate mem]
    rfl
  exact ⟨List.forall_mem_append.mpr ⟨zeros, digits⟩, List.forall_mem_append.mpr ⟨digits, zeros⟩⟩

theorem whole_zero : Whole [0x30] where
  filled := List.cons_ne_nil _ _
  digits := List.forall_mem_singleton.mpr rfl
  zero := fun _ => rfl

/-- Digits that start with another digit than zero are whole, as is any part of them in front. -/
theorem whole_of_head? (filled : s ≠ []) (digits : ∀ c ∈ s, isDigit c = true)
    (other : s.head? ≠ some 0x30) : Whole s where
  filled := filled
  digits := digits
  zero := fun first => absurd first other

theorem head?_take {n : Nat} (positive : 0 < n) : (s.take n).head? = s.head? := by
  cases s with
  | nil => rw [List.take_nil]
  | cons c s =>
    obtain ⟨n, rfl⟩ := Nat.exists_eq_succ_of_ne_zero (Nat.ne_of_gt positive)
    rfl

theorem floating_positional (filled : s ≠ []) (digits : ∀ c ∈ s, isDigit c = true)
    (other : s.head? ≠ some 0x30) (point : Int) : Floating (Layout.positional s point) := by
  unfold Layout.positional
  split
  · have places := floating_of_places whole_zero (List.append_ne_nil_of_right_ne_nil _ filled)
      (digits_append_zeros digits (-point).toNat).1
    rwa [List.append_assoc]
  · next positive =>
    split
    · have whole : Whole (s ++ List.replicate (point.toNat - s.length) 0x30) := by
        refine whole_of_head? (List.append_ne_nil_of_left_ne_nil filled _)
          (digits_append_zeros digits _).2 ?_
        rwa [List.head?_append, Option.or_of_isSome (List.isSome_head?.mpr filled)]
      exact floating_of_places whole (List.cons_ne_nil _ _) (List.forall_mem_singleton.mpr rfl)
    · next longer =>
      have part : 0 < point.toNat := by omega
      have whole : Whole (s.take point.toNat) := by
        refine whole_of_head? ?_ (fun c mem => digits c (List.mem_of_mem_take mem)) ?_
        · intro empty
          have := head?_take (s := s) part
          rw [empty] at this
          exact filled (List.head?_eq_none_iff.mp this.symm)
        · rwa [head?_take part]
      have rest : s.drop point.toNat ≠ [] := by
        rw [ne_eq, List.drop_eq_nil_iff]
        omega
      have places := floating_of_places whole rest fun c mem => digits c (List.mem_of_mem_drop mem)
      rwa [List.append_assoc]

theorem floating_scientific (layout : Layout) (filled : s ≠ []) (digits : ∀ c ∈ s, isDigit c = true)
    (exponent : Int) : Floating (layout.scientific s exponent) := by
  obtain ⟨d, ds, rfl⟩ := List.exists_cons_of_ne_nil filled
  obtain ⟨digit, later⟩ := List.forall_mem_cons.mp digits
  have whole : Whole [d] := by
    refine ⟨List.cons_ne_nil _ _, List.forall_mem_singleton.mpr digit, ?_⟩
    rintro ⟨⟩
    rfl
  have places : IsFraction
      (if (d :: ds).length ≤ 1 then [] else text "." ++ (d :: ds).drop 1) ds := by
    split
    · next short =>
      obtain rfl : ds = [] := List.eq_nil_of_length_eq_zero (by simpa using short)
      exact .none
    · next longer =>
      refine .point ?_ later
      rintro rfl
      exact longer (Nat.le_refl 1)
  have width := digits_append_zeros (fun _ => Text.isDigit_of_mem_ofNat (n := exponent.natAbs))
    (layout.exponentDigits - (Text.ofNat exponent.natAbs).length)
  have known : (if exponent < 0 then 0x2D else 0x2B) = 0x2B ∨
      (if exponent < 0 then 0x2D else 0x2B) = 0x2D := by
    split
    · exact .inr rfl
    · exact .inl rfl
  have floating := floating_of_exponent whole places known
    (List.append_ne_nil_of_right_ne_nil _ (Text.ofNat_ne_nil exponent.natAbs)) width.1
  have shape : layout.scientific (d :: ds) exponent = [d] ++
      ((if (d :: ds).length ≤ 1 then [] else text "." ++ (d :: ds).drop 1) ++ 0x65 ::
        (if exponent < 0 then 0x2D else 0x2B) ::
          Layout.padded layout.exponentDigits (Text.ofNat exponent.natAbs)) := by
    unfold Layout.scientific
    split <;> split <;> simp [text]
  rw [shape]
  exact floating

theorem floating_decimal (layout : Layout) {d : Decimal} (other : d.digits ≠ 0) :
    Floating (layout.decimal d) := by
  have filled := Text.ofNat_ne_nil d.digits
  have digits : ∀ c ∈ Text.ofNat d.digits, isDigit c = true := fun _ => Text.isDigit_of_mem_ofNat
  unfold Layout.decimal
  dsimp only
  split
  · exact floating_positional filled digits (Text.head?_ofNat other) _
  · exact floating_scientific layout filled digits _

end

/-- A printed number is read as a number again, one for all that can follow. -/
theorem leaf_printNumber (x : Binary64) :
    ∃ y, ∀ rest, Ends rest → Leaf (printNumber x ++ rest) (.float y) rest := by
  cases x with
  | nan negative => exact ⟨.nan false, fun _ _ => ⟨rfl, rfl⟩⟩
  | infinite negative =>
    cases negative with
    | true => exact ⟨.infinite true, fun _ _ => ⟨rfl, rfl⟩⟩
    | false => exact ⟨.infinite false, fun _ _ => ⟨rfl, rfl⟩⟩
  | finite negative m e =>
    have floating : Floating (if m = 0 then text "0.0" else
        Binary64.layout.decimal (Decimal.shortest m e)) := by
      split
      · exact floating_of_places whole_zero (List.cons_ne_nil _ _)
          (List.forall_mem_singleton.mpr rfl)
      · next other => exact floating_decimal Binary64.layout (Decimal.digits_shortest_ne_zero e other)
    obtain ⟨y, leaf⟩ := floating negative
    refine ⟨y, fun rest ends => ?_⟩
    rw [printNumber, Binary64.display, Layout.render, List.append_assoc]
    · exact leaf rest ends
    · exact fun _ => nofun
    · exact fun _ => nofun

end CheckReport.Json

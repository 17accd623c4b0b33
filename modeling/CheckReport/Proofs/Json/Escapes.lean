import CheckReport.Proofs.Json.Printed

/-!
# Printed texts are read

Reading what a text is printed as gives the text again, but for surrogates that make a pair
(`string_printText`). In a text without surrogates there are none (`paired_of_scalar`).
-/

namespace CheckReport.Json

/-! ### Units -/

theorem isHighSurrogate_iff {c : Nat} : isHighSurrogate c = true ↔ 0xD800 ≤ c ∧ c ≤ 0xDBFF := by
  simp [isHighSurrogate]

theorem isLowSurrogate_iff {c : Nat} : isLowSurrogate c = true ↔ 0xDC00 ≤ c ∧ c ≤ 0xDFFF := by
  simp [isLowSurrogate]

theorem hexValue?_hexDigit {n : Nat} (small : n < 16) :
    Text.hexValue? (Text.hexDigit n) = some n := by
  have table : ∀ n < 16, Text.hexValue? (Text.hexDigit n) = some n := by decide
  exact table n small

theorem unit?_hex {n : Nat} (small : n < 0x10000) {t : Text} (filled : t ≠ []) :
    unit? (Text.hex 4 n ++ t) = some (n, t) := by
  obtain ⟨e, s, rfl⟩ := List.exists_cons_of_ne_nil filled
  have digit (k : Nat) : Text.hexValue? (Text.hexDigit (k % 16)) = some (k % 16) :=
    hexValue?_hexDigit (Nat.mod_lt k (by decide))
  have sum : ((n / 16 / 16 / 16 % 16 * 16 + n / 16 / 16 % 16) * 16 + n / 16 % 16) * 16 + n % 16 = n := by
    omega
  simp only [Text.hex, List.nil_append, List.cons_append, unit?, digit, Option.bind_eq_bind,
    Option.bind_some, Option.pure_def, sum]

/-! ### Steps of reading -/

section

variable {opening t u rest : Text}

theorem string_plain {c : Nat} (quote : c ≠ 0x22) (backslash : c ≠ 0x5C) (printable : 0x20 ≤ c)
    (later : string opening t = .ok (u, rest)) : string opening (c :: t) = .ok (c :: u, rest) := by
  rw [string, if_neg quote, if_neg backslash, if_neg (Nat.not_lt.mpr printable), later]

theorem string_escape {s : Text} {c : Nat} (escaped : escape opening s = .ok (c, t))
    (later : string opening t = .ok (u, rest)) :
    string opening (0x5C :: s) = .ok (c :: u, rest) := by
  rw [string, if_neg (by decide), if_pos rfl]
  split
  · next failed =>
    rw [escaped] at failed
    cases failed
  · next found =>
    rw [escaped] at found
    cases found
    rw [later]

theorem string_unit {n : Nat} (small : n < 0x10000) (filled : t ≠ [])
    (alone : isHighSurrogate n = true → lowUnit? t = none)
    (later : string opening t = .ok (u, rest)) :
    string opening (unitEscape n ++ t) = .ok (n :: u, rest) := by
  refine string_escape (s := 0x75 :: (Text.hex 4 n ++ t)) ?_ later
  rw [escape, if_pos rfl, unicodeEscape, unit?_hex small filled]
  cases high : isHighSurrogate n with
  | true => simp [high, alone high]
  | false => simp [high]

theorem lowUnit?_unitEscape {n : Nat} (small : n < 0x10000) (filled : t ≠ []) :
    lowUnit? (unitEscape n ++ t) = if isLowSurrogate n then some (n, t) else none := by
  change lowUnit? (0x5C :: 0x75 :: (Text.hex 4 n ++ t)) = _
  rw [lowUnit?, unit?_hex small filled]

theorem string_pair {high low : Nat} (first : isHighSurrogate high = true)
    (second : isLowSurrogate low = true) (filled : t ≠ [])
    (later : string opening t = .ok (u, rest)) :
    string opening (unitEscape high ++ (unitEscape low ++ t)) = .ok (pair high low :: u, rest) := by
  have highBounds := isHighSurrogate_iff.mp first
  have lowBounds := isLowSurrogate_iff.mp second
  have next := lowUnit?_unitEscape (n := low) (by omega) filled
  rw [if_pos second] at next
  refine string_escape (s := 0x75 :: (Text.hex 4 high ++ (unitEscape low ++ t))) ?_ later
  rw [escape, if_pos rfl, unicodeEscape, unit?_hex (by omega) (fun empty => by cases empty)]
  simp [first, next]

end

/-! ### Characters -/

/-- The units of a character beyond the first `0x10000` are a pair that makes the character. -/
theorem units_astral {c : Nat} (astral : 0x10000 ≤ c) (point : c < 0x110000) :
    isHighSurrogate (0xD800 + (c - 0x10000) / 0x400) = true ∧
      isLowSurrogate (0xDC00 + (c - 0x10000) % 0x400) = true ∧
      pair (0xD800 + (c - 0x10000) / 0x400) (0xDC00 + (c - 0x10000) % 0x400) = c := by
  refine ⟨isHighSurrogate_iff.mpr (by omega), isLowSurrogate_iff.mpr (by omega), ?_⟩
  unfold pair
  omega

section

variable {opening t u rest : Text} {c : Nat}

theorem string_printChar (point : c < 0x110000) (filled : t ≠ [])
    (alone : isHighSurrogate c = true → lowUnit? t = none)
    (later : string opening t = .ok (u, rest)) :
    string opening (printChar c ++ t) = .ok (c :: u, rest) := by
  rcases printChar_cases c with ⟨e, known, other, _, same⟩ | ⟨quote, backslash, plain, same⟩ | same
  · rw [same]
    refine string_escape (s := e :: t) ?_ later
    rw [escape, if_neg other, known]
  · rw [same]
    exact string_plain quote backslash plain.1 later
  · rw [same, unitEscapes]
    split
    · next small => exact string_unit small filled alone later
    · next large =>
      obtain ⟨high, low, made⟩ := units_astral (Nat.le_of_not_lt large) point
      have read := string_pair high low filled later
      rwa [made, ← List.append_assoc] at read

/-- What follows a high surrogate is no low one if no low surrogate is printed there. -/
theorem lowUnit?_printChar (point : c < 0x110000) (other : isLowSurrogate c = false)
    (filled : t ≠ []) : lowUnit? (printChar c ++ t) = none := by
  rcases printChar_cases c with ⟨e, _, letter, _, same⟩ | ⟨_, backslash, _, same⟩ | same
  · rw [same, List.cons_append, List.cons_append, List.nil_append, lowUnit?]
    rintro s ⟨⟩
    exact letter rfl
  · rw [same, List.cons_append, List.nil_append, lowUnit?]
    rintro s ⟨⟩
    exact backslash rfl
  · rw [same, unitEscapes]
    split
    · next small =>
      rw [lowUnit?_unitEscape small filled, other]
      rfl
    · next large =>
      have bounds : 0xD800 + (c - 0x10000) / 0x400 < 0xDC00 := by omega
      have high : isLowSurrogate (0xD800 + (c - 0x10000) / 0x400) = false := by
        rw [Bool.eq_false_iff, ne_eq, isLowSurrogate_iff]
        omega
      have later : unitEscape (0xDC00 + (c - 0x10000) % 0x400) ++ t ≠ [] :=
        List.append_ne_nil_of_right_ne_nil _ filled
      rw [List.append_assoc, lowUnit?_unitEscape (by omega) later, high]
      rfl

end

/-! ### Texts -/

theorem lowUnit?_printed {s : Text} (points : ∀ c ∈ s, c < 0x110000)
    (other : ∀ c ∈ s.head?, isLowSurrogate c = false) (rest : Text) :
    lowUnit? (s.flatMap printChar ++ 0x22 :: rest) = none := by
  cases s with
  | nil => rfl
  | cons c s =>
    rw [List.flatMap_cons, List.append_assoc]
    exact lowUnit?_printChar (points c List.mem_cons_self) (other c rfl)
      (List.append_ne_nil_of_right_ne_nil _ (List.cons_ne_nil _ _))

theorem printChar_surrogate {c : Nat} (low : 0xD800 ≤ c) (high : c ≤ 0xDFFF) :
    printChar c = unitEscape c := by
  rcases printChar_cases c with ⟨e, known, _⟩ | ⟨_, _, plain, _⟩ | same
  · simp only [escaped?] at known
    split at known
    · cases known
      omega
    · repeat' split at known
      all_goals cases known
      all_goals omega
  · omega
  · rw [same, unitEscapes, if_pos (by omega)]

theorem string_printed (opening : Text) {s : Text} (points : ∀ c ∈ s, c < 0x110000) (rest : Text) :
    string opening (s.flatMap printChar ++ 0x22 :: rest) = .ok (paired s, rest) := by
  have filled (s : Text) : s.flatMap printChar ++ 0x22 :: rest ≠ [] :=
    List.append_ne_nil_of_right_ne_nil _ (List.cons_ne_nil _ _)
  have quote : string opening (0x22 :: rest) = .ok ([], rest) := by
    rw [string, if_pos rfl]
  fun_induction paired s with
  | case1 => exact quote
  | case2 c =>
    have point := points c List.mem_cons_self
    rw [List.flatMap_singleton]
    exact string_printChar point (filled []) (fun _ => rfl) quote
  | case3 high low s both ih =>
    have later := ih fun c mem => points c (List.mem_cons_of_mem _ (List.mem_cons_of_mem _ mem))
    have highBounds := isHighSurrogate_iff.mp both.1
    have lowBounds := isLowSurrogate_iff.mp both.2
    rw [List.flatMap_cons, List.flatMap_cons, List.append_assoc, List.append_assoc,
      printChar_surrogate (by omega) (by omega), printChar_surrogate (by omega) (by omega)]
    exact string_pair both.1 both.2 (filled s) later
  | case4 first second s apart ih =>
    have tail : ∀ c ∈ second :: s, c < 0x110000 := fun c mem => points c (List.mem_cons_of_mem _ mem)
    rw [List.flatMap_cons, List.append_assoc]
    refine string_printChar (points first List.mem_cons_self) (filled _) (fun high => ?_) (ih tail)
    refine lowUnit?_printed tail ?_ rest
    rintro _ ⟨⟩
    exact Bool.eq_false_iff.mpr fun low => apart ⟨high, low⟩

/-- A printed text is read again, with one character for each pair of surrogates. -/
theorem string_printText {s : Text} (points : ∀ c ∈ s, c < 0x110000) (rest : Text) :
    ∃ t, printText s ++ rest = 0x22 :: t ∧ ∀ opening, string opening t = .ok (paired s, rest) := by
  refine ⟨s.flatMap printChar ++ 0x22 :: rest, ?_, fun opening => string_printed opening points rest⟩
  simp only [printText, List.cons_append, List.append_assoc, List.nil_append]

/-! ### Pairs -/

theorem paired_of_scalar {s : Text} (scalar : ∀ c ∈ s, Text.isSurrogate c = false) : paired s = s := by
  fun_induction paired s with
  | case1 => rfl
  | case2 => rfl
  | case3 high low s both ih =>
    have other := scalar high List.mem_cons_self
    simp [isHighSurrogate, Text.isSurrogate] at both other
    omega
  | case4 first second s apart ih =>
    rw [ih fun c mem => scalar c (List.mem_cons_of_mem _ mem)]

/-- A text with one character for each pair is in ASCII only if it was before. -/
theorem eq_of_paired_ascii {s : Text} (ascii : ∀ c ∈ paired s, c < 0x80) : paired s = s := by
  fun_induction paired s with
  | case1 => rfl
  | case2 => rfl
  | case3 high low s both ih =>
    have first := ascii _ List.mem_cons_self
    unfold pair at first
    omega
  | case4 first second s apart ih =>
    rw [ih fun c mem => ascii c (List.mem_cons_of_mem _ mem)]

end CheckReport.Json

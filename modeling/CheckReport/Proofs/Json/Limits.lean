import CheckReport.Proofs.Json.Grammar

/-!
# Where reading meets its limits

Reading stops at a limit just when it comes, past nothing but complete elements, to an array or object
below the last level or to an integer of too many digits (`read_eq_tooDeep_iff` and
`read_eq_tooManyDigits_iff`).
-/

namespace CheckReport.Json

open Text (isDigit)

/-- Whether a reader stops for a limit and not for what is wrong with the text. -/
def Halt.isLimit : Halt → Bool
  | .malformed _ _ => false
  | _ => true

/-- What a reader that stops for a limit has in front of it, with the levels that are left. -/
def Halt.At (left : Nat) (s : Text) : Halt → Prop
  | .malformed _ _ => False
  | .tooDeep => left = 0 ∧ opens s = true
  | .tooManyDigits n => LongInteger n s

/-! ### Strings -/

theorem isLimit_of_escape {opening s : Text} {e : Halt} (h : escape opening s = .error e) :
    e.isLimit = false := by
  unfold escape unicodeEscape stop at h
  repeat' split at h
  all_goals cases h
  all_goals rfl

theorem isLimit_of_string {opening s : Text} {e : Halt} (h : string opening s = .error e) :
    e.isLimit = false := by
  fun_induction string opening s with
  | case1 =>
    cases h
    rfl
  | case2 => cases h
  | case3 _ _ escaped =>
    cases h
    exact isLimit_of_escape escaped
  | case4 _ _ _ _ _ _ read _ ih => exact ih (by rw [read, Except.error.inj h])
  | case5 => cases h
  | case6 =>
    cases h
    rfl
  | case7 _ _ _ _ _ _ read ih => exact ih (by rw [read, Except.error.inj h])
  | case8 => cases h

theorem isLimit_of_memberName {s : Text} {e : Halt} (h : memberName s = .error e) :
    e.isLimit = false := by
  unfold memberName at h
  split at h
  · split at h
    · next read =>
      cases h
      exact isLimit_of_string read
    · split at h
      · cases h
      · cases h
        rfl
  · cases h
    rfl

/-! ### Numbers -/

theorem head?_any_isDigit {s : Text} :
    s.head?.any isDigit = true ↔ ∃ d rest, isDigit d = true ∧ s = d :: rest := by
  cases s with
  | nil => simp
  | cons d s => simp

theorem minus_eq (s : Text) : s = if (minus s).1 then 0x2D :: (minus s).2 else (minus s).2 := by
  unfold minus
  split <;> rfl

theorem minus_of_digit {d : Nat} {s : Text} (digit : isDigit d = true) :
    minus (d :: s) = (false, d :: s) := by
  unfold minus
  split
  · next same =>
    cases same
    cases digit
  · rfl

theorem exponentSign_of_digit {d : Nat} {s : Text} (digit : isDigit d = true) :
    exponentSign (d :: s) = (false, d :: s) := by
  unfold exponentSign
  split
  · next same =>
    cases same
    cases digit
  · exact minus_of_digit digit

theorem exponentSign_any_isDigit {s : Text} :
    (exponentSign s).2.head?.any isDigit = true ↔
      ∃ d rest sign, isDigit d = true ∧ (sign = [] ∨ sign = [0x2B] ∨ sign = [0x2D]) ∧
        s = sign ++ d :: rest := by
  rw [head?_any_isDigit]
  constructor
  · intro given
    obtain ⟨d, rest, digit, same⟩ := given
    unfold exponentSign minus at same
    repeat' split at same
    · exact ⟨d, rest, [0x2B], digit, by simp, by rw [← same]; rfl⟩
    · exact ⟨d, rest, [0x2D], digit, by simp, by rw [← same]; rfl⟩
    · exact ⟨d, rest, [], digit, by simp, same⟩
  · intro given
    obtain ⟨d, rest, sign, digit, rfl | rfl | rfl, rfl⟩ := given
    · exact ⟨d, rest, digit, by rw [List.nil_append, exponentSign_of_digit digit]⟩
    · exact ⟨d, rest, digit, rfl⟩
    · exact ⟨d, rest, digit, rfl⟩

theorem exponent?_eq_none_iff {s : Text} :
    exponent? s = none ↔ ¬∃ d rest e sign, isDigit d = true ∧ (e = 0x65 ∨ e = 0x45) ∧
      (sign = [] ∨ sign = [0x2B] ∨ sign = [0x2D]) ∧ s = e :: (sign ++ d :: rest) := by
  cases s with
  | nil => simp [exponent?]
  | cons c s =>
    simp only [exponent?, exponentSign_any_isDigit, ite_eq_right_iff, reduceCtorEq, imp_false]
    apply not_congr
    constructor
    · intro given
      obtain ⟨mark, d, rest, sign, digit, known, rfl⟩ := given
      exact ⟨d, rest, c, sign, digit, mark, known, rfl⟩
    · intro given
      obtain ⟨d, rest, e, sign, digit, mark, known, same⟩ := given
      cases same
      exact ⟨mark, d, rest, sign, digit, known, rfl⟩

theorem fraction_of_point {d : Nat} {s : Text} (digit : isDigit d = true) :
    (fraction (0x2E :: d :: s)).1 ≠ [] := by
  simp [fraction, digit]

theorem fraction_eq_self {s : Text} (h : ¬∃ d rest, isDigit d = true ∧ s = 0x2E :: d :: rest) :
    fraction s = ([], s) := by
  unfold fraction
  split
  · next s =>
    split
    · next digit =>
      obtain ⟨d, rest, digit, rfl⟩ := head?_any_isDigit.mp digit
      exact absurd ⟨d, rest, digit, rfl⟩ h
    · rfl
  · rfl

theorem goesOn_iff {s : Text} :
    GoesOn s ↔ (∃ d rest, isDigit d = true ∧ s = d :: rest) ∨ (fraction s).1 ≠ [] ∨
      exponent? s ≠ none := by
  rw [ne_eq (exponent? s), exponent?_eq_none_iff, Classical.not_not]
  constructor
  · intro given
    obtain ⟨d, rest, digit, rfl | rfl | ⟨e, sign, mark, known, rfl⟩⟩ := given
    · exact .inl ⟨d, rest, digit, rfl⟩
    · exact .inr (.inl (fraction_of_point digit))
    · exact .inr (.inr ⟨d, rest, e, sign, digit, mark, known, rfl⟩)
  · intro given
    rcases given with ⟨d, rest, digit, rfl⟩ | filled | ⟨d, rest, e, sign, digit, mark, known, rfl⟩
    · exact ⟨d, rest, digit, .inl rfl⟩
    · have point : ∃ d rest, isDigit d = true ∧ s = 0x2E :: d :: rest :=
        Classical.byContradiction fun none => filled (by rw [fraction_eq_self none])
      obtain ⟨d, rest, digit, rfl⟩ := point
      exact ⟨d, rest, digit, .inr (.inl rfl)⟩
    · exact ⟨d, rest, digit, .inr (.inr ⟨e, sign, mark, known, rfl⟩)⟩

theorem not_goesOn_iff {s : Text} :
    ¬GoesOn s ↔ (¬∃ d rest, isDigit d = true ∧ s = d :: rest) ∧ (fraction s).1 = [] ∧
      exponent? s = none := by
  rw [goesOn_iff, not_or, not_or, Classical.not_not, Classical.not_not]

theorem fraction_snd {s : Text} (none : (fraction s).1 = []) : (fraction s).2 = s := by
  have plain : ¬∃ d rest, isDigit d = true ∧ s = 0x2E :: d :: rest := by
    intro given
    obtain ⟨d, rest, digit, rfl⟩ := given
    exact fraction_of_point digit none
  rw [fraction_eq_self plain]

theorem unsigned_eq_error_iff {negative : Bool} {d : Nat} {s : Text} {e : Halt} :
    unsigned negative d s = .error e ↔
      Text.digitLimit < (integerDigits d s).1.length ∧ (fraction (integerDigits d s).2).1 = [] ∧
        exponent? (integerDigits d s).2 = none ∧
        e = .tooManyDigits (integerDigits d s).1.length := by
  constructor
  · intro h
    unfold unsigned at h
    dsimp only at h
    split at h
    · cases h
    · next noExponent =>
      split at h
      · cases h
      · next noPlaces =>
        have none := Classical.not_not.mp noPlaces
        rw [fraction_snd none] at noExponent
        split at h
        · next long =>
          cases h
          exact ⟨long, none, noExponent, rfl⟩
        · cases h
  · intro given
    obtain ⟨long, none, noExponent, rfl⟩ := given
    unfold unsigned
    dsimp only
    rw [fraction_snd none, noExponent]
    simp [none, long]

/-- A run of digits ends where no other digit follows. -/
theorem span_append {ds rest : Text} (digits : ∀ c ∈ ds, isDigit c = true)
    (ends : ¬∃ c t, isDigit c = true ∧ rest = c :: t) :
    (ds ++ rest).takeWhile isDigit = ds ∧ (ds ++ rest).dropWhile isDigit = rest := by
  have stops : rest.takeWhile isDigit = [] ∧ rest.dropWhile isDigit = rest := by
    cases rest with
    | nil => simp
    | cons c t =>
      have : ¬isDigit c = true := fun digit => ends ⟨c, t, digit, rfl⟩
      rw [List.takeWhile_cons_of_neg this, List.dropWhile_cons_of_neg this]
      exact ⟨rfl, rfl⟩
  rw [List.takeWhile_append_of_pos digits, List.dropWhile_append_of_pos digits, stops.1, stops.2,
    List.append_nil]
  exact ⟨rfl, rfl⟩

theorem integerDigits_append {d : Nat} {ds rest : Text} (other : d ≠ 0x30)
    (digits : ∀ c ∈ ds, isDigit c = true)
    (ends : ¬∃ c t, isDigit c = true ∧ rest = c :: t) :
    integerDigits d (ds ++ rest) = (d :: ds, rest) := by
  obtain ⟨run, left⟩ := span_append digits ends
  rw [integerDigits, if_neg other, run, left]

/-- A long integer is a number whose reading stops for its digits. -/
theorem longInteger_iff {n : Nat} {s : Text} :
    LongInteger n s ↔ ∃ d t, (minus s).2 = d :: t ∧ isDigit d = true ∧
      unsigned (minus s).1 d t = .error (.tooManyDigits n) := by
  constructor
  · intro given
    obtain ⟨long, sign, digits, rest, known, all, noZero, rfl, ends, rfl⟩ := given
    cases digits with
    | nil => cases long
    | cons d ds =>
      obtain ⟨digit, all⟩ := List.forall_mem_cons.mp all
      rw [not_goesOn_iff] at ends
      have whole := integerDigits_append (fun zero => noZero (congrArg some zero)) all ends.1
      refine ⟨d, ds ++ rest, ?_, digit, unsigned_eq_error_iff.mpr ?_⟩
      · rcases known with rfl | rfl
        · rw [List.nil_append, List.cons_append, minus_of_digit digit]
        · rfl
      · rw [whole]
        exact ⟨long, ends.2.1, ends.2.2, rfl⟩
  · intro given
    obtain ⟨d, t, same, digit, stopped⟩ := given
    obtain ⟨long, none, noExponent, count⟩ := unsigned_eq_error_iff.mp stopped
    have other : d ≠ 0x30 := by
      intro zero
      rw [integerDigits, if_pos zero] at long
      exact absurd long (by simp [Text.digitLimit])
    rw [integerDigits, if_neg other] at long none noExponent count
    refine ⟨?_, if (minus s).1 then [0x2D] else [], d :: t.takeWhile isDigit,
      t.dropWhile isDigit, ?_, ?_, ?_, ?_, ?_, ?_⟩
    · rwa [Halt.tooManyDigits.inj count]
    · cases (minus s).1 <;> simp
    · exact List.forall_mem_cons.mpr ⟨digit, List.all_eq_true.mp List.all_takeWhile⟩
    · exact fun zero => other (Option.some.inj zero)
    · exact (Halt.tooManyDigits.inj count).symm
    · refine not_goesOn_iff.mpr ⟨?_, none, noExponent⟩
      rintro ⟨c, u, digit, left⟩
      have stop := List.head?_dropWhile_not isDigit t
      rw [left] at stop
      simp [digit] at stop
    · conv => lhs; rw [minus_eq s, same]
      cases (minus s).1 <;> simp

theorem number_eq_error_iff {s : Text} {e : Halt} (limit : e.isLimit = true) :
    number s = .error e ↔ ∃ n, e = .tooManyDigits n ∧ LongInteger n s := by
  simp only [longInteger_iff]
  unfold number
  constructor
  · intro h
    dsimp only at h
    split at h
    · next d t same =>
      split at h
      · next digit =>
        obtain ⟨_, _, _, rfl⟩ := unsigned_eq_error_iff.mp h
        exact ⟨_, rfl, d, t, same, digit, h⟩
      · cases h
        cases limit
    · cases h
      cases limit
  · intro given
    obtain ⟨n, rfl, d, t, same, digit, stopped⟩ := given
    dsimp only
    rw [same]
    simp [digit, stopped]

theorem LongInteger.start {n : Nat} {s : Text} (h : LongInteger n s) :
    ∃ d t, isDigit d = true ∧ (s = d :: t ∨ s = 0x2D :: d :: t) := by
  obtain ⟨d, t, same, digit, _⟩ := longInteger_iff.mp h
  refine ⟨d, t, digit, ?_⟩
  rw [minus_eq s, same]
  cases (minus s).1 <;> simp

theorem not_opens_of_longInteger {n : Nat} {s : Text} (h : LongInteger n s) : opens s = false := by
  obtain ⟨d, t, digit, rfl | rfl⟩ := h.start
  · simp only [isDigit, Bool.and_eq_true, decide_eq_true_eq] at digit
    simp [opens]
    omega
  · rfl

theorem words_of_digit {d : Nat} {s t : Text} (digit : isDigit d = true)
    (same : s = d :: t ∨ s = 0x2D :: d :: t) :
    (words.findSome? fun (word, v) => (Text.after? word s).map (v, ·)) = none := by
  simp only [isDigit, Bool.and_eq_true, decide_eq_true_eq] at digit
  rw [List.findSome?_eq_none_iff]
  rintro ⟨word, v⟩ hw
  have other : Text.after? word s = none := by
    simp only [words, List.mem_cons, List.not_mem_nil, or_false] at hw
    rcases hw with h | h | h | h | h | h
    all_goals cases h
    all_goals rcases same with rfl | rfl
    all_goals simp [Text.after?, text, List.isPrefixOf]
    all_goals omega
  dsimp only
  rw [other, Option.map_none]

theorem words_of_longInteger {n : Nat} {s : Text} (h : LongInteger n s) :
    (words.findSome? fun (word, v) => (Text.after? word s).map (v, ·)) = none := by
  obtain ⟨d, t, digit, same⟩ := h.start
  exact words_of_digit digit same

theorem leaf_eq_error_iff {s : Text} {e : Halt} (limit : e.isLimit = true) :
    leaf s = .error e ↔ ∃ n, e = .tooManyDigits n ∧ LongInteger n s := by
  unfold leaf
  split
  · constructor
    · intro h
      split at h
      · next stopped =>
        cases h
        rw [isLimit_of_string stopped] at limit
        cases limit
      · cases h
    · intro given
      obtain ⟨n, _, long⟩ := given
      obtain ⟨d, t, digit, same | same⟩ := long.start
      · cases same
        cases digit
      · cases same
  · rw [← number_eq_error_iff limit]
    unfold scalar
    constructor
    · intro h
      split at h
      · cases h
      · exact h
    · intro h
      obtain ⟨n, _, long⟩ := (number_eq_error_iff limit).mp h
      rw [words_of_longInteger long]
      exact h

/-! ### Elements -/

section

variable {α : Type} {element : Text → Read α} {R : Text → α → Text → Prop}
  {item : Text → Read Value} {Q : Text → Value → Text → Prop} {close size : Nat}

theorem length_comesTo_le (shrinks : Shrinks R) {s t : Text} (h : ComesTo R s t) :
    t.length ≤ s.length := by
  induction h with
  | first => exact Nat.le_refl _
  | @next s rest next t _ complete comma _ ih =>
    have := shrinks _ _ _ complete
    have := length_of_skipBlanks_cons comma
    have := length_skipBlanks_le next
    omega

/-- A series stops for a limit just where one of the elements it comes to does. -/
theorem series_eq_error_iff (follows : Follows element R size) (shrinks : Shrinks R)
    (differs : close ≠ 0x2C) {e : Halt} (limit : e.isLimit = true) {n : Nat} {s : Text}
    (small : s.length < size) (enough : s.length < n) :
    series close element n s = .error e ↔ ∃ t, ComesTo R s t ∧ element t = .error e := by
  induction n generalizing s with
  | zero => omega
  | succ n ih =>
    rw [series]
    constructor
    · intro h
      split at h
      · next stopped =>
        cases h
        exact ⟨s, .first, stopped⟩
      · next a left read =>
        have first := (follows s a left small).mp read
        split at h
        · cases h
          cases limit
        · next c next found =>
          split at h
          · cases h
          · split at h
            · next comma =>
              subst comma
              split at h
              · next stopped =>
                cases h
                have := shrinks _ _ _ first
                have := length_of_skipBlanks_cons found
                have := length_skipBlanks_le next
                obtain ⟨t, comes, stopped⟩ := (ih (by omega) (by omega)).mp stopped
                exact ⟨t, .next first found comes, stopped⟩
              · cases h
            · cases h
              cases limit
    · intro given
      obtain ⟨t, comes, stopped⟩ := given
      cases comes with
      | first => rw [stopped]
      | @next _ _ next _ _ complete comma later =>
        have := shrinks _ _ _ complete
        have := length_of_skipBlanks_cons comma
        have := length_skipBlanks_le next
        have later := (ih (by omega) (by omega)).mpr ⟨t, later, stopped⟩
        rw [(follows _ _ _ small).mpr complete]
        dsimp only
        rw [comma]
        simp [later, Ne.symm differs]

theorem member_eq_error_iff {e : Halt} (limit : e.isLimit = true) {s : Text} :
    member item s = .error e ↔ ∃ name t, memberName s = .ok (name, t) ∧ item t = .error e := by
  unfold member
  constructor
  · intro h
    split at h
    · next stopped =>
      cases h
      rw [isLimit_of_memberName stopped] at limit
      cases limit
    · next name t named =>
      split at h
      · next stopped =>
        cases h
        exact ⟨name, t, named, stopped⟩
      · cases h
  · intro given
    obtain ⟨name, t, named, stopped⟩ := given
    rw [named]
    dsimp only
    rw [stopped]

theorem array_eq_error_iff (follows : Follows item Q size) (shrinks : Shrinks Q)
    (filled : ∀ t v rest, ¬Q (0x5D :: t) v rest) {e : Halt} (limit : e.isLimit = true)
    (refuses : ∀ t, item (0x5D :: t) ≠ .error e) {s : Text} (small : s.length < size) :
    array item size s = .error e ↔ ∃ t, ComesTo Q (skipBlanks s) t ∧ item t = .error e := by
  have := length_skipBlanks_le s
  have items : series 0x5D item size (skipBlanks s) = .error e ↔ _ :=
    series_eq_error_iff follows shrinks (by decide) limit (Nat.lt_of_le_of_lt this small)
      (Nat.lt_of_le_of_lt this small)
  unfold array
  split
  · next closed =>
    rw [closed]
    constructor
    · intro h
      cases h
    · intro given
      obtain ⟨t, comes, stopped⟩ := given
      cases comes with
      | first => exact absurd stopped (refuses _)
      | next complete => exact absurd complete (filled _ _ _)
  · rw [← items]
    constructor
    · intro h
      split at h
      · next stopped =>
        cases h
        exact stopped
      · cases h
    · intro stopped
      rw [stopped]

theorem object_eq_error_iff (follows : Follows item Q size) (shrinks : Shrinks Q) {e : Halt}
    (limit : e.isLimit = true) {s : Text} (small : s.length < size) :
    object item size s = .error e ↔ ∃ t name u, ComesTo (Member Q) (skipBlanks s) t ∧
      memberName t = .ok (name, u) ∧ item u = .error e := by
  have := length_skipBlanks_le s
  have list : series 0x7D (member item) size (skipBlanks s) = .error e ↔ _ :=
    series_eq_error_iff (member_follows follows) (member_shrinks shrinks) (by decide) limit
      (Nat.lt_of_le_of_lt this small) (Nat.lt_of_le_of_lt this small)
  simp only [member_eq_error_iff limit] at list
  unfold object
  split
  · next closed =>
    rw [closed]
    constructor
    · intro h
      cases h
    · intro given
      obtain ⟨t, name, u, comes, named, stopped⟩ := given
      cases comes with
      | first => cases named
      | next complete =>
        obtain ⟨_, named, _⟩ := complete
        cases named
  · constructor
    · intro h
      split at h
      · next stopped =>
        cases h
        obtain ⟨t, comes, name, u, named, stopped⟩ := list.mp stopped
        exact ⟨t, name, u, comes, named, stopped⟩
      · cases h
    · intro given
      obtain ⟨t, name, u, comes, named, stopped⟩ := given
      rw [list.mpr ⟨t, comes, name, u, named, stopped⟩]

end

/-! ### Values and documents -/

theorem leaf_iff_at {left : Nat} {s : Text} (h : opens s = false) {e : Halt}
    (limit : e.isLimit = true) : leaf s = .error e ↔ e.At left s := by
  rw [leaf_eq_error_iff limit]
  cases e with
  | malformed => cases limit
  | tooDeep => simp [Halt.At, h]
  | tooManyDigits n => simp [Halt.At]

theorem not_at_of_opens {left : Nat} {s : Text} (h : opens s = true) {e : Halt} :
    ¬e.At (left + 1) s := by
  intro stopped
  cases e with
  | malformed => exact stopped
  | tooDeep => cases stopped.1
  | tooManyDigits n =>
    rw [not_opens_of_longInteger stopped] at h
    cases h

/-- Reading a value that is neither an array nor an object comes to nothing but that value. -/
theorem exists_reaches_of_not_opens {levels : Nat} {s : Text} (h : opens s = false) {e : Halt} :
    (∃ left t, Reaches levels s left t ∧ e.At left t) ↔ e.At levels s := by
  constructor
  · intro given
    obtain ⟨left, t, reaches, stopped⟩ := given
    cases reaches with
    | here => exact stopped
    | item => cases h
    | member => cases h
  · exact fun stopped => ⟨levels, s, .here, stopped⟩

theorem exists_reaches_zero {s : Text} {e : Halt} :
    (∃ left t, Reaches 0 s left t ∧ e.At left t) ↔ e.At 0 s := by
  constructor
  · intro given
    obtain ⟨left, t, reaches, stopped⟩ := given
    cases reaches
    exact stopped
  · exact fun stopped => ⟨0, s, .here, stopped⟩

section

variable {n levels : Nat} {e : Halt} (limit : e.isLimit = true)

include limit

theorem value_zero_eq_error_iff {s : Text} : value n 0 s = .error e ↔ e.At 0 s := by
  cases h : opens s with
  | false => rw [value_of_not_opens h, leaf_iff_at h limit]
  | true =>
    have deep : value n 0 s = .error .tooDeep := by
      obtain ⟨t, rfl⟩ | ⟨t, rfl⟩ := opens_eq_true.mp h
      · rfl
      · rfl
    rw [deep, Except.error.injEq]
    constructor
    · rintro rfl
      exact ⟨rfl, h⟩
    · intro stopped
      cases e with
      | malformed => cases limit
      | tooDeep => rfl
      | tooManyDigits =>
        rw [not_opens_of_longInteger stopped] at h
        cases h

variable (inside : ∀ {s : Text}, s.length ≤ n →
  (value n levels s = .error e ↔ ∃ left t, Reaches levels s left t ∧ e.At left t))

include inside

/-- An array is not read for a limit just where reading one of its items comes to one. -/
theorem value_array_eq_error_iff {s : Text} (enough : (0x5B :: s).length ≤ n) :
    value n (levels + 1) (0x5B :: s) = .error e ↔
      ∃ left t, Reaches (levels + 1) (0x5B :: s) left t ∧ e.At left t := by
  have follows : Follows (value n levels) (Front levels) n :=
    fun s v rest small => value_eq_ok_iff (Nat.le_of_lt small)
  have refuses (u : Text) : value n levels (0x5D :: u) ≠ .error e := by
    rw [value_of_not_opens rfl, leaf_bracket]
    rintro ⟨⟩
    cases limit
  have step := array_eq_error_iff follows (front_shrinks levels) (front_bracket levels) limit
    refuses enough
  rw [show value n (levels + 1) (0x5B :: s) = array (value n levels) n s from rfl, step]
  rw [List.length_cons] at enough
  have := length_skipBlanks_le s
  constructor
  · intro given
    obtain ⟨u, comes, stopped⟩ := given
    have := length_comesTo_le (front_shrinks levels) comes
    obtain ⟨left, t, reaches, stopped⟩ := (inside (by omega)).mp stopped
    exact ⟨left, t, .item comes reaches, stopped⟩
  · intro given
    obtain ⟨left, t, reaches, stopped⟩ := given
    cases reaches with
    | here => exact absurd stopped (not_at_of_opens rfl)
    | item comes reaches =>
      have := length_comesTo_le (front_shrinks levels) comes
      exact ⟨_, comes, (inside (by omega)).mpr ⟨left, t, reaches, stopped⟩⟩

/-- An object is not read for a limit just where reading one of its members comes to one. -/
theorem value_object_eq_error_iff {s : Text} (enough : (0x7B :: s).length ≤ n) :
    value n (levels + 1) (0x7B :: s) = .error e ↔
      ∃ left t, Reaches (levels + 1) (0x7B :: s) left t ∧ e.At left t := by
  have follows : Follows (value n levels) (Front levels) n :=
    fun s v rest small => value_eq_ok_iff (Nat.le_of_lt small)
  have shrinks := member_shrinks (front_shrinks levels)
  have step := object_eq_error_iff follows (front_shrinks levels) limit enough
  rw [show value n (levels + 1) (0x7B :: s) = object (value n levels) n s from rfl, step]
  rw [List.length_cons] at enough
  have := length_skipBlanks_le s
  constructor
  · intro given
    obtain ⟨u, name, w, comes, named, stopped⟩ := given
    have := length_comesTo_le shrinks comes
    have := length_memberName_le named
    obtain ⟨left, t, reaches, stopped⟩ := (inside (by omega)).mp stopped
    exact ⟨left, t, .member comes named reaches, stopped⟩
  · intro given
    obtain ⟨left, t, reaches, stopped⟩ := given
    cases reaches with
    | here => exact absurd stopped (not_at_of_opens rfl)
    | member comes named reaches =>
      have := length_comesTo_le shrinks comes
      have := length_memberName_le named
      exact ⟨_, _, _, comes, named, (inside (by omega)).mpr ⟨left, t, reaches, stopped⟩⟩

end

/-- A value is not read for a limit just where reading it comes to one. -/
theorem value_eq_error_iff {n levels : Nat} {s : Text} (enough : s.length ≤ n) {e : Halt}
    (limit : e.isLimit = true) :
    value n levels s = .error e ↔ ∃ left t, Reaches levels s left t ∧ e.At left t := by
  induction levels generalizing s with
  | zero => exact (value_zero_eq_error_iff limit).trans exists_reaches_zero.symm
  | succ levels ih =>
    cases h : opens s with
    | false =>
      rw [exists_reaches_of_not_opens h, value_of_not_opens h]
      exact leaf_iff_at h limit
    | true =>
      obtain ⟨t, rfl⟩ | ⟨t, rfl⟩ := opens_eq_true.mp h
      · exact value_array_eq_error_iff limit ih enough
      · exact value_object_eq_error_iff limit ih enough

variable [Platform]

theorem document_eq_error_iff {s : Text} {e : Halt} (limit : e.isLimit = true) :
    document s = .error e ↔
      ∃ left t, Reaches Platform.levels (skipBlanks s) left t ∧ e.At left t := by
  have whole : value s.length Platform.levels (skipBlanks s) = .error e ↔ _ :=
    value_eq_error_iff (length_skipBlanks_le s) limit
  rw [← whole]
  unfold document
  split
  · next mark =>
    obtain ⟨t, rfl⟩ := List.head?_eq_some_iff.mp mark
    constructor
    · intro h
      cases h
      cases limit
    · intro h
      -- No value starts with the mark.
      rw [show skipBlanks (0xFEFF :: t) = 0xFEFF :: t from rfl, value_of_not_opens rfl,
        show leaf (0xFEFF :: t) = stop .expectedValue (0xFEFF :: t) from rfl] at h
      cases h
      cases limit
  · constructor
    · intro h
      split at h
      · next stopped =>
        cases h
        exact stopped
      · split at h
        · cases h
        · cases h
          cases limit
    · intro stopped
      rw [stopped]

theorem read_eq_error_iff {s : Text} {f : Fault} :
    read s = .error f ↔ ∃ e, document s = .error e ∧ e.fault s = f := by
  unfold read
  cases document s with
  | ok v => simp
  | error e => simp

theorem read_eq_tooDeep_iff {s : Text} : read s = .error .tooDeep ↔ TooDeep s := by
  rw [read_eq_error_iff]
  constructor
  · intro given
    obtain ⟨e, stopped, same⟩ := given
    cases e with
    | tooDeep =>
      obtain ⟨left, t, reaches, rfl, opening⟩ := (document_eq_error_iff rfl).mp stopped
      exact ⟨t, reaches, opening⟩
    | malformed => cases same
    | tooManyDigits => cases same
  · intro given
    obtain ⟨t, reaches, opening⟩ := given
    exact ⟨.tooDeep, (document_eq_error_iff rfl).mpr ⟨0, t, reaches, rfl, opening⟩, rfl⟩

theorem read_eq_tooManyDigits_iff {n : Nat} {s : Text} :
    read s = .error (.tooManyDigits n) ↔ TooLong n s := by
  rw [read_eq_error_iff]
  constructor
  · intro given
    obtain ⟨e, stopped, same⟩ := given
    cases e with
    | tooManyDigits k =>
      cases same
      exact (document_eq_error_iff rfl).mp stopped
    | malformed => cases same
    | tooDeep => cases same
  · exact fun comes => ⟨.tooManyDigits n, (document_eq_error_iff rfl).mpr comes, rfl⟩

end CheckReport.Json

import CheckReport.Json.Grammar

/-!
# Reading follows the grammar

`value` reads at the front of a text what `Front` says is there (`value_eq_ok_iff`). As each element
takes at least its comma or closing character, the length of the text is bound enough on the number of
members.
-/

namespace CheckReport.Json

open Text (isDigit)

/-! ### What is left -/

theorem length_skipBlanks_le (s : Text) : (skipBlanks s).length ≤ s.length :=
  (List.dropWhile_sublist isBlank).length_le

theorem length_of_skipBlanks_cons {s rest : Text} {c : Nat} (h : skipBlanks s = c :: rest) :
    rest.length < s.length := by
  have := length_skipBlanks_le s
  rw [h, List.length_cons] at this
  omega

theorem length_string_le {opening s t rest : Text} (h : string opening s = .ok (t, rest)) :
    rest.length ≤ s.length := by
  fun_induction string opening s generalizing t rest with
  | case1 => cases h
  | case2 =>
    cases h
    simp
  | case3 => cases h
  | case4 => cases h
  | case5 _ _ _ escaped _ _ _ read _ ih =>
    cases h
    have := ih read
    have := length_escape escaped
    simp only [List.length_cons]
    omega
  | case6 => cases h
  | case7 => cases h
  | case8 _ _ _ _ _ _ _ read ih =>
    cases h
    have := ih read
    simp only [List.length_cons]
    omega

theorem length_fraction_le (s : Text) : (fraction s).2.length ≤ s.length := by
  unfold fraction
  split
  · next s =>
    split
    · have := (List.dropWhile_sublist isDigit (l := s)).length_le
      simp only [List.length_cons]
      omega
    · simp
  · simp

theorem length_minus_le (s : Text) : (minus s).2.length ≤ s.length := by
  unfold minus
  split
  · simp
  · exact Nat.le_refl _

theorem length_exponentSign_le (s : Text) : (exponentSign s).2.length ≤ s.length := by
  unfold exponentSign
  split
  · simp
  · exact length_minus_le _

theorem length_integerDigits_le (d : Nat) (s : Text) : (integerDigits d s).2.length ≤ s.length := by
  unfold integerDigits
  split
  · exact Nat.le_refl _
  · exact (List.dropWhile_sublist isDigit).length_le

theorem length_exponent?_le {s rest : Text} {n : Int} (h : exponent? s = some (n, rest)) :
    rest.length ≤ s.length := by
  cases s with
  | nil => cases h
  | cons c s =>
    simp only [exponent?, Option.ite_none_right_eq_some, Option.some.injEq, Prod.mk.injEq] at h
    obtain ⟨_, _, rfl⟩ := h
    have := length_exponentSign_le s
    have := (List.dropWhile_sublist isDigit (l := (exponentSign s).2)).length_le
    simp only [List.length_cons]
    omega

theorem length_unsigned_le {negative : Bool} {d : Nat} {s rest : Text} {v : Value}
    (h : unsigned negative d s = .ok (v, rest)) : rest.length ≤ s.length := by
  have := length_integerDigits_le d s
  have := length_fraction_le (integerDigits d s).2
  unfold unsigned at h
  dsimp only at h
  split at h
  · next read =>
    cases h
    have := length_exponent?_le read
    omega
  · repeat' split at h
    all_goals cases h
    all_goals omega

theorem length_number_le {s rest : Text} {v : Value} (h : number s = .ok (v, rest)) :
    rest.length ≤ s.length := by
  have signs := length_minus_le s
  unfold number stop at h
  dsimp only at h
  split at h
  · next digits =>
    split at h
    · have := length_unsigned_le h
      rw [digits, List.length_cons] at signs
      omega
    · cases h
  · cases h

theorem length_scalar_le {s rest : Text} {v : Value} (h : scalar s = .ok (v, rest)) :
    rest.length ≤ s.length := by
  unfold scalar at h
  split at h
  · next found =>
    cases h
    obtain ⟨_, _, found⟩ := List.exists_of_findSome?_eq_some found
    obtain ⟨t, after, same⟩ := Option.map_eq_some_iff.mp found
    cases same
    unfold Text.after? at after
    split at after
    · cases after
      rw [List.length_drop]
      omega
    · cases after
  · exact length_number_le h

theorem length_leaf_le {s rest : Text} {v : Value} (h : leaf s = .ok (v, rest)) :
    rest.length ≤ s.length := by
  unfold leaf at h
  split at h
  · next s =>
    split at h
    · cases h
    · next read =>
      cases h
      have := length_string_le read
      simp only [List.length_cons]
      omega
  · exact length_scalar_le h

theorem length_memberName_le {s name rest : Text} (h : memberName s = .ok (name, rest)) :
    rest.length ≤ s.length := by
  unfold memberName at h
  split at h
  · next s =>
    split at h
    · cases h
    · next read =>
      split at h
      · next after colon =>
        cases h
        have := length_string_le read
        have := length_of_skipBlanks_cons colon
        have := length_skipBlanks_le after
        simp only [List.length_cons]
        omega
      · cases h
  · cases h

/-! ### Elements -/

section

variable {α : Type} {element : Text → Read α} {R : Text → α → Text → Prop}
  {item : Text → Read Value} {Q : Text → Value → Text → Prop} {close size : Nat}

/-- Whether `element` reads what `R` says, in texts shorter than `size`. -/
def Follows (element : Text → Read α) (R : Text → α → Text → Prop) (size : Nat) : Prop :=
  ∀ s a rest, s.length < size → (element s = .ok (a, rest) ↔ R s a rest)

/-- Whether what is left of a text is never longer than the text. -/
def Shrinks (R : Text → α → Text → Prop) : Prop :=
  ∀ s a rest, R s a rest → rest.length ≤ s.length

theorem length_series_le (shrinks : Shrinks R) {s rest : Text} {as : List α}
    (h : Series R close s as rest) : rest.length ≤ s.length := by
  induction h with
  | last first closed =>
    have := shrinks _ _ _ first
    have := length_of_skipBlanks_cons closed
    omega
  | @more s rest next _ _ _ first comma _ ih =>
    have := shrinks _ _ _ first
    have := length_of_skipBlanks_cons comma
    have := length_skipBlanks_le next
    omega

theorem series_eq_ok_iff (follows : Follows element R size) (shrinks : Shrinks R)
    (differs : close ≠ 0x2C) {n : Nat} {s rest : Text} {as : List α} (small : s.length < size)
    (enough : s.length < n) :
    series close element n s = .ok (as, rest) ↔ Series R close s as rest := by
  induction n generalizing s as with
  | zero => omega
  | succ n ih =>
    rw [series]
    constructor
    · intro h
      split at h
      · cases h
      · next a left read =>
        have first := (follows s a left small).mp read
        split at h
        · cases h
        · next c next found =>
          split at h
          · next closed =>
            subst closed
            cases h
            exact .last first found
          · split at h
            · next comma =>
              subst comma
              split at h
              · cases h
              · next later =>
                cases h
                have := shrinks _ _ _ first
                have := length_of_skipBlanks_cons found
                have := length_skipBlanks_le next
                exact .more first found ((ih (by omega) (by omega)).mp later)
            · cases h
    · intro h
      cases h with
      | last first closed =>
        rw [(follows _ _ _ small).mpr first]
        dsimp only
        rw [closed]
        simp
      | @more _ _ next _ _ _ first comma later =>
        have := shrinks _ _ _ first
        have := length_of_skipBlanks_cons comma
        have := length_skipBlanks_le next
        have later := (ih (by omega) (by omega)).mpr later
        rw [(follows _ _ _ small).mpr first]
        dsimp only
        rw [comma]
        simp [later, Ne.symm differs]

theorem member_follows (follows : Follows item Q size) :
    Follows (member item) (Member Q) size := by
  intro s m rest small
  unfold member Member
  constructor
  · intro h
    split at h
    · cases h
    · next named =>
      have := length_memberName_le named
      split at h
      · cases h
      · next read =>
        cases h
        exact ⟨_, named, (follows _ _ _ (by omega)).mp read⟩
  · intro given
    obtain ⟨t, named, read⟩ := given
    have := length_memberName_le named
    rw [named]
    dsimp only
    rw [(follows _ _ _ (by omega)).mpr read]

theorem member_shrinks (shrinks : Shrinks Q) : Shrinks (Member Q) := by
  rintro s m rest ⟨t, named, read⟩
  have := length_memberName_le named
  have := shrinks _ _ _ read
  omega

theorem nest_shrinks (shrinks : Shrinks Q) : Shrinks (Nest Q) := by
  intro s v rest h
  simp only [Shrinks] at shrinks
  cases h with
  | emptyArray closed | emptyObject closed =>
    have := length_of_skipBlanks_cons closed
    simp only [List.length_cons]
    omega
  | @array s _ _ elements =>
    have := length_series_le shrinks elements
    have := length_skipBlanks_le s
    simp only [List.length_cons]
    omega
  | @object s _ _ elements =>
    have := length_series_le (member_shrinks shrinks) elements
    have := length_skipBlanks_le s
    simp only [List.length_cons]
    omega

/-- An element is at the front of every series. -/
theorem series_front {s rest : Text} {as : List α} (h : Series R close s as rest) :
    ∃ a left, R s a left := by
  cases h with
  | last first => exact ⟨_, _, first⟩
  | more first => exact ⟨_, _, first⟩

theorem array_eq_ok_iff (follows : Follows item Q size) (shrinks : Shrinks Q)
    (filled : ∀ t v rest, ¬Q (0x5D :: t) v rest) {s rest : Text} {v : Value}
    (small : s.length < size) :
    array item size s = .ok (v, rest) ↔ Nest Q (0x5B :: s) v rest := by
  have := length_skipBlanks_le s
  have items (vs : List Value) :
      series 0x5D item size (skipBlanks s) = .ok (vs, rest) ↔ Series Q 0x5D (skipBlanks s) vs rest :=
    series_eq_ok_iff follows shrinks (by decide) (Nat.lt_of_le_of_lt this small)
      (Nat.lt_of_le_of_lt this small)
  unfold array
  constructor
  · intro h
    split at h
    · next closed =>
      cases h
      exact .emptyArray closed
    · split at h
      · cases h
      · next read =>
        cases h
        exact .array ((items _).mp read)
  · intro h
    cases h with
    | emptyArray closed =>
      rw [closed]
      rfl
    | array elements =>
      split
      · next t closed =>
        rw [closed] at elements
        obtain ⟨_, _, first⟩ := series_front elements
        exact absurd first (filled t _ _)
      · rw [(items _).mpr elements]

theorem object_eq_ok_iff (follows : Follows item Q size) (shrinks : Shrinks Q) {s rest : Text}
    {v : Value} (small : s.length < size) :
    object item size s = .ok (v, rest) ↔ Nest Q (0x7B :: s) v rest := by
  have := length_skipBlanks_le s
  have list (ms : List (Text × Value)) :
      series 0x7D (member item) size (skipBlanks s) = .ok (ms, rest) ↔
        Series (Member Q) 0x7D (skipBlanks s) ms rest :=
    series_eq_ok_iff (member_follows follows) (member_shrinks shrinks) (by decide)
      (Nat.lt_of_le_of_lt this small) (Nat.lt_of_le_of_lt this small)
  unfold object
  constructor
  · intro h
    split at h
    · next closed =>
      cases h
      exact .emptyObject closed
    · split at h
      · cases h
      · next read =>
        cases h
        exact .object ((list _).mp read)
  · intro h
    cases h with
    | emptyObject closed =>
      rw [closed]
      rfl
    | object elements =>
      split
      · next t closed =>
        rw [closed] at elements
        obtain ⟨_, _, _, named, _⟩ := series_front elements
        cases named
      · rw [(list _).mpr elements]

end

/-! ### Values -/

theorem opens_eq_true {s : Text} :
    opens s = true ↔ (∃ t, s = 0x5B :: t) ∨ ∃ t, s = 0x7B :: t := by
  simp [opens, List.head?_eq_some_iff]

theorem value_of_not_opens {n levels : Nat} {s : Text} (h : opens s = false) :
    value n levels s = leaf s := by
  cases levels with
  | zero =>
    unfold value
    split
    · cases h
    · cases h
    · rfl
  | succ levels =>
    unfold value
    split
    · cases h
    · cases h
    · rfl

theorem leaf_bracket (t : Text) : leaf (0x5D :: t) = stop .expectedValue (0x5D :: t) := by
  rfl

theorem front_succ {levels : Nat} {s rest : Text} {v : Value} :
    Front (levels + 1) s v rest ↔ Leaf s v rest ∨ Nest (Front levels) s v rest :=
  Iff.rfl

theorem front_bracket (levels : Nat) (t : Text) (v : Value) (rest : Text) :
    ¬Front levels (0x5D :: t) v rest := by
  have noLeaf : ¬Leaf (0x5D :: t) v rest := by
    intro given
    obtain ⟨_, read⟩ := given
    rw [leaf_bracket] at read
    cases read
  cases levels with
  | zero => exact noLeaf
  | succ levels =>
    intro given
    rcases given with read | nest
    · exact noLeaf read
    · cases nest

theorem front_shrinks (levels : Nat) : Shrinks (Front levels) := by
  induction levels with
  | zero => exact fun _ _ _ h => length_leaf_le h.2
  | succ levels ih =>
    rintro s v rest (h | h)
    · exact length_leaf_le h.2
    · exact nest_shrinks ih s v rest h

theorem leaf_iff_of_not_opens {s rest : Text} {v : Value} (h : opens s = false) :
    Leaf s v rest ↔ leaf s = .ok (v, rest) := by
  simp [Leaf, h]

theorem not_nest_of_not_opens {Q : Text → Value → Text → Prop} {s rest : Text} {v : Value}
    (h : opens s = false) : ¬Nest Q s v rest := by
  intro nest
  cases nest <;> cases h

/-- Reading finds a value at the front of a text just when one is there. -/
theorem value_eq_ok_iff {n levels : Nat} {s rest : Text} {v : Value} (enough : s.length ≤ n) :
    value n levels s = .ok (v, rest) ↔ Front levels s v rest := by
  induction levels generalizing s v rest with
  | zero =>
    cases h : opens s with
    | false => rw [value_of_not_opens h, Front, leaf_iff_of_not_opens h]
    | true =>
      simp only [Front, Leaf, h, Bool.true_eq_false, false_and, iff_false]
      obtain ⟨t, rfl⟩ | ⟨t, rfl⟩ := opens_eq_true.mp h
      · simp [value]
      · simp [value]
  | succ levels ih =>
    have follows : Follows (value n levels) (Front levels) n :=
      fun s v rest small => ih (Nat.le_of_lt small)
    cases h : opens s with
    | false =>
      rw [value_of_not_opens h, front_succ, leaf_iff_of_not_opens h]
      simp [not_nest_of_not_opens h]
    | true =>
      simp only [front_succ, Leaf, h, Bool.true_eq_false, false_and, false_or]
      obtain ⟨t, rfl⟩ | ⟨t, rfl⟩ := opens_eq_true.mp h
      · exact array_eq_ok_iff follows (front_shrinks levels) (front_bracket levels) enough
      · exact object_eq_ok_iff follows (front_shrinks levels) enough

/-- A document is read if it is a value between blanks, without a byte order mark. -/
theorem read_eq_ok_iff [Platform] {s : Text} {v : Value} :
    read s = .ok v ↔ s.head? ≠ some 0xFEFF ∧
      ∃ rest, Front Platform.levels (skipBlanks s) v rest ∧ skipBlanks rest = [] := by
  have whole (rest : Text) :
      value s.length Platform.levels (skipBlanks s) = .ok (v, rest) ↔ _ :=
    value_eq_ok_iff (length_skipBlanks_le s)
  simp only [← whole]
  unfold read document stop
  constructor
  · intro h
    split at h
    · next done =>
      cases h
      split at done
      · cases done
      · next unmarked =>
        split at done
        · cases done
        · next rest found =>
          split at done
          · next ends =>
            cases done
            exact ⟨unmarked, rest, found, ends⟩
          · cases done
    · cases h
  · intro given
    obtain ⟨unmarked, rest, found, ends⟩ := given
    rw [if_neg unmarked, found]
    simp only [ends]

end CheckReport.Json

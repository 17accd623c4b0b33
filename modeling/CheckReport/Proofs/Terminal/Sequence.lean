import CheckReport.Proofs.Terminal.Token

/-!
# What removing control sequences leaves

One pass removes the control sequences that a text has, but not those that come together only by it,
and none for links (`hasSequence_withoutControls_iff`).
-/

namespace CheckReport.Terminal

/-! ### Steps of the pass -/

theorem withoutControls_cons_of_ne {c : Nat} (other : c ≠ escapeChar) (s : Text) :
    withoutControls (c :: s) = c :: withoutControls s := by
  rw [withoutControls, if_neg other]

theorem withoutControls_control {s rest : Text} (control : afterControl? s = some rest) :
    withoutControls (escapeChar :: s) = withoutControls rest := by
  rw [withoutControls, if_pos rfl]
  split
  · next found =>
    rw [control] at found
    cases found
    rfl
  · next none =>
    rw [control] at none
    cases none

theorem withoutControls_stray {s : Text} (stray : afterControl? s = none) :
    withoutControls (escapeChar :: s) = escapeChar :: withoutControls s := by
  rw [withoutControls, if_pos rfl]
  split
  · next found =>
    rw [stray] at found
    cases found
  · rfl

/-- No control sequence reaches beyond an escape character. -/
theorem afterControl?_append (s t : Text) :
    afterControl? (s ++ escapeChar :: t) = (afterControl? s).map (· ++ escapeChar :: t) := by
  cases s with
  | nil => rfl
  | cons c s =>
    by_cases bracket : c = 0x5B
    · subst bracket
      rw [List.cons_append, afterControl?, afterControl?, dropWhile_append_stop rfl]
      cases s.dropWhile isParameter with
      | nil => rfl
      | cons d rest =>
        rw [List.cons_append]
        dsimp only
        split <;> rfl
    · have none (u : Text) : afterControl? (c :: u) = none := by
        unfold afterControl?
        split
        · next same =>
          cases same
          exact absurd rfl bracket
        · rfl
      rw [List.cons_append, none, none]
      rfl

/-- What is removed before an escape character does not depend on what comes from there on. -/
theorem withoutControls_append (s t : Text) :
    withoutControls (s ++ escapeChar :: t) =
      withoutControls s ++ withoutControls (escapeChar :: t) := by
  fun_induction withoutControls s with
  | case1 => rfl
  | case2 s rest control _ ih =>
    have extended := afterControl?_append s t
    rw [control] at extended
    rw [List.cons_append, withoutControls_control extended, ih]
  | case3 s stray ih =>
    have extended := afterControl?_append s t
    rw [stray] at extended
    rw [List.cons_append, withoutControls_stray extended, ih, List.cons_append]
  | case4 c s other ih =>
    rw [List.cons_append, withoutControls_cons_of_ne other, ih, List.cons_append]

theorem suffix_of_afterControl? {s rest : Text} (control : afterControl? s = some rest) :
    rest <:+ s := by
  unfold afterControl? at control
  split at control
  · next s =>
    have suffix := List.dropWhile_suffix (l := s) isParameter
    split at control
    · next c rest' left =>
      split at control
      · cases control
        rw [left] at suffix
        exact ((List.suffix_cons c rest).trans suffix).trans (List.suffix_cons 0x5B s)
      · cases control
    · cases control
  · cases control

/-- An escape character that is left is a stray one, and what follows it is what is left after it. -/
theorem exists_of_withoutControls_eq {s before after : Text}
    (left : withoutControls s = before ++ escapeChar :: after) :
    ∃ a b, s = a ++ escapeChar :: b ∧ afterControl? b = none ∧ withoutControls b = after := by
  fun_induction withoutControls s generalizing before with
  | case1 => cases before <;> cases left
  | case2 s rest control _ ih =>
    obtain ⟨a, b, rfl, stray, same⟩ := ih left
    obtain ⟨removed, rfl⟩ := suffix_of_afterControl? control
    exact ⟨escapeChar :: (removed ++ a), b, by simp, stray, same⟩
  | case3 s stray ih =>
    cases before with
    | nil => exact ⟨[], s, rfl, stray, (List.cons.inj left).2⟩
    | cons d before =>
      obtain ⟨rfl, later⟩ := List.cons.inj left
      obtain ⟨a, b, rfl, stray', same⟩ := ih later
      exact ⟨escapeChar :: a, b, rfl, stray', same⟩
  | case4 c s other ih =>
    cases before with
    | nil => exact absurd (List.cons.inj left).1 other
    | cons d before =>
      obtain ⟨rfl, later⟩ := List.cons.inj left
      obtain ⟨a, b, rfl, stray, same⟩ := ih later
      exact ⟨c :: a, b, rfl, stray, same⟩

/-- One pass leaves a sequence just where a stray escape character comes to start one. -/
theorem hasSequence_withoutControls_iff {s : Text} :
    HasSequence (withoutControls s) ↔ LeavesSequence s := by
  constructor
  · rintro ⟨before, after, left, starts⟩
    obtain ⟨a, b, same, stray, rfl⟩ := exists_of_withoutControls_eq left
    exact ⟨a, b, same, stray, starts⟩
  · rintro ⟨a, b, rfl, stray, starts⟩
    refine ⟨withoutControls a, withoutControls b, ?_, starts⟩
    rw [withoutControls_append, withoutControls_stray stray]

/-! ### A line feed at the end -/

theorem isSome_link?_append (s : Text) :
    (Token.link? (s ++ [Text.newline])).isSome = (Token.link? s).isSome := by
  unfold Token.link?
  rw [after?_append (by decide) s []]
  cases Text.after? (text "]8;;") s with
  | none => rfl
  | some target =>
    dsimp only [Option.map_some]
    rw [List.dropWhile_append]
    cases target.dropWhile (· ≠ escapeChar) with
    | nil => rfl
    | cons e rest =>
      cases rest with
      | nil => rfl
      | cons d rest =>
        by_cases mark : d = 0x5C
        · subst mark
          rfl
        · simp [mark]

theorem isSome_sequence?_append (s : Text) :
    (Token.sequence? (s ++ [Text.newline])).isSome = (Token.sequence? s).isSome := by
  unfold Token.sequence?
  rw [style?_append (by decide) s []]
  cases Token.style? s with
  | some found => rfl
  | none => exact isSome_link?_append s

theorem hasSequence_append_newline {s : Text} :
    HasSequence (s ++ [Text.newline]) ↔ HasSequence s := by
  constructor
  · rintro ⟨before, after, same, starts⟩
    rcases List.eq_nil_or_concat after with rfl | ⟨after, last, rfl⟩
    · cases starts
    · rw [List.concat_eq_append] at same starts
      rw [← List.cons_append, ← List.append_assoc] at same
      obtain ⟨rfl, feed⟩ := List.append_inj' same rfl
      obtain rfl := (List.cons.inj feed).1
      exact ⟨before, after, rfl, isSome_sequence?_append after ▸ starts⟩
  · rintro ⟨before, after, rfl, starts⟩
    refine ⟨before, after ++ [Text.newline], by simp, ?_⟩
    rwa [isSome_sequence?_append]

theorem not_hasSequence_of_free {s : Text} (free : escapeChar ∉ s) : ¬HasSequence s := by
  rintro ⟨before, after, rfl, _⟩
  exact free (List.mem_append_right _ List.mem_cons_self)

/-- What is removed leaves no characters but those of the text. -/
theorem withoutControls_sublist (s : Text) : (withoutControls s).Sublist s := by
  fun_induction withoutControls s with
  | case1 => exact .slnil
  | case2 s rest control _ ih =>
    exact ((ih.trans (suffix_of_afterControl? control).sublist).cons escapeChar)
  | case3 s stray ih => exact ih.cons_cons escapeChar
  | case4 c s other ih => exact ih.cons_cons c

end CheckReport.Terminal

import CheckReport.Proofs.Path.Leads

/-!
# Paths as they are written

A path is absolute just if its text is (`isAbsolute_ofText`), and an absolute path leads where its text
does (`resolve_toText_ofText`).
-/

namespace CheckReport.Path

open Text (slash)

theorem isAbsolute_ofText (s : Text) : (ofText s).isAbsolute = isAbsoluteText s := by
  have rooted (n : Nat) : Root.ofSlashes n ≠ .none ↔ n ≠ 0 := by
    unfold Root.ofSlashes
    split <;> simp_all
  rw [Bool.eq_iff_iff, isAbsolute, isAbsoluteText, decide_eq_true_eq, decide_eq_true_eq, ofText,
    rooted]
  cases s with
  | nil => simp
  | cons c s => by_cases first : c = slash <;> simp [first]

/-! ### Where paths lead -/

/-- Components that do not move can be left out. -/
theorem foldl_enter_filter {keep : Text → Bool}
    (still : ∀ part, keep part = false → part = [] ∨ part = dot) (parts here : List Text) :
    (parts.filter keep).foldl enter here = parts.foldl enter here := by
  induction parts generalizing here with
  | nil => rfl
  | cons part parts ih =>
    cases kept : keep part with
    | true => rw [List.filter_cons_of_pos kept, List.foldl_cons, List.foldl_cons, ih]
    | false =>
      rw [List.filter_cons_of_neg (by simp [kept]), List.foldl_cons,
        enter_still (still part kept), ih]

theorem foldl_enter_slash (s : Text) :
    (components (slash :: s)).foldl enter [] = (components s).foldl enter [] := by
  rw [components, Text.split, if_pos rfl, List.foldl_cons, enter_still (.inl rfl)]
  rfl

theorem foldl_enter_join {parts : List Text} (whole : ∀ part ∈ parts, slash ∉ part) :
    (components (Text.join [slash] parts)).foldl enter [] = parts.foldl enter [] := by
  cases parts with
  | nil => rfl
  | cons part parts => rw [components, Text.split_join (List.cons_ne_nil _ _) whole]

/-- An absolute path leads to the same place as its text. -/
theorem resolve_toText_ofText {s : Text} (absolute : isAbsoluteText s = true) (cwd : Text) :
    resolve cwd (ofText s).toText = resolve cwd s := by
  have rooted : (ofText s).root ≠ .none := by
    simpa [isAbsolute] using (isAbsolute_ofText s).trans absolute
  have whole : ∀ part ∈ (ofText s).parts, slash ∉ part := fun part mem =>
    Text.not_mem_of_mem_split (List.mem_filter.mp mem).1
  have written : isAbsoluteText (ofText s).toText = true ∧
      (components (ofText s).toText).foldl enter [] = (ofText s).parts.foldl enter [] := by
    rw [toText, if_neg fun empty => rooted empty.1]
    cases root : (ofText s).root with
    | none => exact absurd root rooted
    | single => exact ⟨rfl, (foldl_enter_slash _).trans (foldl_enter_join whole)⟩
    | double =>
      exact ⟨rfl, (foldl_enter_slash _).trans ((foldl_enter_slash _).trans (foldl_enter_join whole))⟩
  rw [resolve_of_absolute written.1, written.2, resolve_of_absolute absolute]
  refine foldl_enter_filter (fun part dropped => ?_) (components s) []
  simpa [or_iff_not_imp_left] using dropped

end CheckReport.Path

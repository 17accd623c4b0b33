import CheckReport.Path.Relative
import CheckReport.Proofs.Text.Characters

/-!
# What relative paths are made of

Walking adds only components that go down (`forall_mem_foldl_enter`). So the components of a displayed
path are double dots and components of the path itself. None comes from the base directory.
-/

namespace CheckReport.Path

/-- What holds of the names that are there, and of all that are gone down to, holds on the whole way. -/
theorem forall_mem_foldl_enter {P : Text → Prop} {parts here : List Text}
    (before : ∀ name ∈ here, P name)
    (down : ∀ part ∈ parts, part ≠ [] → part ≠ dot → part ≠ dots → P part) :
    ∀ name ∈ parts.foldl enter here, P name := by
  induction parts generalizing here with
  | nil => exact before
  | cons part parts ih =>
    obtain ⟨first, later⟩ := List.forall_mem_cons.mp down
    refine ih ?_ later
    unfold enter
    split
    · exact before
    · next moves =>
      obtain ⟨nonempty, notDot⟩ := not_or.mp moves
      split
      · exact fun name mem => before name ((List.dropLast_sublist here).subset mem)
      · next notDots =>
        rw [List.forall_mem_append, List.forall_mem_singleton]
        exact ⟨before, first nonempty notDot notDots⟩

theorem resolve_of_absolute {path : Text} (absolute : isAbsoluteText path = true) (cwd : Text) :
    resolve cwd path = (components path).foldl enter [] := by
  rw [resolve, resolveFrom, if_pos absolute]

theorem mem_components_of_mem_resolve {cwd path x : Text} (absolute : isAbsoluteText path = true)
    (mem : x ∈ resolve cwd path) : x ∈ components path := by
  rw [resolve_of_absolute absolute] at mem
  exact forall_mem_foldl_enter (List.forall_mem_nil _) (fun _ found _ _ _ => found) x mem

theorem mem_between {base path : List Text} {x : Text} (mem : x ∈ between base path) :
    x = dots ∨ x ∈ path := by
  fun_induction between base path with
  | case1 base name path ih =>
    rcases ih mem with up | down
    · exact .inl up
    · exact .inr (List.mem_cons_of_mem _ down)
  | case2 a base b path =>
    rcases List.mem_append.mp mem with up | down
    · exact .inl (List.eq_of_mem_replicate up)
    · exact .inr down
  | case3 base path =>
    rcases List.mem_append.mp mem with up | down
    · exact .inl (List.eq_of_mem_replicate up)
    · exact .inr down

/-- A property of printable ASCII that holds throughout a path holds throughout its display. -/
theorem forall_mem_display {P : Nat → Prop} (common : Text.Common P) {cwd path : Text}
    {base : Option Text} (holds : ∀ c ∈ path, P c) : ∀ c ∈ display cwd base path, P c := by
  have slash : P Text.slash := common Text.slash (by decide)
  have component : ∀ part ∈ components path, ∀ c ∈ part, P c :=
    (Text.forall_mem_split slash).mpr holds
  unfold display
  split
  · next absolute =>
    split
    · exact common.literal (by decide)
    · have separator : ∀ c ∈ [Text.slash], P c := List.forall_mem_singleton.mpr slash
      apply (Text.forall_mem_join separator).mpr
      intro part mem
      rcases mem_between mem with rfl | inside
      · exact common.literal (by decide)
      · exact component part (mem_components_of_mem_resolve absolute inside)
  · exact holds

end CheckReport.Path

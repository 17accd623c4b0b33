/-!
# Validations

A validation gives a value, or all the faults that it found, in their order.
-/

namespace CheckReport

abbrev Validation (ε α : Type) := Except (List ε) α

namespace Validation

variable {ε α β γ : Type}

/-- Two validations side by side, with the faults of both. -/
def both : Validation ε α → Validation ε β → Validation ε (α × β)
  | .ok a, .ok b => .ok (a, b)
  | .ok _, .error es => .error es
  | .error es, .ok _ => .error es
  | .error es, .error fs => .error (es ++ fs)

theorem both_eq_ok {x : Validation ε α} {y : Validation ε β} {a : α} {b : β} :
    both x y = .ok (a, b) ↔ x = .ok a ∧ y = .ok b := by
  cases x <;> cases y <;> simp [both]

def faults : Validation ε α → List ε
  | .ok _ => []
  | .error es => es

theorem faults_map (x : Validation ε α) (f : α → β) : faults (x.map f) = faults x := by
  cases x <;> rfl

theorem faults_both (x : Validation ε α) (y : Validation ε β) :
    faults (both x y) = faults x ++ faults y := by
  cases x <;> cases y <;> simp [both, faults]

/-!
### When steps succeed

A step made of others gives a value just where they do, for `map`, `both`, `bind` and `mapM`.
-/

theorem toOption_eq_some {x : Except ε α} {a : α} : x.toOption = some a ↔ x = .ok a := by
  cases x <;> simp [Except.toOption]

theorem map_eq_ok {x : Except ε α} {f : α → β} {b : β} :
    x.map f = .ok b ↔ ∃ a, x = .ok a ∧ f a = b := by
  cases x <;> simp [Except.map]

theorem mapError_eq_ok {x : Except ε α} {f : ε → β} {a : α} :
    x.mapError f = .ok a ↔ x = .ok a := by
  cases x with
  | error e => exact ⟨fun h => (by cases h), fun h => (by cases h)⟩
  | ok b => exact ⟨fun h => congrArg _ (Except.ok.inj h), fun h => congrArg _ (Except.ok.inj h)⟩

theorem bind_eq_ok {x : Except ε α} {f : α → Except ε β} {b : β} :
    (x >>= f) = .ok b ↔ ∃ a, x = .ok a ∧ f a = .ok b := by
  cases x <;> simp [Bind.bind, Except.bind]

theorem map_both_eq_ok {x : Validation ε α} {y : Validation ε β} {f : α × β → γ} {c : γ} :
    (both x y).map f = .ok c ↔ ∃ a b, x = .ok a ∧ y = .ok b ∧ f (a, b) = c := by
  rw [map_eq_ok]
  constructor
  · intro given
    obtain ⟨⟨a, b⟩, read, same⟩ := given
    obtain ⟨first, second⟩ := both_eq_ok.mp read
    exact ⟨a, b, first, second, same⟩
  · intro given
    obtain ⟨a, b, first, second, same⟩ := given
    exact ⟨(a, b), both_eq_ok.mpr ⟨first, second⟩, same⟩

/-- A step that succeeds where `P` holds and gives `g` there does so for all items of a list. -/
theorem mapM_eq_ok_iff {f : α → Except ε β} {P : α → Prop} {g : α → β}
    (each : ∀ x y, f x = .ok y ↔ P x ∧ y = g x) {xs : List α} {ys : List β} :
    xs.mapM f = .ok ys ↔ (∀ x ∈ xs, P x) ∧ ys = xs.map g := by
  induction xs generalizing ys with
  | nil =>
    simp only [List.mapM_nil, List.map_nil, pure, Except.pure, Except.ok.injEq]
    exact ⟨fun h => ⟨fun _ mem => (by cases mem), h.symm⟩, fun h => h.2.symm⟩
  | cons x xs ih =>
    simp only [List.mapM_cons, bind_eq_ok, each, ih, pure, Except.pure, Except.ok.injEq,
      List.forall_mem_cons, List.map_cons]
    constructor
    · intro given
      obtain ⟨_, ⟨first, rfl⟩, _, ⟨later, rfl⟩, rfl⟩ := given
      exact ⟨⟨first, later⟩, rfl⟩
    · intro given
      obtain ⟨⟨first, later⟩, rfl⟩ := given
      exact ⟨_, ⟨first, rfl⟩, _, ⟨later, rfl⟩, rfl⟩

end Validation

end CheckReport

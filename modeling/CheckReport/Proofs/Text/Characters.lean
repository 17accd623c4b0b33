import CheckReport.Proofs.Text.Numeral

/-!
# Characters of texts

A property of characters holds throughout a text that is put together just where it holds
throughout the parts. Numerals, blanks and literals are of printable ASCII.
-/

namespace CheckReport.Text

variable {P : Nat → Prop}

theorem forall_mem_split {sep : Nat} (holds : P sep) {s : Text} :
    (∀ piece ∈ split sep s, ∀ c ∈ piece, P c) ↔ ∀ c ∈ s, P c := by
  fun_induction split sep s with
  | case1 => simp
  | case2 s ih =>
    rw [List.forall_mem_cons, List.forall_mem_cons, ih]
    simp [holds]
  | case3 c s _ empty => exact absurd empty (split_ne_nil sep s)
  | case4 c s _ piece pieces found ih =>
    rw [found, List.forall_mem_cons] at ih
    rw [List.forall_mem_cons, List.forall_mem_cons, List.forall_mem_cons, ← ih, and_assoc]

theorem forall_mem_join {sep : Text} (holds : ∀ c ∈ sep, P c) {parts : List Text} :
    (∀ c ∈ join sep parts, P c) ↔ ∀ s ∈ parts, ∀ c ∈ s, P c := by
  fun_induction join sep parts with
  | case1 => simp
  | case2 s => rw [List.forall_mem_singleton]
  | case3 s t rest ih =>
    rw [List.forall_mem_append, List.forall_mem_append, ih, List.forall_mem_cons (a := s)]
    exact ⟨fun given => ⟨given.1.1, given.2⟩, fun given => ⟨⟨given.1, holds⟩, given.2⟩⟩

/-! ### Printable ASCII -/

/-- Whether a property holds of printable ASCII, which texts are laid out with. -/
def Common (P : Nat → Prop) : Prop :=
  ∀ c, 0x20 ≤ c ∧ c < 0x7F → P c

namespace Common

theorem literal (common : Common P) {s : Text} (ascii : ∀ c ∈ s, 0x20 ≤ c ∧ c < 0x7F) :
    ∀ c ∈ s, P c :=
  fun c mem => common c (ascii c mem)

theorem ofNat (common : Common P) (n : Nat) : ∀ c ∈ Text.ofNat n, P c := by
  apply common.literal
  intro c mem
  have digit := isDigit_iff.mp (isDigit_of_mem_ofNat mem)
  omega

theorem ofInt (common : Common P) (n : Int) : ∀ c ∈ Text.ofInt n, P c := by
  cases n with
  | ofNat n => exact common.ofNat n
  | negSucc n => exact List.forall_mem_append.mpr ⟨common.literal (by decide), common.ofNat (n + 1)⟩

theorem spaces (common : Common P) (n : Nat) : ∀ c ∈ Text.spaces n, P c := by
  intro c mem
  rw [List.eq_of_mem_replicate mem]
  exact common space (by decide)

/-- Characters of printable ASCII differ from any other character. -/
theorem ne {c : Nat} (other : ¬(0x20 ≤ c ∧ c < 0x7F)) : Common (· ≠ c) := by
  rintro d printable rfl
  exact other printable

end Common

end CheckReport.Text

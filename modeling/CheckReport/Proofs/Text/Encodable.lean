import CheckReport.Proofs.Text.Characters
import CheckReport.Text.Utf8

/-!
# Encodable texts

A text is encodable just where its parts are; numerals and literals always are.
-/

namespace CheckReport.Text.Utf8

@[simp] theorem encodable_nil : Encodable [] := by
  intro c mem
  cases mem

@[simp] theorem encodable_cons {c : Nat} {s : Text} :
    Encodable (c :: s) ↔ isSurrogate c = false ∧ Encodable s :=
  List.forall_mem_cons

@[simp] theorem encodable_append {s t : Text} :
    Encodable (s ++ t) ↔ Encodable s ∧ Encodable t :=
  List.forall_mem_append

/-- The first surrogates of a text are found if there are any. -/
theorem unencodable?_eq_none_iff {s : Text} : unencodable? s = none ↔ Encodable s := by
  have clear : (s.dropWhile fun c => !isSurrogate c) = [] ↔ Encodable s := by
    induction s with
    | nil => simp
    | cons c s ih => cases h : isSurrogate c <;> simp [h, ih]
  rw [← clear, unencodable?]
  split
  · next none => simp [none]
  · next some => simp [some]

theorem encodable_flatMap {α : Type} {xs : List α} {f : α → Text} :
    Encodable (xs.flatMap f) ↔ ∀ x ∈ xs, Encodable (f x) := by
  constructor
  · intro h x mem c found
    exact h c (List.mem_flatMap.mpr ⟨x, mem, found⟩)
  · intro h c found
    obtain ⟨x, mem, inside⟩ := List.mem_flatMap.mp found
    exact h x mem c inside

theorem encodable_join {sep : Text} (plain : Encodable sep) {parts : List Text} :
    Encodable (join sep parts) ↔ ∀ s ∈ parts, Encodable s :=
  forall_mem_join plain

@[simp] theorem encodable_text (s : String) : Encodable (text s) := by
  intro c mem
  obtain ⟨char, _, rfl⟩ := List.mem_map.mp mem
  have valid := char.valid
  simp only [isSurrogate, Bool.and_eq_false_iff, decide_eq_false_iff_not]
  rcases valid with low | ⟨high, _⟩
  · exact .inl (by have := low; simp only [Char.toNat]; omega)
  · exact .inr (by have := high; simp only [Char.toNat]; omega)

theorem not_isSurrogate_of_isDigit {c : Nat} (digit : isDigit c = true) : isSurrogate c = false := by
  have bounds := isDigit_iff.mp digit
  exact isSurrogate_of_lt (by omega)

@[simp] theorem encodable_ofNat (n : Nat) : Encodable (ofNat n) :=
  fun _ mem => not_isSurrogate_of_isDigit (isDigit_of_mem_ofNat mem)

end CheckReport.Text.Utf8

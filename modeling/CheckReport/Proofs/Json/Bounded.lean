import CheckReport.Proofs.Json.Grammar
import CheckReport.Proofs.Text.Numeral

/-!
# Documents hold bounded integers

A document with an integer of too many digits is not read, so what is read is bounded
(`bounded_of_read`).
-/

namespace CheckReport.Json

open Text (isDigit)

/-! ### Values without elements -/

theorem isDigit_of_mem_integerDigits {d : Nat} {s : Text} (digit : isDigit d = true) :
    ∀ c ∈ (integerDigits d s).1, isDigit c = true := by
  unfold integerDigits
  split
  · exact List.forall_mem_singleton.mpr digit
  · exact List.forall_mem_cons.mpr ⟨digit, List.all_eq_true.mp List.all_takeWhile⟩

theorem natAbs_signed (negative : Bool) (n : Nat) : (signed negative n).natAbs = n := by
  cases negative with
  | false => rfl
  | true => exact Int.natAbs_neg n

theorem bounded_of_unsigned {negative : Bool} {d : Nat} {s rest : Text} {v : Value}
    (digit : isDigit d = true) (h : unsigned negative d s = .ok (v, rest)) : v.Bounded := by
  unfold unsigned at h
  dsimp only at h
  split at h
  · cases h
    exact .float _
  · split at h
    · cases h
      exact .float _
    · split at h
      · cases h
      · next short =>
        cases h
        refine .int ?_
        rw [natAbs_signed]
        exact Text.digitsValue_lt (isDigit_of_mem_integerDigits digit) (Nat.le_of_not_lt short)

theorem bounded_of_number {s rest : Text} {v : Value} (h : number s = .ok (v, rest)) :
    v.Bounded := by
  unfold number stop at h
  dsimp only at h
  split at h
  · split at h
    · next digit => exact bounded_of_unsigned digit h
    · cases h
  · cases h

theorem bounded_of_mem_words {word : Text} {v : Value} (mem : (word, v) ∈ words) : v.Bounded := by
  simp only [words, List.mem_cons, Prod.mk.injEq, List.not_mem_nil, or_false] at mem
  rcases mem with ⟨_, rfl⟩ | ⟨_, rfl⟩ | ⟨_, rfl⟩ | ⟨_, rfl⟩ | ⟨_, rfl⟩ | ⟨_, rfl⟩
  · exact .null
  · exact .bool _
  · exact .bool _
  · exact .float _
  · exact .float _
  · exact .float _

theorem bounded_of_scalar {s rest : Text} {v : Value} (h : scalar s = .ok (v, rest)) :
    v.Bounded := by
  unfold scalar at h
  split at h
  · next found =>
    obtain ⟨⟨word, w⟩, mem, read⟩ := List.exists_of_findSome?_eq_some found
    obtain ⟨_, _, same⟩ := Option.map_eq_some_iff.mp read
    cases h
    cases same
    exact bounded_of_mem_words mem
  · exact bounded_of_number h

theorem bounded_of_leaf {s rest : Text} {v : Value} (h : leaf s = .ok (v, rest)) : v.Bounded := by
  unfold leaf at h
  split at h
  · split at h
    · cases h
    · cases h
      exact .str _
  · exact bounded_of_scalar h

/-! ### Arrays and objects -/

theorem mem_put {name : Text} {v : Value} {ms : List (Text × Value)} {m : Text × Value}
    (mem : m ∈ put name v ms) : m = (name, v) ∨ m ∈ ms := by
  induction ms with
  | nil => exact .inl (List.mem_singleton.mp mem)
  | cons first rest ih =>
    unfold put at mem
    split at mem
    · next same =>
      rw [same] at mem
      rcases List.mem_cons.mp mem with set | kept
      · exact .inl set
      · exact .inr (List.mem_cons_of_mem _ kept)
    · rcases List.mem_cons.mp mem with same | later
      · exact .inr (same ▸ List.mem_cons_self)
      · exact (ih later).imp_right (List.mem_cons_of_mem _)

/-- The members of an object are among those that the document lists. -/
theorem mem_of_mem_members {listed : List (Text × Value)} {m : Text × Value}
    (mem : m ∈ members listed) : m ∈ listed := by
  have folded (listed : List (Text × Value)) : ∀ before : List (Text × Value),
      m ∈ listed.foldl (fun ms m => put m.1 m.2 ms) before → m ∈ before ∨ m ∈ listed := by
    induction listed with
    | nil => exact fun _ h => .inl h
    | cons next rest ih =>
      intro before h
      rcases ih _ h with earlier | later
      · rcases mem_put earlier with same | kept
        · exact .inr (same ▸ List.mem_cons_self)
        · exact .inl kept
      · exact .inr (List.mem_cons_of_mem _ later)
  rcases folded listed [] mem with none | some
  · cases none
  · exact some

theorem mem_of_series {α : Type} {R : Text → α → Text → Prop} {close : Nat} {s rest : Text}
    {as : List α} (h : Series R close s as rest) {a : α} (mem : a ∈ as) : ∃ t u, R t a u := by
  induction h with
  | last first => exact ⟨_, _, List.mem_singleton.mp mem ▸ first⟩
  | more first _ _ ih =>
    rcases List.mem_cons.mp mem with rfl | later
    · exact ⟨_, _, first⟩
    · exact ih later

theorem bounded_of_nest {Q : Text → Value → Text → Prop}
    (items : ∀ s v rest, Q s v rest → v.Bounded) {s rest : Text} {v : Value}
    (h : Nest Q s v rest) : v.Bounded := by
  cases h with
  | emptyArray => exact .arr fun _ mem => by cases mem
  | emptyObject => exact .obj fun _ mem => by cases mem
  | array elements =>
    refine .arr fun v mem => ?_
    obtain ⟨t, u, read⟩ := mem_of_series elements mem
    exact items t v u read
  | object elements =>
    refine .obj fun m mem => ?_
    obtain ⟨t, u, w, _, read⟩ := mem_of_series elements (mem_of_mem_members mem)
    exact items w m.2 u read

theorem bounded_of_front {levels : Nat} {s rest : Text} {v : Value} (h : Front levels s v rest) :
    v.Bounded := by
  induction levels generalizing s v rest with
  | zero => exact bounded_of_leaf h.2
  | succ levels ih =>
    rcases h with leaf | nest
    · exact bounded_of_leaf leaf.2
    · exact bounded_of_nest (fun _ _ _ => ih) nest

theorem bounded_of_read [Platform] {s : Text} {v : Value} (h : read s = .ok v) : v.Bounded := by
  obtain ⟨_, _, front, _⟩ := read_eq_ok_iff.mp h
  exact bounded_of_front front

end CheckReport.Json

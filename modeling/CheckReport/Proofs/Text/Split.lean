import CheckReport.Proofs.Text.Numeral

/-!
# Splitting

A separator splits what is before it from what is after it, so texts that are joined by it split as
each of them does. The pieces of a text, one more than it has separators, join to the text.
-/

namespace CheckReport.Text

theorem split_of_not_mem {sep : Nat} {s : Text} (free : sep ∉ s) : split sep s = [s] := by
  induction s with
  | nil => rfl
  | cons c s ih =>
    rw [List.mem_cons, not_or] at free
    rw [split, if_neg (Ne.symm free.1), ih free.2]

/-- A separator splits what is before it from what is after it. -/
theorem split_append (sep : Nat) (s t : Text) :
    split sep (s ++ sep :: t) = split sep s ++ split sep t := by
  induction s with
  | nil => simp [split]
  | cons c s ih =>
    rw [List.cons_append, split, split, ih]
    split
    · rfl
    · cases found : split sep s with
      | nil => exact absurd found (split_ne_nil sep s)
      | cons piece pieces => rfl

theorem split_append_cons {sep : Nat} {s : Text} (free : sep ∉ s) (t : Text) :
    split sep (s ++ sep :: t) = s :: split sep t := by
  rw [split_append, split_of_not_mem free, List.singleton_append]

/-- Where a text follows another, the last piece of one goes on as the first piece of the other. -/
theorem split_append_pieces {sep : Nat} {s t last piece : Text} {front pieces : List Text}
    (own : split sep s = front ++ [last]) (found : split sep t = piece :: pieces) :
    split sep (s ++ t) = front ++ (last ++ piece) :: pieces := by
  induction s generalizing front last with
  | nil =>
    cases front with
    | nil =>
      obtain rfl := (List.cons.inj own).1
      exact found
    | cons first front => exact absurd (List.cons.inj own).2.symm (List.concat_ne_nil last front)
  | cons c s ih =>
    obtain ⟨first, later, apart⟩ := List.exists_cons_of_ne_nil (split_ne_nil sep s)
    rw [List.cons_append, split]
    rw [split] at own
    split
    · next same =>
      rw [if_pos same] at own
      cases front with
      | nil => exact absurd (List.cons.inj own).2 (split_ne_nil sep s)
      | cons _ front =>
        obtain ⟨rfl, rest⟩ := List.cons.inj own
        rw [ih rest, List.cons_append]
    · next other =>
      rw [if_neg other, apart] at own
      cases front with
      | nil =>
        obtain ⟨rfl, rfl⟩ := List.cons.inj own
        have single : split sep s = [] ++ [first] := apart
        rw [ih single]
        rfl
      | cons _ front =>
        obtain ⟨rfl, rfl⟩ := List.cons.inj own
        have more : split sep s = (first :: front) ++ [last] := apart
        rw [ih more]
        rfl

/-- What comes before the first separator belongs to the first piece. -/
theorem split_append_of_not_mem {sep : Nat} {s t piece : Text} {pieces : List Text}
    (free : sep ∉ s) (found : split sep t = piece :: pieces) :
    split sep (s ++ t) = (s ++ piece) :: pieces := by
  have single : split sep s = [] ++ [s] := split_of_not_mem free
  exact split_append_pieces single found

/-- Pieces that are each followed by the separator are joined with an empty one at the end. -/
theorem join_concat_nil (sep : Text) (parts : List Text) :
    join sep (parts ++ [[]]) = parts.flatMap (· ++ sep) := by
  induction parts with
  | nil => rfl
  | cons s rest ih =>
    obtain ⟨next, later, found⟩ := List.exists_cons_of_ne_nil (List.concat_ne_nil [] rest)
    rw [List.cons_append, List.flatMap_cons, ← ih, found, join]

/-- Texts that are joined by a separator split as each of them does. -/
theorem split_join_eq_flatMap {sep : Nat} {parts : List Text} (nonempty : parts ≠ []) :
    split sep (join [sep] parts) = parts.flatMap (split sep) := by
  fun_induction join [sep] parts with
  | case1 => exact absurd rfl nonempty
  | case2 s => rw [List.flatMap_singleton]
  | case3 s t rest ih =>
    rw [List.append_assoc, List.singleton_append, split_append, ih (List.cons_ne_nil t rest)]
    rfl

theorem split_join {sep : Nat} {parts : List Text} (nonempty : parts ≠ [])
    (free : ∀ part ∈ parts, sep ∉ part) : split sep (join [sep] parts) = parts := by
  have whole : parts.map (split sep) = parts.map fun part => [part] :=
    List.map_congr_left fun part mem => split_of_not_mem (free part mem)
  rw [split_join_eq_flatMap nonempty, List.flatMap_def, whole, ← List.flatMap_def,
    List.flatMap_singleton']

theorem length_split (sep : Nat) (s : Text) : (split sep s).length = 1 + s.count sep := by
  fun_induction split sep s with
  | case1 => rfl
  | case2 s ih => rw [List.length_cons, ih, List.count_cons_self, Nat.add_assoc]
  | case3 c s _ empty => exact absurd empty (split_ne_nil sep s)
  | case4 c s other piece pieces found ih =>
    rw [found] at ih
    rw [List.count_cons_of_ne other]
    exact ih

theorem not_mem_of_mem_split {sep : Nat} {s piece : Text} (mem : piece ∈ split sep s) :
    sep ∉ piece := by
  fun_induction split sep s generalizing piece with
  | case1 =>
    rw [List.mem_singleton.mp mem]
    exact List.not_mem_nil
  | case2 s ih =>
    rcases List.mem_cons.mp mem with rfl | later
    · exact List.not_mem_nil
    · exact ih later
  | case3 c s _ empty => exact absurd empty (split_ne_nil sep s)
  | case4 c s other first pieces found ih =>
    rw [found] at ih
    rcases List.mem_cons.mp mem with rfl | later
    · rw [List.mem_cons, not_or]
      exact ⟨Ne.symm other, ih List.mem_cons_self⟩
    · exact ih (List.mem_cons_of_mem first later)

theorem join_append_cons (sep s t : Text) (rest : List Text) :
    join sep ((s ++ t) :: rest) = s ++ join sep (t :: rest) := by
  cases rest with
  | nil => rfl
  | cons next rest => simp [join]

/-- The pieces of a text join to the text. -/
theorem join_split (sep : Nat) (s : Text) : join [sep] (split sep s) = s := by
  fun_induction split sep s with
  | case1 => rfl
  | case2 s ih =>
    obtain ⟨piece, pieces, found⟩ := List.exists_cons_of_ne_nil (split_ne_nil sep s)
    rw [found] at ih ⊢
    rw [join, ih]
    rfl
  | case3 c s _ empty => exact absurd empty (split_ne_nil sep s)
  | case4 c s other piece pieces found ih =>
    rw [found] at ih
    have front : join [sep] ((c :: piece) :: pieces) = c :: join [sep] (piece :: pieces) :=
      join_append_cons [sep] [c] piece pieces
    rw [front, ih]

theorem not_mem_ofNat {c : Nat} (other : isDigit c = false) (n : Nat) : c ∉ ofNat n := by
  intro mem
  rw [isDigit_of_mem_ofNat mem] at other
  cases other

/-- A numeral is read as the number that it is made from. -/
theorem number?_ofNat (n : Nat) : number? (ofNat n) = some n := by
  have digits : (ofNat n).all isDigit = true :=
    List.all_eq_true.mpr fun _ mem => isDigit_of_mem_ofNat mem
  rw [number?, if_pos ⟨ofNat_ne_nil n, digits⟩, digitsValue_ofNat]

end CheckReport.Text

import CheckReport.Text.Shell

/-!
# Command lines are read back

A shell reads words that are quoted and joined as the same words (`splitWords_joinWords`). What stands
for a word is read up to its end whatever follows it (`splitFrom_quote`).
-/

namespace CheckReport.Text.Shell

variable {word read rest : Text} {c : Nat}

/-! ### Characters -/

theorem ne_of_isSafe {mark : Nat} (special : isSafe mark = false) (safe : isSafe c = true) :
    c ≠ mark := by
  rintro rfl
  rw [special] at safe
  cases safe

theorem not_isSeparator_of_isSafe (safe : isSafe c = true) : isSeparator c = false := by
  simp only [isSeparator, Bool.or_eq_false_iff, beq_eq_false_iff_ne, ne_eq]
  exact ⟨⟨⟨ne_of_isSafe rfl safe, ne_of_isSafe rfl safe⟩, ne_of_isSafe rfl safe⟩,
    ne_of_isSafe rfl safe⟩

theorem bareStep_of_isSafe (safe : isSafe c = true) (read : Text) :
    bareStep read c = .bare (c :: read) := by
  rw [bareStep, if_neg (ne_of_isSafe rfl safe), if_neg (ne_of_isSafe rfl safe),
    if_neg (ne_of_isSafe rfl safe)]

/-! ### Words -/

theorem splitFrom_bare_of_isSafe (safe : ∀ c ∈ word, isSafe c = true) :
    splitFrom (.bare read) (word ++ rest) = splitFrom (.bare (word.reverse ++ read)) rest := by
  induction word generalizing read with
  | nil => rfl
  | cons c word ih =>
    obtain ⟨first, later⟩ := List.forall_mem_cons.mp safe
    rw [List.cons_append, splitFrom, not_isSeparator_of_isSafe first, bareStep_of_isSafe first]
    simp only [Bool.false_eq_true, if_false]
    rw [ih later, List.reverse_cons, List.append_assoc, List.singleton_append]

theorem splitFrom_single_cons (other : c ≠ quoteMark) :
    splitFrom (.single read) (c :: rest) = splitFrom (.single (c :: read)) rest := by
  rw [splitFrom, if_neg other]

theorem splitFrom_single_quoteMark :
    splitFrom (.single read) (quoteMark :: rest) = splitFrom (.bare read) rest := by
  rw [splitFrom, if_pos rfl]

-- The five characters for a quote close the single quotes, quote it doubly, and open them again.
theorem splitFrom_single_escaped :
    splitFrom (.single read)
        (quoteMark :: doubleQuote :: quoteMark :: doubleQuote :: quoteMark :: rest) =
      splitFrom (.single (quoteMark :: read)) rest := by
  rw [splitFrom_single_quoteMark]
  rfl

/-- Between single quotes, what stands for a word is read as the word. -/
theorem splitFrom_single_escape (word read rest : Text) :
    splitFrom (.single read) (escape word ++ quoteMark :: rest) =
      splitFrom (.bare (word.reverse ++ read)) rest := by
  induction word generalizing read with
  | nil => exact splitFrom_single_quoteMark
  | cons c word ih =>
    rw [escape, List.reverse_cons, List.append_assoc, List.singleton_append]
    split
    · next same =>
      subst same
      simp only [List.cons_append]
      rw [splitFrom_single_escaped, ih]
    · next other => rw [List.cons_append, splitFrom_single_cons other, ih]

theorem splitFrom_between_cons (starts : isSeparator c = false) :
    splitFrom .between (c :: rest) = splitFrom (bareStep [] c) rest := by
  rw [splitFrom, starts]
  rfl

/-- What stands for a word starts one, and is read as it up to its end. -/
theorem splitFrom_quote (word rest : Text) :
    splitFrom .between (quote word ++ rest) = splitFrom (.bare word.reverse) rest := by
  unfold quote
  split
  · next plain =>
    obtain ⟨nonempty, safe⟩ := plain
    obtain ⟨c, later, rfl⟩ := List.exists_cons_of_ne_nil nonempty
    obtain ⟨first, safe⟩ := List.forall_mem_cons.mp (List.all_eq_true.mp safe)
    rw [List.cons_append, splitFrom_between_cons (not_isSeparator_of_isSafe first),
      bareStep_of_isSafe first, splitFrom_bare_of_isSafe safe, List.reverse_cons]
  · have opened : bareStep [] quoteMark = .single [] := rfl
    simp only [List.cons_append, List.append_assoc, List.nil_append]
    rw [splitFrom_between_cons rfl, opened, splitFrom_single_escape, List.append_nil]

/-! ### Command lines -/

theorem splitFrom_bare_space (word rest : Text) :
    splitFrom (.bare word.reverse) (space :: rest) = finish word.reverse (splitFrom .between rest) := by
  rfl

/-- A shell reads words that are quoted and joined as the same words. -/
theorem splitWords_joinWords (words : List Text) : splitWords (joinWords words) = some words := by
  unfold splitWords joinWords
  induction words with
  | nil => rfl
  | cons word words ih =>
    cases words with
    | nil =>
      have alone := splitFrom_quote word []
      rw [List.append_nil] at alone
      rw [List.map_singleton, join, alone, splitFrom, List.reverse_reverse]
    | cons next words =>
      rw [List.map_cons, List.map_cons, join, ← List.map_cons, List.append_assoc,
        List.singleton_append, splitFrom_quote, splitFrom_bare_space, ih, finish, Option.map_some,
        List.reverse_reverse]

example : joinWords [text "it's", []] = text "'it'\"'\"'s' ''" := by decide

theorem joinWords_inj {words other : List Text} : joinWords words = joinWords other ↔ words = other := by
  constructor
  · intro same
    have read := congrArg splitWords same
    rw [splitWords_joinWords, splitWords_joinWords] at read
    exact Option.some.inj read
  · exact congrArg joinWords

end CheckReport.Text.Shell

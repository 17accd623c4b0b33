import Mathlib.Data.List.DropRight
import CheckReport.Text.Basic

/-!
# Trimmed texts

What it means that a text is another one without the blanks at its ends, and that `trim` gives it.
-/

namespace CheckReport.Text

/-- A text neither starts nor ends with a blank. -/
structure Tight (blank : Nat → Bool) (t : Text) : Prop where
  first : ∀ c ∈ t.head?, blank c = false
  last : ∀ c ∈ t.getLast?, blank c = false

structure Trimmed (blank : Nat → Bool) (s t : Text) : Prop where
  tight : Tight blank t
  cut : ∃ before after, s = before ++ t ++ after ∧
    (∀ c ∈ before, blank c = true) ∧ (∀ c ∈ after, blank c = true)

variable {blank : Nat → Bool} {s t note : Text}

theorem not_blank_of_head?_dropWhile {c : Nat} (first : c ∈ (s.dropWhile blank).head?) :
    blank c = false := by
  have kept := List.head?_dropWhile_not blank s
  rw [Option.mem_def.mp first] at kept
  simpa using kept

theorem trim_append_rtakeWhile :
    trim blank s ++ (s.dropWhile blank).rtakeWhile blank = s.dropWhile blank :=
  List.rdropWhile_append_rtakeWhile

theorem trimmed_trim (blank : Nat → Bool) (s : Text) : Trimmed blank s (trim blank s) where
  tight := by
    constructor
    · intro c first
      apply not_blank_of_head?_dropWhile (s := s)
      rw [← trim_append_rtakeWhile, List.head?_append, Option.mem_def.mp first]
      rfl
    · intro c last
      rw [trim, List.getLast?_reverse] at last
      exact not_blank_of_head?_dropWhile last
  cut := by
    refine ⟨s.takeWhile blank, (s.dropWhile blank).rtakeWhile blank, ?_, ?_, ?_⟩
    · rw [List.append_assoc, trim_append_rtakeWhile, List.takeWhile_append_dropWhile]
    · exact fun c mem => List.mem_takeWhile_imp mem
    · exact fun c mem => List.mem_rtakeWhile_imp mem

/-- Nothing is trimmed from a tight text. -/
theorem Tight.trim_eq (tight : Tight blank s) : trim blank s = s := by
  have front : s.dropWhile blank = s := by
    cases s with
    | nil => rfl
    | cons c s => exact List.dropWhile_cons_of_neg (by simp [tight.first c rfl])
  have back : s.rdropWhile blank = s := by
    rw [List.rdropWhile_eq_self_iff]
    intro nonempty
    simp [tight.last _ (List.getLast?_eq_some_getLast nonempty)]
  calc trim blank s = (s.dropWhile blank).rdropWhile blank := rfl
    _ = s := by rw [front, back]

/-- A text that ends in a tight note ends in it when it is trimmed, too. -/
theorem Trimmed.suffix (trimmed : Trimmed blank (s ++ note) t) (tight : Tight blank note) :
    note <:+ t := by
  obtain ⟨before, after, split, front, back⟩ := trimmed.cut
  -- nothing is cut off after the note, since it does not end with a blank
  have kept : note = [] ∨ after = [] := by
    by_contra neither
    obtain ⟨someNote, someAfter⟩ := not_or.mp neither
    have same : note.getLast? = after.getLast? := by
      have ends := congrArg List.getLast? split
      rwa [List.getLast?_append_of_ne_nil _ someNote,
        List.getLast?_append_of_ne_nil _ someAfter] at ends
    have blankEnd := back _ (List.getLast_mem someAfter)
    rw [tight.last _ (same.trans (List.getLast?_eq_some_getLast someAfter))] at blankEnd
    cases blankEnd
  rcases kept with rfl | rfl
  · exact List.nil_suffix
  · rw [List.append_nil, List.append_eq_append_iff] at split
    rcases split with ⟨middle, rfl, same⟩ | ⟨middle, -, rfl⟩
    · -- of what is cut off before, nothing is of the note, since it does not start with a blank
      cases middle with
      | nil => exact ⟨[], same⟩
      | cons c middle =>
        have blankStart := front c (by simp)
        rw [tight.first c (by simp [same])] at blankStart
        cases blankStart
    · exact List.suffix_append _ _

end CheckReport.Text

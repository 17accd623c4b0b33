import CheckReport.Text.Width.Table

/-!
# Display width

`cells` is the number of terminal cells that a text takes. A joiner hides the character after it,
and the emoji selector widens the character measured last.
-/

namespace CheckReport.Text

def cell (c : Nat) : Nat :=
  if c < 0x20 then 0
  else if c < 0x7F then 1
  else if c < 0xA0 then 0
  else if c < 0x300 then 1
  else if Width.zero.holds c then 0
  else if Width.wide.holds c then 2
  else 1

def zeroWidthJoiner : Nat := 0x200D

def emojiSelector : Nat := 0xFE0F

/-- The cells of a text with joiners and selectors, after `last` was the character measured last. -/
def joinedCells : Option Nat → Text → Nat
  | _, [] => 0
  | last, c :: s =>
    if c = zeroWidthJoiner then
      match s with
      | [] => 0
      | _ :: s => joinedCells last s
    else if c = emojiSelector then
      (if last.any Width.widened.holds then 1 else 0) + joinedCells none s
    else if cell c = 0 then joinedCells last s
    else cell c + joinedCells (some c) s

def cells (s : Text) : Nat :=
  if s.contains zeroWidthJoiner || s.contains emojiSelector then joinedCells none s
  else s.foldr (fun c n => cell c + n) 0

theorem cell_of_printable_ascii {c : Nat} (h : 0x20 ≤ c) (h' : c < 0x7F) : cell c = 1 := by
  simp [cell, Nat.not_lt.2 h, h']

/-- A text of printable ASCII takes one cell for each character. -/
theorem cells_eq_length {s : Text} (h : ∀ c ∈ s, 0x20 ≤ c ∧ c < 0x7F) : cells s = s.length := by
  have hj : s.contains zeroWidthJoiner = false := by
    simp only [List.contains_eq_mem, decide_eq_false_iff_not]
    intro hm
    have := (h _ hm).2
    simp [zeroWidthJoiner] at this
  have hv : s.contains emojiSelector = false := by
    simp only [List.contains_eq_mem, decide_eq_false_iff_not]
    intro hm
    have := (h _ hm).2
    simp [emojiSelector] at this
  rw [cells, hj, hv]
  simp only [Bool.or_self, Bool.false_eq_true, if_false]
  clear hj hv
  induction s with
  | nil => rfl
  | cons c s ih =>
    have hc := h c (by simp)
    rw [List.foldr_cons, cell_of_printable_ascii hc.1 hc.2,
      ih fun d hd => h d (by simp [hd]), List.length_cons, Nat.add_comm]

end CheckReport.Text

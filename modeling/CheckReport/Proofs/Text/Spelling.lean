import CheckReport.Proofs.Text.StandsFor
import CheckReport.Text.Percent

/-!
# One layer of escapes

A text that spells bytes is unescaped to the text that stands for them, whichever of them are escaped
(`standsFor_decode`). It is unescaped run by run, but a run of ASCII ends where a character starts, so
none is cut.
-/

/-! ### Bytes of ASCII text -/

namespace CheckReport.Text.Percent

theorem isAscii_of_hexValue? {c n : Nat} (h : hexValue? c = some n) : isAscii c = true := by
  unfold hexValue? isDigit at h
  simp only [isAscii, decide_eq_true_eq]
  split at h
  · next digit =>
    simp only [Bool.and_eq_true, decide_eq_true_eq] at digit
    omega
  · split at h
    · omega
    · split at h
      · omega
      · cases h

theorem bytes_cons_of_ne {c : Nat} (h : c ≠ percent) (s : Text) : bytes (c :: s) = c :: bytes s := by
  rw [bytes.eq_def]
  simp [h]

theorem bytes_escape {h l a b : Nat} (high : hexValue? h = some a) (low : hexValue? l = some b)
    (s : Text) : bytes (percent :: h :: l :: s) = (16 * a + b) :: bytes s := by
  rw [bytes, if_pos rfl]
  simp [high, low]

end CheckReport.Text.Percent

/-! ### Spellings -/

namespace CheckReport.Text

open Percent (isAscii percent bytes decode Spells)
open Utf8 (Bytes StandsFor StartsFresh encodeChar)

theorem lt_of_hexValue? {c n : Nat} (h : hexValue? c = some n) : n < 0x10 := by
  unfold hexValue? isDigit at h
  repeat' split at h
  all_goals simp_all <;> omega

namespace Percent.Spells

theorem bytes_lt {e : Text} {s : Bytes} (spells : Spells e s) : ∀ b ∈ s, b < 0x100 := by
  induction spells with
  | nil => exact List.forall_mem_nil _
  | escaped high low _ ih =>
    have highest := lt_of_hexValue? high
    have lowest := lt_of_hexValue? low
    exact List.forall_mem_cons.mpr ⟨by omega, ih⟩
  | ascii small _ _ ih =>
    have small := of_decide_eq_true small
    exact List.forall_mem_cons.mpr ⟨by omega, ih⟩
  | char scalar _ _ ih => exact List.forall_mem_append.mpr ⟨Utf8.encodeChar_lt scalar, ih⟩

/-- The ASCII in front spells bytes of its own, and what follows it starts a character. -/
theorem run {e : Text} {s : Bytes} (spells : Spells e s) :
    ∃ rest, s = bytes (e.takeWhile isAscii) ++ rest ∧ Spells (e.dropWhile isAscii) rest ∧
      StartsFresh rest := by
  induction spells with
  | nil => exact ⟨[], by rw [List.takeWhile_nil, bytes]; rfl, .nil, Utf8.startsFresh_nil⟩
  | escaped high low _ ih =>
    obtain ⟨rest, rfl, later, fresh⟩ := ih
    have first := Percent.isAscii_of_hexValue? high
    have second := Percent.isAscii_of_hexValue? low
    refine ⟨rest, ?_, ?_, fresh⟩
    · rw [List.takeWhile_cons_of_pos rfl, List.takeWhile_cons_of_pos first,
        List.takeWhile_cons_of_pos second, Percent.bytes_escape high low, List.cons_append]
    · rwa [List.dropWhile_cons_of_pos rfl, List.dropWhile_cons_of_pos first,
        List.dropWhile_cons_of_pos second]
  | ascii small bare _ ih =>
    obtain ⟨rest, rfl, later, fresh⟩ := ih
    refine ⟨rest, ?_, ?_, fresh⟩
    · rw [List.takeWhile_cons_of_pos small, Percent.bytes_cons_of_ne bare, List.cons_append]
    · rwa [List.dropWhile_cons_of_pos small]
  | @char c e s scalar large tail _ =>
    have stops : ¬isAscii c = true := by rw [large]; exact Bool.false_ne_true
    refine ⟨encodeChar c ++ s, ?_, ?_, Utf8.startsFresh_encodeChar c s⟩
    · rw [List.takeWhile_cons_of_neg stops, bytes, List.nil_append]
    · rw [List.dropWhile_cons_of_neg stops]
      exact .char scalar large tail

theorem eq_nil {s : Bytes} (spells : Spells [] s) : s = [] := by
  cases spells with
  | nil => rfl

/-- A character outside ASCII spells its own UTF-8. -/
theorem of_not_ascii {c : Nat} {e : Text} {s : Bytes} (spells : Spells (c :: e) s)
    (large : isAscii c = false) :
    ∃ rest, s = encodeChar c ++ rest ∧ IsScalar c ∧ Spells e rest := by
  cases spells with
  | escaped => cases large
  | ascii small => rw [large] at small; cases small
  | char scalar _ tail => exact ⟨_, rfl, scalar, tail⟩

end Percent.Spells

/-- What spells some bytes is unescaped to the text that stands for them. -/
theorem Percent.standsFor_decode {e : Text} {s : Bytes} (spells : Spells e s) :
    StandsFor (decode e) s := by
  fun_induction decode e generalizing s with
  | case1 =>
    rw [spells.eq_nil]
    exact .nil
  | case2 c e ascii ih =>
    obtain ⟨rest, rfl, later, fresh⟩ := spells.run
    rw [List.takeWhile_cons_of_pos ascii]
    rw [List.dropWhile_cons_of_pos ascii] at later
    exact (Utf8.standsFor_decodeEscaping _).append (ih later) fresh
  | case3 c e other ih =>
    obtain ⟨rest, rfl, scalar, later⟩ := spells.of_not_ascii (Bool.eq_false_iff.mpr other)
    exact .char scalar (ih later)

end CheckReport.Text

import CheckReport.Json.Printer
import CheckReport.Proofs.Text.Characters

/-!
# Printed values are ASCII

A value is printed with printable ASCII alone, whatever its texts hold (`ascii_print`).
-/

namespace CheckReport

variable {P : Nat → Prop}

namespace Text

theorem lt_of_mem_hex {width n c : Nat} (mem : c ∈ hex width n) : 0x30 ≤ c ∧ c ≤ 0x66 := by
  induction width generalizing n with
  | zero => cases mem
  | succ width ih =>
    rcases List.mem_append.mp mem with earlier | last
    · exact ih earlier
    · rw [List.mem_singleton.mp last]
      unfold hexDigit
      split <;> omega

theorem Common.hex (common : Common P) (width n : Nat) : ∀ c ∈ Text.hex width n, P c := by
  intro c mem
  have bounds := lt_of_mem_hex mem
  exact common c (by omega)

theorem Common.zeros (common : Common P) (n : Nat) : ∀ c ∈ List.replicate n 0x30, P c := by
  intro c mem
  rw [List.eq_of_mem_replicate mem]
  exact common 0x30 (by decide)

end Text

open Text (Common)

namespace Layout

section

variable {s : Text}

theorem forall_mem_positional (common : Common P) (holds : ∀ c ∈ s, P c) (point : Int) :
    ∀ c ∈ positional s point, P c := by
  have start : ∀ c ∈ text "0.", P c := common.literal (by decide)
  have close : ∀ c ∈ text ".0", P c := common.literal (by decide)
  have middle : ∀ c ∈ text ".", P c := common.literal (by decide)
  unfold positional
  split
  · simp only [List.forall_mem_append]
    exact ⟨⟨start, common.zeros _⟩, holds⟩
  · split
    · simp only [List.forall_mem_append]
      exact ⟨⟨holds, common.zeros _⟩, close⟩
    · simp only [List.forall_mem_append]
      exact ⟨⟨fun c mem => holds c (List.mem_of_mem_take mem), middle⟩,
        fun c mem => holds c (List.mem_of_mem_drop mem)⟩

theorem forall_mem_scientific (common : Common P) (layout : Layout) (holds : ∀ c ∈ s, P c)
    (exponent : Int) : ∀ c ∈ layout.scientific s exponent, P c := by
  have places : ∀ c ∈ if s.length ≤ 1 then [] else text "." ++ s.drop 1, P c := by
    split
    · exact fun _ mem => by cases mem
    · exact List.forall_mem_append.mpr ⟨common.literal (by decide),
        fun c mem => holds c (List.mem_of_mem_drop mem)⟩
  have sign : ∀ c ∈ if exponent < 0 then text "-" else text "+", P c := by
    split
    · exact common.literal (by decide)
    · exact common.literal (by decide)
  have width : ∀ c ∈ padded layout.exponentDigits (Text.ofNat exponent.natAbs), P c :=
    List.forall_mem_append.mpr ⟨common.zeros _, common.ofNat _⟩
  have letter : ∀ c ∈ text "e", P c := common.literal (by decide)
  unfold scientific
  simp only [List.forall_mem_append]
  exact ⟨⟨⟨⟨fun c mem => holds c (List.mem_of_mem_take mem), places⟩, letter⟩, sign⟩, width⟩

theorem forall_mem_render (common : Common P) (layout : Layout) (x : Binary64) :
    ∀ c ∈ layout.render x, P c := by
  have sign (negative : Bool) : ∀ c ∈ if negative then text "-" else [], P c := by
    cases negative with
    | true => exact common.literal (by decide)
    | false => exact fun _ mem => by cases mem
  cases x with
  | nan =>
    have word : ∀ c ∈ text "nan", P c := common.literal (by decide)
    exact word
  | infinite negative =>
    exact List.forall_mem_append.mpr ⟨sign negative, common.literal (by decide)⟩
  | finite negative m e =>
    refine List.forall_mem_append.mpr ⟨sign negative, ?_⟩
    split
    · exact common.literal (by decide)
    · unfold decimal
      dsimp only
      split
      · exact forall_mem_positional common (common.ofNat _) _
      · exact forall_mem_scientific common layout (common.ofNat _) _

end

end Layout

namespace Json

theorem common_unitEscape (common : Common P) (n : Nat) : ∀ c ∈ unitEscape n, P c :=
  List.forall_mem_append.mpr ⟨common.literal (by decide), common.hex 4 n⟩

/-- A character is printed with a letter after a backslash, as it is, or by its units. -/
theorem printChar_cases (c : Nat) :
    (∃ e, escaped? e = some c ∧ e ≠ 0x75 ∧ (0x20 ≤ e ∧ e < 0x7F) ∧ printChar c = [0x5C, e]) ∨
      (c ≠ 0x22 ∧ c ≠ 0x5C ∧ (0x20 ≤ c ∧ c < 0x7F) ∧ printChar c = [c]) ∨
      printChar c = unitEscapes c := by
  have table : ∀ c ∈ [0x22, 0x5C, 0x0A, 0x0D, 0x09, 0x0C, 0x08],
      ∃ e ∈ [0x22, 0x5C, 0x6E, 0x72, 0x74, 0x66, 0x62],
        escaped? e = some c ∧ e ≠ 0x75 ∧ (0x20 ≤ e ∧ e < 0x7F) ∧ printChar c = [0x5C, e] := by
    decide
  by_cases short : c ∈ [0x22, 0x5C, 0x0A, 0x0D, 0x09, 0x0C, 0x08]
  · obtain ⟨e, _, given⟩ := table c short
    exact .inl ⟨e, given⟩
  · simp only [List.mem_cons, List.not_mem_nil, or_false, not_or] at short
    obtain ⟨quote, backslash, lineFeed, carriageReturn, tab, formFeed, backspace⟩ := short
    unfold printChar
    rw [if_neg quote, if_neg backslash, if_neg lineFeed, if_neg carriageReturn, if_neg tab,
      if_neg formFeed, if_neg backspace]
    split
    · next plain => exact .inr (.inl ⟨quote, backslash, plain, rfl⟩)
    · exact .inr (.inr rfl)

theorem common_printChar (common : Common P) (c : Nat) : ∀ d ∈ printChar c, P d := by
  rcases printChar_cases c with ⟨e, _, _, letter, same⟩ | ⟨_, _, plain, same⟩ | same
  · rw [same, List.forall_mem_cons, List.forall_mem_singleton]
    exact ⟨common 0x5C (by decide), common e letter⟩
  · rw [same, List.forall_mem_singleton]
    exact common c plain
  · rw [same]
    unfold unitEscapes
    split
    · exact common_unitEscape common c
    · exact List.forall_mem_append.mpr ⟨common_unitEscape common _, common_unitEscape common _⟩

theorem common_printText (common : Common P) (s : Text) : ∀ c ∈ printText s, P c := by
  have body : ∀ c ∈ s.flatMap printChar, P c := by
    intro c mem
    obtain ⟨d, _, inside⟩ := List.mem_flatMap.mp mem
    exact common_printChar common d c inside
  have quote : ∀ c ∈ [0x22], P c := common.literal (by decide)
  exact List.forall_mem_cons.mpr ⟨common 0x22 (by decide), List.forall_mem_append.mpr ⟨body, quote⟩⟩

theorem common_printNumber (common : Common P) (x : Binary64) : ∀ c ∈ printNumber x, P c := by
  cases x with
  | nan =>
    have word : ∀ c ∈ text "NaN", P c := common.literal (by decide)
    exact word
  | infinite negative =>
    cases negative with
    | true => exact common.literal (by decide)
    | false => exact common.literal (by decide)
  | finite negative m e =>
    exact Layout.forall_mem_render common Binary64.layout (.finite negative m e)

namespace Value

mutual

theorem common_print (common : Common P) : ∀ v : Value, ∀ c ∈ v.print, P c
  | .null => common.literal (by decide)
  | .bool true => common.literal (by decide)
  | .bool false => common.literal (by decide)
  | .int n => common.ofInt n
  | .float x => common_printNumber common x
  | .str s => common_printText common s
  | .arr vs => by
    have items := (Text.forall_mem_join (common.literal (by decide) : ∀ c ∈ text ", ", P c)).mpr
      (common_printItems common vs)
    simp only [print, List.forall_mem_append]
    exact ⟨⟨common.literal (by decide), items⟩, common.literal (by decide)⟩
  | .obj ms => by
    have members := (Text.forall_mem_join (common.literal (by decide) : ∀ c ∈ text ", ", P c)).mpr
      (common_printMembers common ms)
    simp only [print, List.forall_mem_append]
    exact ⟨⟨common.literal (by decide), members⟩, common.literal (by decide)⟩

theorem common_printItems (common : Common P) : ∀ vs : List Value, ∀ s ∈ printItems vs, ∀ c ∈ s, P c
  | [] => fun _ mem => by cases mem
  | v :: vs => List.forall_mem_cons.mpr ⟨common_print common v, common_printItems common vs⟩

theorem common_printMembers (common : Common P) :
    ∀ ms : List (Text × Value), ∀ s ∈ printMembers ms, ∀ c ∈ s, P c
  | [] => fun _ mem => by cases mem
  | (name, v) :: ms => by
    have first : ∀ c ∈ printText name ++ text ": " ++ print v, P c := by
      simp only [List.forall_mem_append]
      exact ⟨⟨common_printText common name, common.literal (by decide)⟩, common_print common v⟩
    exact List.forall_mem_cons.mpr ⟨first, common_printMembers common ms⟩

end

theorem ascii_print (v : Value) : ∀ c ∈ v.print, 0x20 ≤ c ∧ c < 0x7F :=
  common_print (fun _ => id) v

end Value

end Json

end CheckReport

import CheckReport.Number.Shortest

/-!
# Shortest decimals are not zero

A number other than zero is never written as zero: no decimal of zero lies among the reals that round
to it (`digits_shortest_ne_zero`).
-/

namespace CheckReport.Decimal

theorem twoTo_pos (n : Nat) : 0 < twoTo n :=
  Nat.pow_pos (by decide)

theorem tenTo_pos (n : Nat) : 0 < tenTo n :=
  Nat.pow_pos (by decide)

theorem fiveTo_pos (n : Nat) : 0 < fiveTo n :=
  Nat.pow_pos (by decide)

theorem compareBinary_zero {b : Nat} (positive : 0 < b) (i j : Int) : compareBinary 0 i b j = .lt := by
  unfold compareBinary
  rw [Nat.zero_mul, Nat.zero_mul]
  exact Nat.compare_eq_lt.mpr
    (Nat.mul_pos (Nat.mul_pos positive (twoTo_pos _)) (tenTo_pos _))

theorem digits_ne_zero_of_readsBack {m : Nat} {e : Int} {d : Decimal} (other : m ≠ 0)
    (back : readsBack m e d = true) : d.digits ≠ 0 := by
  intro zero
  have below (b : Nat) (positive : 0 < b) : compareBinary d.digits d.exponent b (e - 2) = .lt := by
    rw [zero, compareBinary_zero positive]
  have positive :
      0 < if m == twoTo 52 && decide (Binary64.leastExponent < e) then 4 * m - 1 else 4 * m - 2 := by
    split
    · omega
    · omega
  unfold readsBack at back
  dsimp only at back
  rw [below _ positive] at back
  simp at back

theorem digits_ne_zero_of_onGrid? {m : Nat} {e i : Int} {d : Decimal} (other : m ≠ 0)
    (found : onGrid? m e i = some d) : d.digits ≠ 0 := by
  have back : readsBack m e d = true := by
    unfold onGrid? at found
    dsimp only at found
    split at found
    · next low high =>
      split at found
      · cases found
        exact low
      · cases found
        exact high
      · split at found
        · cases found
          exact low
        · cases found
          exact high
    · next low _ =>
      cases found
      exact low
    · next high =>
      cases found
      exact high
    · cases found
  exact digits_ne_zero_of_readsBack other back

theorem digits_expanded_ne_zero {m : Nat} (e : Int) (other : m ≠ 0) : (expanded m e).digits ≠ 0 :=
  Nat.mul_ne_zero (Nat.mul_ne_zero other (Nat.ne_of_gt (twoTo_pos _)))
    (Nat.ne_of_gt (fiveTo_pos _))

theorem digits_stripped_ne_zero {d : Decimal} (places : Nat) (other : d.digits ≠ 0) :
    (stripped d places).digits ≠ 0 := by
  induction places generalizing d with
  | zero => exact other
  | succ places ih =>
    unfold stripped
    split
    · next even =>
      refine ih ?_
      dsimp only
      omega
    · exact other

theorem digits_shortest_ne_zero {m : Nat} (e : Int) (other : m ≠ 0) : (shortest m e).digits ≠ 0 := by
  unfold shortest
  refine digits_stripped_ne_zero 18 ?_
  cases found : (List.range 17).findSome? fun n => onGrid? m e (scale m e - (n + 1 : Nat)) with
  | none => exact digits_expanded_ne_zero e other
  | some d =>
    obtain ⟨_, _, grid⟩ := List.exists_of_findSome?_eq_some found
    exact digits_ne_zero_of_onGrid? other grid

end CheckReport.Decimal

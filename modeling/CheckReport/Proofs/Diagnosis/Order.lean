import CheckReport.Diagnosis.Order

/-!
# The one stable order

Sorting keeps the order of diagnostics with equal keys (`sameByKey_sort`), and there is one list in
order that does (`eq_of_sameByKey`). So lists that differ only in the order of diagnostics with
other keys are sorted alike (`sort_eq_of_sameByKey`), and sorting is the one stable sort for a strict
weak order (`sort_stable`).
-/

namespace CheckReport.Diagnostic

theorem key_eq_of_not_before {x y : Diagnostic} (hxy : (!before y x) = true)
    (hyx : (!before x y) = true) : x.key = y.key := by
  simp only [Bool.not_eq_true', ← Bool.not_eq_true, before_eq_true] at hxy hyx
  simp only [key, Prod.mk.injEq]
  omega

theorem not_before_of_key_eq {x y : Diagnostic} (same : x.key = y.key) : (!before y x) = true := by
  simp only [key, Prod.mk.injEq] at same
  simp only [Bool.not_eq_true', ← Bool.not_eq_true, before_eq_true]
  omega

namespace SameByKey

variable {xs ys zs : List Diagnostic}

theorem symm (same : SameByKey xs ys) : SameByKey ys xs :=
  fun k => (same k).symm

theorem trans (first : SameByKey xs ys) (second : SameByKey ys zs) : SameByKey xs zs :=
  fun k => (first k).trans (second k)

/-- Neighbours with different keys can change places. -/
theorem swap {x y : Diagnostic} (other : x.key ≠ y.key) (ds : List Diagnostic) :
    SameByKey (x :: y :: ds) (y :: x :: ds) := by
  intro k
  simp only [List.filter_cons, decide_eq_true_eq]
  by_cases first : x.key = k
  · have second : y.key ≠ k := fun same => other (first.trans same.symm)
    simp only [if_pos first, if_neg second]
  · simp only [if_neg first]

theorem mem_iff (same : SameByKey xs ys) {d : Diagnostic} : d ∈ xs ↔ d ∈ ys := by
  have keyed (ds : List Diagnostic) : d ∈ ds.filter (·.key = d.key) ↔ d ∈ ds := by
    simp [List.mem_filter]
  rw [← keyed xs, same d.key, keyed ys]

theorem nil_iff (same : SameByKey xs ys) : xs = [] ↔ ys = [] := by
  simp only [List.eq_nil_iff_forall_not_mem, same.mem_iff]

theorem tail {d : Diagnostic} (same : SameByKey (d :: xs) (d :: ys)) : SameByKey xs ys := by
  intro k
  have filtered := same k
  by_cases here : d.key = k
  · rw [List.filter_cons_of_pos (by simpa using here),
      List.filter_cons_of_pos (by simpa using here)] at filtered
    exact (List.cons.inj filtered).2
  · rwa [List.filter_cons_of_neg (by simpa using here),
      List.filter_cons_of_neg (by simpa using here)] at filtered

theorem head {x y : Diagnostic} (same : SameByKey (x :: xs) (y :: ys)) (key : x.key = y.key) :
    x = y := by
  have filtered := same x.key
  rw [List.filter_cons_of_pos (by simp), List.filter_cons_of_pos (by simpa using key.symm)] at filtered
  exact (List.cons.inj filtered).1

end SameByKey

/-- Sorting keeps the order of diagnostics with equal keys. -/
theorem sameByKey_sort (ds : List Diagnostic) : SameByKey (sort ds) ds := by
  intro k
  have alike : (ds.filter (·.key = k)).Pairwise fun x y => (!before y x) = true := by
    apply List.pairwise_of_forall_mem_list
    intro x hx y hy
    have keys := (of_decide_eq_true (List.mem_filter.mp hx).2).trans
      (of_decide_eq_true (List.mem_filter.mp hy).2).symm
    exact not_before_of_key_eq keys
  have kept : (ds.filter (·.key = k)).Sublist (sort ds) :=
    List.sublist_mergeSort not_before_trans not_before_total alike List.filter_sublist
  have within : (ds.filter (·.key = k)).Sublist ((sort ds).filter (·.key = k)) := by
    have filtered := kept.filter (·.key = k)
    rwa [List.filter_filter, funext fun d => Bool.and_self _] at filtered
  have lengths := ((sort_perm ds).filter (·.key = k)).length_eq
  exact (within.eq_of_length lengths.symm).symm

/-- Lists in order with the same diagnostics of each key, in the same order, are one list. -/
theorem eq_of_sameByKey {xs ys : List Diagnostic} (same : SameByKey xs ys)
    (hxs : xs.Pairwise fun x y => (!before y x) = true)
    (hys : ys.Pairwise fun x y => (!before y x) = true) : xs = ys := by
  induction xs generalizing ys with
  | nil => exact (same.nil_iff.mp rfl).symm
  | cons x xs ih =>
    cases ys with
    | nil => exact absurd (same.nil_iff.mpr rfl) (List.cons_ne_nil x xs)
    | cons y ys =>
      -- each of the first diagnostics is somewhere in the other list, so neither is before the other
      have least {d e : Diagnostic} {ds : List Diagnostic} (mem : e ∈ d :: ds)
          (sorted : (d :: ds).Pairwise fun x y => (!before y x) = true) : (!before e d) = true := by
        rcases List.mem_cons.mp mem with rfl | later
        · exact not_before_of_key_eq rfl
        · exact List.rel_of_pairwise_cons sorted later
      have first : x = y := same.head (key_eq_of_not_before
        (least (same.mem_iff.mpr List.mem_cons_self) hxs)
        (least (same.mem_iff.mp List.mem_cons_self) hys))
      subst first
      rw [ih same.tail (List.pairwise_cons.mp hxs).2 (List.pairwise_cons.mp hys).2]

theorem sort_eq_of_sameByKey {xs ys : List Diagnostic} (same : SameByKey xs ys) :
    sort xs = sort ys := by
  have sorted := (sameByKey_sort xs).trans (same.trans (sameByKey_sort ys).symm)
  exact eq_of_sameByKey sorted (pairwise_sort xs) (pairwise_sort ys)

/-! ### A strict weak order -/

theorem tied_iff_key {x y : Diagnostic} : Tied before x y ↔ x.key = y.key := by
  constructor
  · rintro ⟨hxy, hyx⟩
    exact key_eq_of_not_before (by rw [hyx]; rfl) (by rw [hxy]; rfl)
  · intro same
    have hxy := not_before_of_key_eq same
    have hyx := not_before_of_key_eq same.symm
    rw [Bool.not_eq_true'] at hxy hyx
    exact ⟨hyx, hxy⟩

theorem key_eq_iff {x y : Diagnostic} :
    x.key = y.key ↔ x.range.start = y.range.start ∧ x.severity = y.severity := by
  have positions : x.range.start = y.range.start ↔
      x.range.start.line = y.range.start.line ∧
        x.range.start.character = y.range.start.character := Iff.of_eq (Position.mk.injEq ..)
  simp only [key, Prod.mk.injEq, Severity.rank_inj, positions, and_assoc]

theorem before_iff_lex {x y : Diagnostic} :
    before x y = true ↔ Prod.Lex (· < ·) (Prod.Lex (· < ·) (· < ·)) x.key y.key := by
  rw [before_eq_true, key, key, Prod.lex_def, Prod.lex_def]

theorem ordersByKey_before : OrdersByKey before where
  irrefl := before_irrefl
  asymm x y hxy := by
    rw [before_eq_true] at hxy
    rw [← Bool.not_eq_true, before_eq_true]
    omega
  trans x y z hxy hyz := by
    rw [before_eq_true] at hxy hyz ⊢
    omega
  tied := by
    have same : Tied before = fun x y => x.key = y.key :=
      funext fun x => funext fun y => propext tied_iff_key
    rw [same]
    exact ⟨fun _ => rfl, Eq.symm, Eq.trans⟩
  tied_iff _ _ := tied_iff_key.trans key_eq_iff
  lexicographic _ _ := before_iff_lex

/-! ### The stable sort -/

theorem stablySorted_sort (ds : List Diagnostic) : StablySorted before ds (sort ds) where
  perm := sort_perm ds
  inOrder := (pairwise_sort ds).imp fun notBefore => by rwa [Bool.not_eq_true'] at notBefore
  stable := sameByKey_sort ds

theorem eq_sort_of_stablySorted {ds sorted : List Diagnostic}
    (stably : StablySorted before ds sorted) : sorted = sort ds := by
  have inOrder : sorted.Pairwise fun x y => (!before y x) = true :=
    stably.inOrder.imp fun notBefore => by rw [notBefore]; rfl
  exact eq_of_sameByKey (stably.stable.trans (sameByKey_sort ds).symm) inOrder (pairwise_sort ds)

/-- The comparison of diagnostics is a strict weak order by start and severity, and `sort` gives the
one list that is sorted stably for it, also if that is sorted again. -/
theorem sort_stable :
    OrdersByKey before ∧ (∀ ds sorted, sorted = sort ds ↔ StablySorted before ds sorted) ∧
      ∀ ds, sort (sort ds) = sort ds := by
  refine ⟨ordersByKey_before, fun ds sorted => ⟨?_, eq_sort_of_stablySorted⟩, fun ds => ?_⟩
  · rintro rfl
    exact stablySorted_sort ds
  · exact sort_of_pairwise (pairwise_sort ds)

end CheckReport.Diagnostic

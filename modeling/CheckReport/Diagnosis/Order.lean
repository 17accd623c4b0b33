import CheckReport.Diagnosis.Basic

/-!
# Order of diagnostics

Within a file diagnostics are ordered by start line, then start character, then severity. Main
statements: `sort` permutes its list, its result is in order, and what is already in order stays.
-/

namespace CheckReport

namespace Diagnostic

/-- What decides the order of diagnostics. -/
def key (d : Diagnostic) : Nat × Nat × Nat :=
  (d.range.start.line, d.range.start.character, d.severity.rank)

def before (x y : Diagnostic) : Bool :=
  x.range.start.line < y.range.start.line ||
    (x.range.start.line == y.range.start.line &&
      (x.range.start.character < y.range.start.character ||
        (x.range.start.character == y.range.start.character &&
          x.severity.rank < y.severity.rank)))

/-- Diagnostics in order. Those with equal keys keep their order. -/
def sort (ds : List Diagnostic) : List Diagnostic :=
  ds.mergeSort fun x y => !before y x

theorem before_eq_true {x y : Diagnostic} :
    before x y = true ↔
      x.range.start.line < y.range.start.line ∨
        x.range.start.line = y.range.start.line ∧
          (x.range.start.character < y.range.start.character ∨
            x.range.start.character = y.range.start.character ∧
              x.severity.rank < y.severity.rank) := by
  simp [before]

theorem before_irrefl (x : Diagnostic) : before x x = false := by
  simp [before]

theorem not_before_trans (x y z : Diagnostic) (hxy : (!before y x) = true)
    (hyz : (!before z y) = true) : (!before z x) = true := by
  simp only [Bool.not_eq_true', ← Bool.not_eq_true, before_eq_true] at *
  omega

theorem not_before_total (x y : Diagnostic) : (!before y x || !before x y) = true := by
  simp only [Bool.or_eq_true, Bool.not_eq_true', ← Bool.not_eq_true, before_eq_true]
  omega

theorem sort_perm (ds : List Diagnostic) : (sort ds).Perm ds :=
  List.mergeSort_perm ds _

theorem pairwise_sort (ds : List Diagnostic) :
    (sort ds).Pairwise fun x y => (!before y x) = true :=
  List.pairwise_mergeSort not_before_trans not_before_total ds

theorem sort_of_pairwise {ds : List Diagnostic}
    (h : ds.Pairwise fun x y => (!before y x) = true) : sort ds = ds :=
  List.mergeSort_of_pairwise h

end Diagnostic

/-!
### Rearrangements

Two diagnoses that list the same in another order: the files in any order, and the diagnostics of a
file so that those with equal keys keep theirs.
-/

/-- Two lists with the same diagnostics of each key, in the same order. -/
def Diagnostic.SameByKey (xs ys : List Diagnostic) : Prop :=
  ∀ k, xs.filter (·.key = k) = ys.filter (·.key = k)

namespace Diagnosis

/-- No URI is listed twice. -/
def Distinct (diagnosis : Diagnosis) : Prop :=
  (diagnosis.map Prod.fst).Nodup

/-- Two diagnoses with the same files in the same order, and the same diagnostics by key. -/
inductive SameByKey : Diagnosis → Diagnosis → Prop where
  | nil : SameByKey [] []
  | cons {uri : Text} {xs ys : List Diagnostic} {a b : Diagnosis}
      (first : Diagnostic.SameByKey xs ys) (rest : SameByKey a b) :
      SameByKey ((uri, xs) :: a) ((uri, ys) :: b)

/-- Two diagnoses that differ only in the order in which they list things. -/
def Rearranged (a b : Diagnosis) : Prop :=
  ∃ c, a.Perm c ∧ SameByKey c b

end Diagnosis

/-!
### Strict weak orders and stable sorting

What it means that a comparison orders diagnostics by start and severity alone, and that a list has
the diagnostics of another one sorted stably.
-/

namespace Diagnostic

/-- Neither of two diagnostics comes before the other. -/
def Tied (before : Diagnostic → Diagnostic → Bool) (x y : Diagnostic) : Prop :=
  before x y = false ∧ before y x = false

/-- A comparison is a strict weak order, and diagnostics are tied just if they start at one place with
one severity. Of others the one with the lexicographically lower key comes first. -/
structure OrdersByKey (before : Diagnostic → Diagnostic → Bool) : Prop where
  irrefl : ∀ x, before x x = false
  asymm : ∀ x y, before x y = true → before y x = false
  trans : ∀ x y z, before x y = true → before y z = true → before x z = true
  tied : Equivalence (Tied before)
  tied_iff : ∀ x y, Tied before x y ↔ x.range.start = y.range.start ∧ x.severity = y.severity
  lexicographic : ∀ x y, before x y = true ↔
    Prod.Lex (· < ·) (Prod.Lex (· < ·) (· < ·)) x.key y.key

/-- A list has the diagnostics of another one, none before an earlier one, and those with equal keys
in the same order as there. -/
structure StablySorted (before : Diagnostic → Diagnostic → Bool) (ds sorted : List Diagnostic) :
    Prop where
  perm : sorted.Perm ds
  inOrder : sorted.Pairwise fun earlier later => before later earlier = false
  stable : SameByKey sorted ds

end Diagnostic

end CheckReport

import CheckReport.Json.Value

/-!
# Members by name

Of the members that a document lists with one name the last counts (`member?_members`), and where no
name is listed twice they are just what is listed (`members_of_nodup`).
-/

namespace CheckReport.Json

open Value (member?)

variable {name : Text} {v : Value} {ms listed : List (Text × Value)}

theorem member?_cons (m : Text × Value) (ms : List (Text × Value)) :
    member? name (m :: ms) = if m.1 = name then some m.2 else member? name ms := by
  unfold member?
  by_cases same : m.1 = name
  · simp [same]
  · simp [same]

theorem member?_put (other : Text) (v : Value) (ms : List (Text × Value)) :
    member? name (put other v ms) = if other = name then some v else member? name ms := by
  induction ms with
  | nil => exact member?_cons (other, v) []
  | cons m rest ih =>
    unfold put
    split
    · next same =>
      rw [member?_cons, member?_cons, same]
      split <;> rfl
    · next differs =>
      rw [member?_cons, member?_cons, ih]
      by_cases here : m.1 = name
      · have apart : other ≠ name := fun same => differs (here.trans same.symm)
        rw [if_pos here, if_neg apart, if_pos here]
      · rw [if_neg here, if_neg here]

theorem member?_append (first later : List (Text × Value)) :
    member? name (first ++ later) = (member? name first).or (member? name later) := by
  unfold member?
  rw [List.find?_append]
  cases List.find? (fun m => m.1 = name) first <;> rfl

/-- What is put in later counts before what was there. -/
theorem member?_foldl_put (listed before : List (Text × Value)) :
    member? name (listed.foldl (fun ms m => put m.1 m.2 ms) before) =
      (member? name listed.reverse).or (member? name before) := by
  induction listed generalizing before with
  | nil => rfl
  | cons m rest ih =>
    rw [List.foldl_cons, ih, List.reverse_cons, member?_append, member?_put, member?_cons]
    cases member? name rest.reverse with
    | some => rfl
    | none => split <;> rfl

theorem member?_members (listed : List (Text × Value)) :
    member? name (members listed) = member? name listed.reverse :=
  (member?_foldl_put listed []).trans Option.or_none

theorem mem_of_member? (found : member? name ms = some v) : (name, v) ∈ ms := by
  obtain ⟨m, here, rfl⟩ := Option.map_eq_some_iff.mp found
  have same : m.1 = name := by simpa using List.find?_some here
  subst same
  exact List.mem_of_find?_eq_some here

theorem exists_member?_of_mem (mem : (name, v) ∈ ms) : ∃ w, member? name ms = some w := by
  cases found : member? name ms with
  | some w => exact ⟨w, rfl⟩
  | none =>
    have none := List.find?_eq_none.mp (Option.map_eq_none_iff.mp found) (name, v) mem
    exact absurd (decide_eq_true rfl) none

/-- A name that is listed has a value that is listed with it. -/
theorem exists_member?_members (mem : (name, v) ∈ listed) :
    ∃ w, member? name (members listed) = some w ∧ (name, w) ∈ listed := by
  obtain ⟨w, found⟩ := exists_member?_of_mem (List.mem_reverse.mpr mem)
  exact ⟨w, by rw [member?_members, found], List.mem_reverse.mp (mem_of_member? found)⟩

theorem put_of_not_mem (new : name ∉ ms.map Prod.fst) : put name v ms = ms ++ [(name, v)] := by
  induction ms with
  | nil => rfl
  | cons m rest ih =>
    rw [List.map_cons, List.mem_cons, not_or] at new
    rw [put, if_neg (Ne.symm new.1), ih new.2, List.cons_append]

theorem foldl_put_of_nodup {before : List (Text × Value)}
    (distinct : ((before ++ listed).map Prod.fst).Nodup) :
    listed.foldl (fun ms m => put m.1 m.2 ms) before = before ++ listed := by
  induction listed generalizing before with
  | nil => exact (List.append_nil before).symm
  | cons m rest ih =>
    have moved : before ++ m :: rest = before ++ [m] ++ rest := by simp
    have new : m.1 ∉ before.map Prod.fst := by
      intro mem
      rw [List.map_append, List.nodup_append] at distinct
      exact distinct.2.2 _ mem _ List.mem_cons_self rfl
    rw [List.foldl_cons, put_of_not_mem new, moved]
    exact ih (moved ▸ distinct)

theorem members_of_nodup (distinct : (listed.map Prod.fst).Nodup) : members listed = listed :=
  foldl_put_of_nodup distinct

end CheckReport.Json

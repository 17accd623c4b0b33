import Mathlib.Data.List.Induction
import CheckReport.Proofs.Path.Relative
import CheckReport.Proofs.Text.Split

/-!
# Displayed paths lead back to their files

Walking component by component is the way that `Leads` describes (`leads_iff`). Double dots undo the
names of the base, so what is displayed leads from the base to the place of the path
(`display_leads`).
-/

namespace CheckReport.Path

open Text (slash)

/-! ### Walking -/

theorem enter_still {part : Text} (still : part = [] ∨ part = dot) (here : List Text) :
    enter here part = here :=
  if_pos still

theorem enter_dots (here : List Text) : enter here dots = here.dropLast := by
  rw [enter, if_neg (by decide), if_pos rfl]

theorem enter_name {name : Text} (moves : name ≠ [] ∧ name ≠ dot ∧ name ≠ dots) (here : List Text) :
    enter here name = here ++ [name] := by
  rw [enter, if_neg (not_or.mpr ⟨moves.1, moves.2.1⟩), if_neg moves.2.2]

/-- Walking component by component ends at the one place that the components lead to. -/
theorem leads_iff {parts here there : List Text} :
    Leads parts here there ↔ parts.foldl enter here = there := by
  constructor
  · intro leads
    induction leads with
    | here => rfl
    | stay still _ ih => rw [List.foldl_cons, enter_still still, ih]
    | top _ ih => rw [List.foldl_cons, enter_dots, List.dropLast_nil, ih]
    | up _ ih => rw [List.foldl_cons, enter_dots, List.dropLast_concat, ih]
    | down moves _ ih => rw [List.foldl_cons, enter_name moves, ih]
  · rintro rfl
    induction parts generalizing here with
    | nil => exact .here
    | cons part parts ih =>
      rw [List.foldl_cons]
      by_cases still : part = [] ∨ part = dot
      · rw [enter_still still]
        exact .stay still ih
      · by_cases up : part = dots
        · subst up
          rw [enter_dots]
          -- two dots at the root stay there, elsewhere they drop the last name
          cases here using List.reverseRecOn with
          | nil => exact .top ih
          | append_singleton above name =>
            rw [List.dropLast_concat]
            exact .up ih
        · have moves := And.intro (not_or.mp still).1 (And.intro (not_or.mp still).2 up)
          rw [enter_name moves]
          exact .down moves ih

theorem LeadsTo.unique {s : Text} {a b : List Text} (first : LeadsTo s a) (second : LeadsTo s b) :
    a = b :=
  (second a).mp ((first a).mpr rfl)

theorem leadsTo_resolve {s : Text} (absolute : isAbsoluteText s = true) (cwd : Text) :
    LeadsTo s (resolve cwd s) := by
  intro place
  rw [leads_iff, resolve_of_absolute absolute, eq_comm]

/-! ### Names -/

/-- A component that says where to go. -/
structure IsMove (part : Text) : Prop where
  nonempty : part ≠ []
  notDot : part ≠ dot
  noSlash : slash ∉ part

/-- A component that goes down. -/
structure IsName (part : Text) : Prop extends IsMove part where
  notDots : part ≠ dots

theorem isName_of_mem_resolve {cwd path x : Text} (absolute : isAbsoluteText path = true)
    (mem : x ∈ resolve cwd path) : IsName x := by
  rw [resolve_of_absolute absolute] at mem
  refine forall_mem_foldl_enter (List.forall_mem_nil _) ?_ x mem
  intro part found nonempty notDot notDots
  exact ⟨⟨nonempty, notDot, Text.not_mem_of_mem_split found⟩, notDots⟩

theorem foldl_enter_names {names : List Text} (all : ∀ name ∈ names, IsName name)
    (here : List Text) : names.foldl enter here = here ++ names := by
  induction names generalizing here with
  | nil => rw [List.foldl_nil, List.append_nil]
  | cons name names ih =>
    obtain ⟨first, later⟩ := List.forall_mem_cons.mp all
    rw [List.foldl_cons, enter_name ⟨first.nonempty, first.notDot, first.notDots⟩, ih later,
      List.append_assoc, List.singleton_append]

theorem foldl_enter_dots (front up : List Text) :
    (List.replicate up.length dots).foldl enter (front ++ up) = front := by
  -- each pair of dots drops the last name, so the induction takes the names from the end
  induction up using List.reverseRecOn with
  | nil => rw [List.append_nil]; rfl
  | append_singleton up name ih =>
    rw [List.length_append, List.length_singleton, List.replicate_succ, List.foldl_cons, enter_dots,
      ← List.append_assoc, List.dropLast_concat, ih]

/-! ### Between two places -/

/-- Two places part after the longest front of both. -/
theorem between_parts (base place : List Text) :
    ∃ front up down, base = front ++ up ∧ place = front ++ down ∧
      (∀ other, other <+: base → other <+: place → other <+: front) ∧
      between base place = List.replicate up.length dots ++ down := by
  fun_induction between base place with
  | case1 base name place ih =>
    obtain ⟨front, up, down, rfl, rfl, longest, parts⟩ := ih
    refine ⟨name :: front, up, down, rfl, rfl, fun other hbase hplace => ?_, parts⟩
    cases other with
    | nil => exact List.nil_prefix
    | cons first other =>
      obtain ⟨rfl, inBase⟩ := List.cons_prefix_cons.mp hbase
      obtain ⟨_, inPlace⟩ := List.cons_prefix_cons.mp hplace
      exact List.cons_prefix_cons.mpr ⟨rfl, longest other inBase inPlace⟩
  | case2 a base b place differ =>
    refine ⟨[], a :: base, b :: place, rfl, rfl, fun other hbase hplace => ?_, rfl⟩
    cases other with
    | nil => exact List.nil_prefix
    | cons first other =>
      have atBase := (List.cons_prefix_cons.mp hbase).1
      have atPlace := (List.cons_prefix_cons.mp hplace).1
      exact absurd (atBase.symm.trans atPlace) differ
  | case3 base place ended =>
    refine ⟨[], base, place, rfl, rfl, fun other hbase hplace => ?_, rfl⟩
    cases other with
    | nil => exact List.nil_prefix
    | cons first other =>
      obtain ⟨base, rfl⟩ := hbase
      obtain ⟨place, rfl⟩ := hplace
      exact (ended _ _ _ _ rfl rfl).elim

theorem foldl_enter_between {base place : List Text} (names : ∀ name ∈ place, IsName name) :
    (between base place).foldl enter base = place := by
  obtain ⟨front, up, down, rfl, rfl, _, parts⟩ := between_parts base place
  have below : ∀ name ∈ down, IsName name := fun name mem =>
    names name (List.mem_append_right front mem)
  rw [parts, List.foldl_append, foldl_enter_dots, foldl_enter_names below]

theorem between_eq_nil_iff {base place : List Text} : between base place = [] ↔ base = place := by
  obtain ⟨front, up, down, rfl, rfl, longest, parts⟩ := between_parts base place
  rw [parts, List.append_eq_nil_iff, List.replicate_eq_nil_iff, List.length_eq_zero_iff]
  constructor
  · rintro ⟨rfl, rfl⟩
    rfl
  · intro same
    -- equal places are a front of both, so nothing is left after the longest one
    have whole := longest _ (List.prefix_refl _) (same ▸ List.prefix_refl _)
    have short := whole.length_le
    have lengths := congrArg List.length same
    simp only [List.length_append] at short lengths
    exact ⟨List.length_eq_zero_iff.mp (by omega), List.length_eq_zero_iff.mp (by omega)⟩

/-! ### Displayed paths -/

theorem isMove_of_mem_between {base place : List Text} {x : Text}
    (names : ∀ name ∈ place, IsName name) (mem : x ∈ between base place) : IsMove x := by
  rcases mem_between mem with rfl | inside
  · exact ⟨by decide, by decide, by decide⟩
  · exact (names x inside).toIsMove

theorem components_join {parts : List Text} (nonempty : parts ≠ [])
    (moves : ∀ part ∈ parts, IsMove part) : components (Text.join [slash] parts) = parts :=
  Text.split_join nonempty fun part mem => (moves part mem).noSlash

theorem join_relative {parts : List Text} (nonempty : parts ≠ [])
    (moves : ∀ part ∈ parts, IsMove part) :
    Text.join [slash] parts ≠ [] ∧ isAbsoluteText (Text.join [slash] parts) = false ∧
      Text.join [slash] parts ≠ dot := by
  have back := components_join nonempty moves
  -- each of the three texts that it must not be has a component that it must not have
  have filled : [] ∉ components (Text.join [slash] parts) := fun mem =>
    (moves [] (back ▸ mem)).nonempty rfl
  have noDot : dot ∉ components (Text.join [slash] parts) := fun mem =>
    (moves dot (back ▸ mem)).notDot rfl
  generalize Text.join [slash] parts = r at filled noDot
  refine ⟨?_, ?_, ?_⟩
  · rintro rfl
    exact filled List.mem_cons_self
  · rw [← Bool.not_eq_true]
    intro rooted
    obtain ⟨rest, rfl⟩ := List.head?_eq_some_iff.mp (of_decide_eq_true rooted)
    rw [components, Text.split, if_pos rfl] at filled
    exact filled List.mem_cons_self
  · rintro rfl
    exact noDot List.mem_cons_self

theorem display_of_absolute {p : Text} (path : isAbsoluteText p = true) (cwd b : Text) :
    display cwd (some b) p =
      if resolve cwd b = resolve cwd p then dot
      else Text.join [slash] (between (resolve cwd b) (resolve cwd p)) := by
  rw [display, if_pos path, Option.getD_some]
  split
  · next none => rw [if_pos (between_eq_nil_iff.mp none)]
  · next differ => rw [if_neg (mt between_eq_nil_iff.mpr differ)]

theorem shows_display {p : Text} (path : isAbsoluteText p = true) (cwd b : Text) :
    Shows (resolve cwd b) (resolve cwd p) (display cwd (some b) p) := by
  obtain ⟨front, up, down, base_eq, place_eq, longest, parts⟩ :=
    between_parts (resolve cwd b) (resolve cwd p)
  have shown := display_of_absolute path cwd b
  by_cases same : resolve cwd b = resolve cwd p
  · rw [if_pos same] at shown
    rw [shown]
    exact ⟨by decide, rfl, ⟨front, up, down, base_eq, place_eq, longest, absurd same⟩,
      iff_of_true rfl same⟩
  · rw [if_neg same] at shown
    have some := mt between_eq_nil_iff.mp same
    have moves (part : Text) (mem : part ∈ between (resolve cwd b) (resolve cwd p)) :
        IsMove part :=
      isMove_of_mem_between (fun _ => isName_of_mem_resolve path) mem
    obtain ⟨nonempty, relative, notDot⟩ := join_relative some moves
    rw [shown]
    refine ⟨nonempty, relative, ⟨front, up, down, base_eq, place_eq, longest, fun _ => ?_⟩,
      iff_of_false notDot same⟩
    rw [components_join some moves, parts]

/-- What is displayed, walked from the base, leads back to the path. -/
theorem leadsTo_display {b p : Text} (base : isAbsoluteText b = true)
    (path : isAbsoluteText p = true) (cwd : Text) :
    LeadsTo (b ++ slash :: display cwd (some b) p) (resolve cwd p) := by
  intro place
  rw [leads_iff, components, Text.split_append, List.foldl_append, ← components, ← components,
    ← resolve_of_absolute base cwd, display_of_absolute path]
  split
  · next same =>
    rw [same, eq_comm]
    rfl
  · next differ =>
    have names (x : Text) (mem : x ∈ resolve cwd p) : IsName x := isName_of_mem_resolve path mem
    rw [components_join (mt between_eq_nil_iff.mp differ) fun _ => isMove_of_mem_between names,
      foldl_enter_between names, eq_comm]

theorem display_eq_iff {b p q : Text} (base : isAbsoluteText b = true)
    (hp : isAbsoluteText p = true) (hq : isAbsoluteText q = true) (cwd : Text) :
    display cwd (some b) q = display cwd (some b) p ↔ LeadsTo q (resolve cwd p) := by
  constructor
  · intro same
    -- from the base the one display leads back to both places
    have back := leadsTo_display base hq cwd
    rw [same] at back
    rw [(leadsTo_display base hp cwd).unique back]
    exact leadsTo_resolve hq cwd
  · intro leads
    rw [display_of_absolute hq, display_of_absolute hp, (leadsTo_resolve hq cwd).unique leads]

/-- A path that is not absolute is displayed as it is. For an absolute one what is displayed leads from
the base to the place of the path, up as far as the two differ and down to the file, so that two paths
are displayed alike just if they lead to one place. -/
theorem display_leads (cwd b p : Text) :
    (isAbsoluteText p = false → ∀ base, display cwd base p = p) ∧
      (isAbsoluteText p = true → isAbsoluteText b = true → ∃ base place,
        LeadsTo b base ∧ LeadsTo p place ∧ Shows base place (display cwd (some b) p) ∧
          LeadsTo (b ++ slash :: display cwd (some b) p) place ∧
          ∀ q, isAbsoluteText q = true →
            (display cwd (some b) q = display cwd (some b) p ↔ LeadsTo q place)) := by
  refine ⟨fun relative base => ?_, fun path base => ?_⟩
  · rw [display, if_neg (Bool.not_eq_true _ ▸ relative)]
  · exact ⟨resolve cwd b, resolve cwd p, leadsTo_resolve base cwd, leadsTo_resolve path cwd,
      shows_display path cwd b, leadsTo_display base path cwd,
      fun q absolute => display_eq_iff base path absolute cwd⟩

theorem display_leads_up :
    isAbsoluteText (text "//a/./b/../c/x") = true ∧ isAbsoluteText (text "/../a/d//e") = true ∧
      display [] (some (text "/../a/d//e")) (text "//a/./b/../c/x") = text "../../c/x" ∧
      LeadsTo (text "/../a/d//e/../../c/x") [text "a", text "c", text "x"] := by
  obtain ⟨base, place, _, path, _, back, _⟩ :=
    (display_leads [] (text "/../a/d//e") (text "//a/./b/../c/x")).2 rfl rfl
  have shown : display [] (some (text "/../a/d//e")) (text "//a/./b/../c/x") = text "../../c/x" := by
    decide
  have places : [text "a", text "c", text "x"] = place := by
    rw [← path, leads_iff]
    decide
  rw [shown, ← places] at back
  exact ⟨rfl, rfl, shown, back⟩

end CheckReport.Path

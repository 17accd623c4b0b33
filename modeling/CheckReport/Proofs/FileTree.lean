import CheckReport.FileTree
import CheckReport.Proofs.Text.Characters
import CheckReport.Proofs.Text.Split

/-!
# What trees hold and where walks arrive

A node that is put into a tree changes its own place and makes the directories above it (`at?_put`).
What a path leads to depends on the places of its trail alone (`at?_congr`), and a path of names leads
to what is at their place (`at?_of_toText`, `at?_toText`).
-/

namespace CheckReport

namespace FileTree

variable {tree : FileTree} {place other : List Text} {node : Node}

/-! ### Nodes -/

theorem at?_nil (tree : FileTree) : tree.at? [] = some .directory := by
  simp [at?]

theorem at?_ensureDirectory (tree : FileTree) (place other : List Text) :
    (tree.ensureDirectory place).at? other =
      if other = place then some ((tree.at? place).getD .directory) else tree.at? other := by
  cases found : tree.at? place with
  | some node =>
    simp only [ensureDirectory, found, Option.getD_some]
    split
    · next same => rw [same, found]
    · rfl
  | none =>
    have below : place ≠ [] := by
      rintro rfl
      rw [at?_nil] at found
      cases found
    simp only [ensureDirectory, found, Option.getD_none]
    split
    · next same => rw [same, at?_set_self below]
    · next different => exact at?_set_of_ne different

theorem at?_foldl_ensureDirectory (places : List (List Text)) (tree : FileTree)
    (other : List Text) :
    (places.foldl ensureDirectory tree).at? other =
      if other ∈ places then some ((tree.at? other).getD .directory) else tree.at? other := by
  induction places generalizing tree with
  | nil => rfl
  | cons place places ih =>
    rw [List.foldl_cons, ih, at?_ensureDirectory]
    by_cases same : other = place
    · subst same
      simp
    · simp [same]

theorem mem_map_take_iff :
    other ∈ (List.range place.length).map place.take ↔ other <+: place ∧ other ≠ place := by
  rw [List.mem_map]
  constructor
  · rintro ⟨n, short, rfl⟩
    refine ⟨List.take_prefix n place, fun same => ?_⟩
    have length := congrArg List.length same
    rw [List.length_take] at length
    have := List.mem_range.mp short
    omega
  · rintro ⟨prefixed, different⟩
    have shorter : other.length < place.length :=
      Nat.lt_of_le_of_ne prefixed.length_le fun same => different (prefixed.eq_of_length same)
    exact ⟨other.length, List.mem_range.mpr shorter, (List.prefix_iff_eq_take.mp prefixed).symm⟩

/-- A node is put at its place, with directories above it where there was nothing. -/
theorem at?_put (below : place ≠ []) : (tree.put place node).at? other =
    if other = place then some node
    else if other <+: place then some ((tree.at? other).getD .directory)
    else tree.at? other := by
  unfold put
  split
  · next same => rw [same, at?_set_self below]
  · next different =>
    rw [at?_set_of_ne different, at?_foldl_ensureDirectory]
    simp only [mem_map_take_iff, ne_eq, different, not_false_eq_true, and_true]

theorem at?_put_self (below : place ≠ []) : (tree.put place node).at? place = some node :=
  at?_set_self below

theorem at?_put_of_vacant (vacant : tree.at? other = none) (different : other ≠ place) :
    (tree.put place node).at? other = none ∨
      (tree.put place node).at? other = some .directory := by
  unfold put
  rw [at?_set_of_ne different, at?_foldl_ensureDirectory, vacant]
  split
  · exact .inr rfl
  · exact .inl rfl

theorem isSome_at?_put (there : (tree.at? other).isSome) :
    ((tree.put place node).at? other).isSome := by
  by_cases below : place = []
  · subst below
    by_cases root : other = []
    · rw [root, at?_nil]
      rfl
    · unfold put
      rw [at?_set_of_ne root]
      exact there
  · rw [at?_put below]
    split
    · rfl
    · split
      · rfl
      · exact there

/-- Where the directories above a place are there, the place is all that a node changes. -/
theorem at?_put_of_parents (below : place ≠ [])
    (parents : ∀ parent, parent <+: place → parent ≠ place →
      tree.at? parent = some .directory) :
    (tree.put place node).at? other = if other = place then some node else tree.at? other := by
  rw [at?_put below]
  split
  · rfl
  · next different =>
    split
    · next above => rw [parents other above different, Option.getD_some]
    · rfl

theorem connected_of_nodes (held : ∀ node ∈ tree.nodes, ∀ n < node.1.length,
    tree.at? (node.1.take n) = some .directory) : tree.Connected := by
  intro place parent there above different
  have below : place ≠ [] := by
    rintro rfl
    exact different (List.prefix_nil.mp above)
  have shorter : parent.length < place.length :=
    Nat.lt_of_le_of_ne above.length_le fun same => different (above.eq_of_length same)
  rw [at?, if_neg below, Option.isSome_map, List.find?_isSome] at there
  obtain ⟨node, mem, same⟩ := there
  obtain rfl := of_decide_eq_true same
  rw [List.prefix_iff_eq_take.mp above]
  exact held node mem parent.length shorter

end FileTree

namespace Site

/-! ### Walks -/

section

variable {tree : FileTree} {here parts : List Text} {node : Node}

/-- Trees that agree on the trail of a walk give the same walk. -/
theorem walk_congr {other : FileTree}
    (same : ∀ place ∈ Path.trail here parts, tree.at? place = other.at? place) :
    walk tree here node parts = walk other here node parts := by
  -- On the induction along the first walk, each step reads the first place of what is left of the
  -- trail, or none.
  fun_induction walk tree here node parts with
  | case1 => rfl
  | case2 => rfl
  | case3 here part parts still ih =>
    have stays : Path.enter here part = here := if_pos still
    rw [Path.trail, stays] at same
    rw [walk, if_pos still]
    exact ih fun place mem => same place (List.mem_cons_of_mem _ mem)
  | case4 here parts moves ih =>
    have up : Path.enter here Path.dots = here.dropLast := by
      rw [Path.enter, if_neg moves, if_pos rfl]
    rw [Path.trail, up] at same
    rw [walk, if_neg moves, if_pos rfl]
    exact ih fun place mem => same place (List.mem_cons_of_mem _ mem)
  | case5 here part parts moves down long =>
    rw [walk, if_neg moves, if_neg down, if_pos long]
  | case6 here part parts moves down short absent =>
    have enters : Path.enter here part = here ++ [part] := by
      rw [Path.enter, if_neg moves, if_neg down]
    have there := same (here ++ [part]) (by rw [Path.trail, enters]; exact List.mem_cons_self)
    rw [walk, if_neg moves, if_neg down, if_neg short, ← there, absent]
  | case7 here part parts moves down short node found ih =>
    have enters : Path.enter here part = here ++ [part] := by
      rw [Path.enter, if_neg moves, if_neg down]
    rw [Path.trail, enters] at same
    rw [walk, if_neg moves, if_neg down, if_neg short, ← same _ List.mem_cons_self, found]
    exact ih fun place mem => same place (List.mem_cons_of_mem _ mem)

theorem IsName.walk_cons {name : Text} (named : IsName name) :
    walk tree here .directory (name :: parts) =
      (tree.at? (here ++ [name])).elim (.error .nowhere) fun node =>
        walk tree (here ++ [name]) node parts := by
  obtain ⟨⟨nonempty, notDot, notDots⟩, -, -, short⟩ := named
  rw [walk, if_neg (not_or.mpr ⟨nonempty, notDot⟩), if_neg notDots, if_neg (Nat.not_lt.mpr short)]
  cases tree.at? (here ++ [name]) <;> rfl

theorem at?_of_walk (names : ∀ name ∈ parts, IsName name) (nonempty : parts ≠ [])
    (arrives : walk tree here .directory parts = .ok node) :
    tree.at? (here ++ parts) = some node := by
  induction parts generalizing here with
  | nil => exact absurd rfl nonempty
  | cons name parts ih =>
    obtain ⟨named, rest⟩ := List.forall_mem_cons.mp names
    rw [named.walk_cons] at arrives
    match found : tree.at? (here ++ [name]), parts with
    | none, _ =>
      rw [found] at arrives
      cases arrives
    | some first, [] =>
      rw [found] at arrives
      exact found.trans (congrArg some (Except.ok.inj arrives))
    | some (.file _ _), _ :: _ =>
      rw [found] at arrives
      cases arrives
    | some .directory, next :: parts =>
      rw [found] at arrives
      have there := ih rest (List.cons_ne_nil next parts) arrives
      rwa [List.append_assoc, List.singleton_append] at there

theorem walk_of_at? (names : ∀ name ∈ parts, IsName name)
    (parents : ∀ parent, parent <+: parts → parent ≠ parts →
      tree.at? (here ++ parent) = some .directory)
    (stands : tree.at? here = some .directory) (there : tree.at? (here ++ parts) = some node) :
    walk tree here .directory parts = .ok node := by
  induction parts generalizing here with
  | nil =>
    rw [List.append_nil, stands] at there
    cases there
    rfl
  | cons name parts ih =>
    obtain ⟨named, rest⟩ := List.forall_mem_cons.mp names
    rw [named.walk_cons]
    by_cases last : parts = []
    · subst last
      rw [there]
      rfl
    · have first : tree.at? (here ++ [name]) = some .directory :=
        parents [name] ⟨parts, rfl⟩ fun same => last (List.cons.inj same).2.symm
      rw [first]
      refine ih rest ?_ first (by rwa [List.append_assoc])
      intro parent above different
      rw [List.append_assoc]
      refine parents (name :: parent) (List.prefix_cons_inj name |>.mpr above) fun same => ?_
      exact different (List.cons.inj same).2

end

/-! ### Paths -/

/-- Sites with the same working directory and with trees that agree on the trail of a path have the
same at it. -/
theorem at?_congr {site other : Site} {path : Text} (cwd : site.cwd = other.cwd)
    (same : ∀ place ∈ site.trail path, site.tree.at? place = other.tree.at? place) :
    site.at? path = other.at? path := by
  have start : site.start path = other.start path := by
    rw [Site.start, Site.start, Site.place, Site.place, cwd]
  have walked : walk site.tree (site.start path) .directory (Path.components path) =
      walk other.tree (other.start path) .directory (Path.components path) := by
    rw [← start]
    exact walk_congr same
  unfold Site.start at walked
  simp only [Site.at?, walked]

theorem toText_single (parts : List Text) :
    Path.toText ⟨.single, parts⟩ = Text.slash :: Text.join [Text.slash] parts :=
  if_neg nofun

section

variable {site : Site} {parts : List Text} {node : Node} (names : ∀ name ∈ parts, IsName name)

include names

theorem foldl_enter (here : List Text) : parts.foldl Path.enter here = here ++ parts := by
  induction parts generalizing here with
  | nil => exact (List.append_nil here).symm
  | cons name parts ih =>
    obtain ⟨⟨⟨nonempty, notDot, notDots⟩, -⟩, rest⟩ := List.forall_mem_cons.mp names
    have enters : Path.enter here name = here ++ [name] := by
      rw [Path.enter, if_neg (not_or.mpr ⟨nonempty, notDot⟩), if_neg notDots]
    rw [List.foldl_cons, enters, ih rest, List.append_assoc, List.singleton_append]

theorem isPossible_toText : isPossible (Path.toText ⟨.single, parts⟩) = true := by
  rw [isPossible, List.all_eq_true, toText_single, List.forall_mem_cons]
  refine ⟨by decide, (Text.forall_mem_join (by decide)).mpr ?_⟩
  intro name mem
  exact List.all_eq_true.mp (names name mem).2.2.1

variable (nonempty : parts ≠ [])

include nonempty

theorem components_toText : Path.components (Path.toText ⟨.single, parts⟩) = [] :: parts := by
  have inside := Text.split_join nonempty fun name mem => (names name mem).2.1
  rw [toText_single, Path.components, Text.split, if_pos rfl, inside]

theorem place_toText : site.place (Path.toText ⟨.single, parts⟩) = parts := by
  have absolute : Path.isAbsoluteText (Path.toText ⟨.single, parts⟩) = true := by
    rw [toText_single]
    rfl
  rw [Site.place, Path.resolve, Path.resolveFrom, if_pos absolute,
    components_toText names nonempty, List.foldl_cons]
  exact foldl_enter names []

variable (short : size (Path.toText ⟨.single, parts⟩) < pathLimit)

include short

theorem at?_toText_iff : site.at? (Path.toText ⟨.single, parts⟩) = .ok (some node) ↔
    walk site.tree [] .directory parts = .ok node := by
  have absolute : Path.isAbsoluteText (Path.toText ⟨.single, parts⟩) = true := by
    rw [toText_single]
    rfl
  have possible := isPossible_toText names
  have written : Path.toText ⟨.single, parts⟩ ≠ [] := by
    rw [toText_single]
    exact List.cons_ne_nil _ _
  have root : walk site.tree [] .directory ([] :: parts) = walk site.tree [] .directory parts := by
    rw [walk, if_pos (.inl rfl)]
  simp only [Site.at?, components_toText names nonempty, root, absolute, possible, written,
    Nat.not_le.mpr short, if_true, if_false, or_self, Bool.not_true, Bool.false_eq_true]
  match walk site.tree [] .directory parts with
  | .ok found => simp
  | .error .nowhere => simp
  | .error .tooLong => simp

/-- What a path of names leads to is at the place of the names. -/
theorem at?_of_toText (leads : site.at? (Path.toText ⟨.single, parts⟩) = .ok (some node)) :
    site.tree.at? parts = some node :=
  at?_of_walk names nonempty ((at?_toText_iff names nonempty short).mp leads)

/-- Through directories a path of names leads to what is at their place. -/
theorem at?_toText (parents : ∀ parent, parent <+: parts → parent ≠ parts →
      site.tree.at? parent = some .directory) (there : site.tree.at? parts = some node) :
    site.at? (Path.toText ⟨.single, parts⟩) = .ok (some node) :=
  (at?_toText_iff names nonempty short).mpr
    (walk_of_at? names parents (FileTree.at?_nil site.tree) there)

end

end Site

end CheckReport

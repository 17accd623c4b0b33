import CheckReport.Proofs.Terminal.Token

/-!
# Links of painted pages

Tokens that have links of their own have these before any others (`HasLinks`), as the tokens of fragments
do. So a painted page has the links of its fragments, each closed before the next one (`links?_page`).
-/

namespace CheckReport.Terminal

/-- What a fragment links to, if it is a link. -/
def Fragment.links (f : Fragment) : List Link :=
  f.target.toList.map fun target => ⟨target, f.text⟩

def Line.links (l : Line) : List Link :=
  l.flatMap Fragment.links

namespace Link

/-- What is opened and closed are the targets of the links and none in turn. -/
theorem targets_of_ofTokens? {opened : Option Link} {ts : List Token} {ls : List Link}
    (found : ofTokens? opened ts = some ls) :
    opened.toList.map target ++ ts.filterMap Token.target? =
      ls.flatMap fun link => [link.target, []] := by
  fun_induction ofTokens? opened ts generalizing ls with
  | case1 =>
    cases found
    rfl
  | case2 => cases found
  | case3 => cases found
  | case4 target ts other ih => exact ih found
  | case5 link ts ih =>
    obtain ⟨later, given, rfl⟩ := Option.map_eq_some_iff.mp found
    have rest := ih given
    simpa [Token.target?] using rest
  | case6 => cases found
  | case7 c ts ih => exact ih found
  | case8 link c ts ih => exact ih found
  | case9 opened codes ts ih => exact ih found

/-- Some tokens have some links, whatever comes after them. -/
def HasLinks (ts : List Token) (ls : List Link) : Prop :=
  ∀ rest, ofTokens? none (ts ++ rest) = (ofTokens? none rest).map (ls ++ ·)

namespace HasLinks

theorem nil : HasLinks [] [] := by
  intro rest
  cases found : ofTokens? none rest <;> simp [found]

theorem append {ts us : List Token} {ls ms : List Link} (first : HasLinks ts ls)
    (second : HasLinks us ms) : HasLinks (ts ++ us) (ls ++ ms) := by
  intro rest
  rw [List.append_assoc, first, second, Option.map_map]
  exact congrArg (Option.map · _) (funext fun later => (List.append_assoc ls ms later).symm)

theorem flatMap {α : Type} {xs : List α} {f : α → List Token} {g : α → List Link}
    (each : ∀ x ∈ xs, HasLinks (f x) (g x)) : HasLinks (xs.flatMap f) (xs.flatMap g) := by
  induction xs with
  | nil => exact nil
  | cons x xs ih =>
    obtain ⟨first, later⟩ := List.forall_mem_cons.mp each
    rw [List.flatMap_cons, List.flatMap_cons]
    exact first.append (ih later)

/-- Tokens that are not of links have none. -/
theorem free {ts : List Token} (free : ∀ t ∈ ts, t.target? = none) : HasLinks ts [] := by
  induction ts with
  | nil => exact nil
  | cons t ts ih =>
    obtain ⟨first, later⟩ := List.forall_mem_cons.mp free
    intro rest
    cases t with
    | char c => exact ih later rest
    | style codes => exact ih later rest
    | link target => cases first

end HasLinks

/-- What is seen after a link is opened is its text. -/
theorem ofTokens?_opened {ts : List Token} (free : ∀ t ∈ ts, t.target? = none) (link : Link)
    (rest : List Token) :
    ofTokens? (some link) (ts ++ rest) =
      ofTokens? (some { link with text := link.text ++ ts.filterMap Token.shown }) rest := by
  induction ts generalizing link with
  | nil => simp
  | cons t ts ih =>
    obtain ⟨first, later⟩ := List.forall_mem_cons.mp free
    cases t with
    | char c =>
      rw [List.cons_append, ofTokens?, ih later]
      simp [Token.shown]
    | style codes =>
      rw [List.cons_append, ofTokens?, ih later]
      rfl
    | link target => cases first

theorem hasLinks_linked {target : Text} (named : target ≠ []) {ts : List Token}
    (free : ∀ t ∈ ts, t.target? = none) :
    HasLinks ([.link target] ++ ts ++ [.link []]) [⟨target, ts.filterMap Token.shown⟩] := by
  intro rest
  rw [List.append_assoc, List.append_assoc, List.singleton_append, ofTokens?, if_neg named,
    ofTokens?_opened free, List.singleton_append, ofTokens?, if_pos rfl]
  rfl

end Link

open Link (HasLinks)

/-! ### Painted text -/

theorem target?_of_mem_ofStyled (style : Style) (s : Text) :
    ∀ t ∈ Token.ofStyled style s, t.target? = none := by
  have chars : ∀ t ∈ s.map Token.char, t.target? = none := by
    rw [List.forall_mem_map]
    exact fun _ _ => rfl
  unfold Token.ofStyled
  split
  · exact chars
  · rw [List.forall_mem_append, List.forall_mem_append, List.forall_mem_singleton,
      List.forall_mem_singleton]
    exact ⟨⟨rfl, chars⟩, rfl⟩

theorem hasLinks_fragment {f : Fragment} (named : ∀ link ∈ f.links, link.target ≠ []) :
    HasLinks f.tokens f.links := by
  unfold Fragment.tokens Fragment.links at *
  cases h : f.target with
  | none => exact .free (target?_of_mem_ofStyled f.style f.text)
  | some target =>
    have other : target ≠ [] := named ⟨target, f.text⟩ (by simp [h])
    have linked := Link.hasLinks_linked other (target?_of_mem_ofStyled f.style f.text)
    rw [shown_ofStyled] at linked
    exact linked

theorem hasLinks_line {l : Line} (named : ∀ link ∈ l.links, link.target ≠ []) :
    HasLinks (l.flatMap Fragment.tokens) l.links :=
  .flatMap fun f mem => hasLinks_fragment fun link found =>
    named link (List.mem_flatMap.mpr ⟨f, mem, found⟩)

theorem hasLinks_page {ls : List Line} (named : ∀ link ∈ ls.flatMap Line.links, link.target ≠ []) :
    HasLinks (pageTokens ls) (ls.flatMap Line.links) := by
  fun_induction pageTokens ls with
  | case1 => exact .nil
  | case2 l =>
    rw [List.flatMap_singleton] at named ⊢
    exact hasLinks_line named
  | case3 l next rest ih =>
    rw [List.flatMap_cons, List.forall_mem_append] at named
    have feed : HasLinks [.char Text.newline] [] := .free (by decide)
    have page := ((hasLinks_line named.1).append feed).append (ih named.2)
    rwa [List.append_nil] at page

/-- A painted page has the links of its fragments, each of them closed before the next one. -/
theorem links?_page {ls : List Line}
    (free : ∀ l ∈ ls, ∀ f ∈ l, f.Holds (· ≠ escapeChar) ⟨true⟩)
    (named : ∀ link ∈ ls.flatMap Line.links, link.target ≠ []) :
    links? (Painter.page ⟨true⟩ ls) = some (ls.flatMap Line.links) := by
  have whole := hasLinks_page named []
  rw [List.append_nil] at whole
  rw [links?, (readsAs_page free).scan_eq, whole]
  simp [Link.ofTokens?]

end CheckReport.Terminal

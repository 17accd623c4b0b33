import CheckReport.Proofs.Terminal.Link
import CheckReport.Proofs.Text.Split
import CheckReport.Terminal.Message

/-!
# Notices as pages

The lines of a notice are those of its text, and tabs become the same spaces however the text is cut
into parts. So a notice is written as a page of fragments without links, which ends in an empty line:
without colour its text decides what is written (`render_disabled`), and with colour the same is seen
(`visible_render`).
-/

namespace CheckReport.Terminal

namespace Notice

theorem content_cons (part : Part) (parts : List Part) :
    content (part :: parts) = part.text ++ content parts :=
  rfl

theorem content_append (parts more : List Part) :
    content (parts ++ more) = content parts ++ content more :=
  List.flatMap_append

theorem mem_content {parts : List Part} {part : Part} {c : Nat} (mem : part ∈ parts)
    (inside : c ∈ part.text) : c ∈ content parts :=
  List.mem_flatMap.mpr ⟨part, mem, inside⟩

theorem content_cleaned (notice : Notice) :
    content notice.cleaned = (content notice).filter (!isDropped ·) := by
  rw [content, content, cleaned, List.flatMap_map, List.filter_flatMap]

/-! ### Lines -/

/-- The last line of a part goes on in the next part. -/
theorem lines_cons {part : Part} {parts line : List Part} {front : List Text} {last : Text}
    {rest : List (List Part)} (own : Text.lines part.text = front ++ [last])
    (later : lines parts = line :: rest) :
    lines (part :: parts) =
      front.map (fun piece => [{ part with text := piece }]) ++
        ({ part with text := last } :: line) :: rest := by
  simp [lines, own, later]

/-- The lines of a notice are those of its text. -/
theorem map_content_lines (notice : Notice) :
    notice.lines.map content = Text.lines (content notice) := by
  induction notice with
  | nil => rfl
  | cons part parts ih =>
    obtain ⟨piece, pieces, found⟩ :=
      List.exists_cons_of_ne_nil (Text.split_ne_nil Text.newline (content parts))
    rw [Text.lines, found] at ih
    obtain ⟨line, rest, later, rfl, rfl⟩ := List.map_eq_cons_iff.mp ih
    obtain ⟨front, last, own⟩ : ∃ front last, Text.lines part.text = front ++ [last] :=
      ⟨_, _, (List.dropLast_concat_getLast (Text.split_ne_nil Text.newline part.text)).symm⟩
    have whole : Text.lines (content (part :: parts)) =
        front ++ (last ++ content line) :: rest.map content :=
      Text.split_append_pieces own found
    have single : content ∘ (fun piece => [{ part with text := piece }]) = id :=
      funext fun piece => List.append_nil piece
    rw [whole, lines_cons own later, List.map_append, List.map_map, single, List.map_id]
    rfl

theorem lines_ne_nil (notice : Notice) : notice.lines ≠ [] := by
  intro none
  have whole := map_content_lines notice
  rw [none] at whole
  exact Text.split_ne_nil _ _ whole.symm

theorem render_ne_nil (painter : Painter) (notice : Notice) : notice.render painter ≠ [] := by
  obtain ⟨line, rest, same⟩ := List.exists_cons_of_ne_nil (lines_ne_nil notice.cleaned)
  simp [render, renderLine, same]

/-! ### Tabs -/

/-- A part is expanded as its text is, and leaves to the text after it the stop and the stretch that it
ends at. -/
theorem content_expandPart (style : Style) (column : Nat) (stretch piece s t : Text) :
    content (expandPart style column stretch piece s).1 ++
        expandText (expandPart style column stretch piece s).2.1
          (expandPart style column stretch piece s).2.2 t =
      piece.reverse ++ expandText column stretch (s ++ t) := by
  induction s generalizing column stretch piece with
  | nil => simp [expandPart, content]
  | cons c s ih =>
    rw [expandPart, List.cons_append, expandText]
    split
    · dsimp only
      rw [content_cons, List.append_assoc, ih]
      simp
    · rw [ih]
      simp

/-- The parts of a line are expanded as its text is. -/
theorem content_expandLine (column : Nat) (stretch : Text) (line : List Part) :
    content (expandLine column stretch line) = expandText column stretch (content line) := by
  induction line generalizing column stretch with
  | nil => rfl
  | cons part parts ih =>
    have here := content_expandPart part.style column stretch [] part.text (content parts)
    rw [expandLine]
    dsimp only
    rw [content_append, ih, here]
    rfl

theorem expandText_of_not_mem {s : Text} (free : tab ∉ s) (column : Nat) (stretch : Text) :
    expandText column stretch s = s := by
  induction s generalizing column stretch with
  | nil => rfl
  | cons c s ih =>
    rw [List.mem_cons, not_or] at free
    rw [expandText, if_neg (Ne.symm free.1), ih free.2]

theorem forall_mem_expandText {P : Nat → Prop} (blank : P Text.space) {s : Text}
    (all : ∀ c ∈ s, P c) (column : Nat) (stretch : Text) :
    ∀ c ∈ expandText column stretch s, P c := by
  induction s generalizing column stretch with
  | nil => exact List.forall_mem_nil P
  | cons c s ih =>
    obtain ⟨first, later⟩ := List.forall_mem_cons.mp all
    rw [expandText]
    split
    · have fill (n : Nat) : ∀ c ∈ Text.spaces n, P c := fun c mem =>
        List.eq_of_mem_replicate mem ▸ blank
      exact List.forall_mem_append.mpr ⟨fill _, ih later _ _⟩
    · exact List.forall_mem_cons.mpr ⟨first, ih later _ _⟩

/-! ### Pages -/

def fragment (part : Part) : Fragment :=
  { text := part.text, style := part.style }

/-- The lines of a notice as they are written, and an empty one at the end. -/
def page (notice : Notice) : List Line :=
  notice.cleaned.lines.map (fun line => (expandLine 0 [] line).map fragment) ++ [[]]

theorem plain_map_fragment (parts : List Part) : Line.plain (parts.map fragment) = content parts :=
  List.flatMap_map fragment (·.text) parts

theorem render_eq_page (painter : Painter) (notice : Notice) :
    notice.render painter = painter.page notice.page := by
  have line (parts : List Part) :
      renderLine painter parts =
        painter.line ((expandLine 0 [] parts).map fragment) ++ [Text.newline] := by
    rw [renderLine, Painter.line, List.flatMap_map]
    rfl
  have last : painter.line [] = [] := rfl
  rw [Painter.page, page, List.map_append, List.map_singleton, last, Text.join_concat_nil,
    List.map_map, List.flatMap_map, render]
  exact congrArg (List.flatMap · notice.cleaned.lines) (funext line)

theorem map_plain_page (notice : Notice) :
    notice.page.map Line.plain =
      (Text.lines ((content notice).filter (!isDropped ·))).map (expandText 0 []) ++ [[]] := by
  have line (line : List Part) :
      Line.plain ((expandLine 0 [] line).map fragment) = expandText 0 [] (content line) := by
    rw [plain_map_fragment, content_expandLine]
  rw [page, List.map_append, List.map_map, ← content_cleaned, ← map_content_lines, List.map_map]
  exact congrArg (· ++ [[]]) (List.map_congr_left fun parts _ => line parts)

/-- Without colour the text of a notice decides what is written. -/
theorem render_disabled (notice : Notice) : notice.render ⟨false⟩ = written (content notice) := by
  rw [render_eq_page, Painter.page_disabled, map_plain_page, Text.join_concat_nil,
    List.flatMap_map, written]

-- A tab fills up to the next stop of its own line, and a return is left out.
example : written (text "ab\tc\r\n\td") = text "ab      c\n        d\n" := by
  decide

/-- A text without tabs and characters that are left out is written as it is. -/
theorem written_of_isVerbatim {s : Text} (verbatim : IsVerbatim s) :
    written s = s ++ [Text.newline] := by
  have kept : s.filter (!isDropped ·) = s := by
    rw [List.filter_eq_self]
    intro c mem
    rw [(verbatim c mem).2]
    rfl
  have noTab : ∀ line ∈ Text.lines s, tab ∉ line := by
    intro line mem inside
    have each : ∀ line ∈ Text.lines s, ∀ c ∈ line, c ≠ tab :=
      (Text.forall_mem_split (by decide)).mpr fun c mem => (verbatim c mem).1
    exact each line mem tab inside rfl
  have same : (Text.lines s).map (expandText 0 []) = Text.lines s :=
    (List.map_congr_left fun line mem => expandText_of_not_mem (noTab line mem) 0 []).trans
      (List.map_id _)
  calc
    written s = (Text.lines s).flatMap fun line => expandText 0 [] line ++ [Text.newline] := by
      rw [written, kept]
    _ = ((Text.lines s).map (expandText 0 [])).flatMap (· ++ [Text.newline]) := by
      rw [List.flatMap_map]
    _ = Text.join [Text.newline] (Text.split Text.newline (s ++ [Text.newline])) := by
      rw [same, ← Text.join_concat_nil, Text.split_append]
      rfl
    _ = s ++ [Text.newline] := Text.join_split Text.newline _

/-! ### Colour -/

/-- The lines have no characters but those of the notice and spaces. -/
theorem holds_page {P : Nat → Prop} (blank : P Text.space) (feed : P Text.newline)
    {notice : Notice} (all : ∀ c ∈ content notice, P c) :
    ∀ l ∈ notice.page, ∀ f ∈ l, f.Holds P ⟨true⟩ := by
  have lines : ∀ line ∈ notice.cleaned.lines, ∀ c ∈ content line, P c := by
    have kept : ∀ c ∈ content notice.cleaned, P c := by
      rw [content_cleaned]
      exact fun c mem => all c (List.mem_filter.mp mem).1
    have pieces := (Text.forall_mem_split feed).mpr kept
    rw [← Text.lines, ← map_content_lines, List.forall_mem_map] at pieces
    exact pieces
  rw [page, List.forall_mem_append, List.forall_mem_map, List.forall_mem_singleton]
  refine ⟨fun line mem => ?_, List.forall_mem_nil _⟩
  rw [List.forall_mem_map]
  intro part found
  have expanded := forall_mem_expandText blank (lines line mem) 0 []
  rw [← content_expandLine] at expanded
  refine ⟨fun c inside => expanded c (mem_content found inside), fun _ target linked => ?_⟩
  cases linked

theorem links_page (notice : Notice) : notice.page.flatMap Line.links = [] := by
  simp [page, Line.links, Fragment.links, fragment]

section

variable {notice : Notice} (free : escapeChar ∉ content notice)

include free

theorem escapeFree_page : ∀ l ∈ notice.page, ∀ f ∈ l, f.Holds (· ≠ escapeChar) ⟨true⟩ :=
  holds_page (by decide) (by decide) (List.forall_mem_ne'.mpr free)

/-- Of a notice in colour is seen what is written without. -/
theorem visible_render : visible (notice.render ⟨true⟩) = notice.render ⟨false⟩ := by
  rw [render_eq_page, render_eq_page]
  exact visible_page (escapeFree_page free)

/-- A notice in colour has no links. -/
theorem targets_render : targets (notice.render ⟨true⟩) = [] := by
  have named : ∀ link ∈ notice.page.flatMap Line.links, link.target ≠ [] := by
    rw [links_page]
    exact List.forall_mem_nil _
  have found := links?_page (escapeFree_page free) named
  rw [links_page, ← render_eq_page] at found
  exact Link.targets_of_ofTokens? found

end

end Notice

end CheckReport.Terminal

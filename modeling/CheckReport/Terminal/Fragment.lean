import CheckReport.Terminal.Painter

/-!
# Fragments

A line of output is put together from fragments, each a text in one style that may be a link. What
a line says does not depend on the painter; how it is written does.
-/

namespace CheckReport.Terminal

/-- A text in one style, and what it links to, if it is a link. -/
structure Fragment where
  text : Text
  style : Style := {}
  target : Option Text := none
  deriving DecidableEq, Repr

abbrev Line := List Fragment

def Fragment.plain (s : Text) : Fragment :=
  { text := s }

def Line.plain (line : Line) : Text :=
  line.flatMap (·.text)

/-- Whether a property holds of the characters of a fragment, and of those of its target where links
are written. -/
def Fragment.Holds (P : Nat → Prop) (painter : Painter) (f : Fragment) : Prop :=
  (∀ c ∈ f.text, P c) ∧
    (painter.enabled = true → ∀ target, f.target = some target → ∀ c ∈ target, P c)

namespace Painter

/-- A fragment as it is written: the style inside the link. -/
def fragment (painter : Painter) (f : Fragment) : Text :=
  match f.target with
  | none => painter.paint f.style f.text
  | some target => painter.link target (painter.paint f.style f.text)

def line (painter : Painter) (l : Line) : Text :=
  l.flatMap painter.fragment

def page (painter : Painter) (ls : List Line) : Text :=
  Text.join [Text.newline] (ls.map painter.line)

/-- Text without style is written as it is. -/
theorem fragment_plain (painter : Painter) (s : Text) : painter.fragment (.plain s) = s := by
  have bare : styled {} s = s := if_pos (.inr rfl)
  cases painter with
  | mk enabled => cases enabled <;> simp [fragment, Fragment.plain, paint, bare]

theorem fragment_disabled (f : Fragment) : Painter.fragment ⟨false⟩ f = f.text := by
  unfold fragment
  split <;> simp [paint, link]

/-- A disabled painter writes what the line says. -/
theorem line_disabled (l : Line) : Painter.line ⟨false⟩ l = l.plain :=
  congrArg (List.flatMap · l) (funext fragment_disabled)

theorem page_disabled (ls : List Line) :
    Painter.page ⟨false⟩ ls = Text.join [Text.newline] (ls.map Line.plain) :=
  congrArg (fun write => Text.join [Text.newline] (ls.map write)) (funext line_disabled)

end Painter

end CheckReport.Terminal

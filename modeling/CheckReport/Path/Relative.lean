import CheckReport.Path.Basic

/-!
# Relative paths

`display` shows an absolute path from a base directory: up from the base as far as the two differ,
and down to the file. Both are first resolved to components that hold no dots.
-/

namespace CheckReport.Path

/-- Components with one more taken into account: empty ones and dots do nothing, double dots go up
one component, at the root nowhere. -/
def enter (here : List Text) (part : Text) : List Text :=
  if part = [] ∨ part = dot then here
  else if part = dots then here.dropLast
  else here ++ [part]

/-- The components that a path leads to from `here`. -/
def resolveFrom (here : List Text) (path : Text) : List Text :=
  (components path).foldl enter (if isAbsoluteText path then [] else here)

/-- The components of a path from the root on, in a working directory. -/
def resolve (cwd path : Text) : List Text :=
  resolveFrom (resolveFrom [] cwd) path

def between : List Text → List Text → List Text
  | a :: base, b :: path =>
    if a = b then between base path
    else List.replicate (base.length + 1) dots ++ b :: path
  | base, path => List.replicate base.length dots ++ path

/-- The path from a base directory, which is the working directory unless one is given. A path that
is not absolute is shown as it is. -/
def display (cwd : Text) (base : Option Text) (path : Text) : Text :=
  if isAbsoluteText path then
    match between (resolve cwd (base.getD cwd)) (resolve cwd path) with
    | [] => dot
    | parts => Text.join [Text.slash] parts
  else path

/-!
### Where paths lead

Components lead from one place to another: an empty one or a dot stays, two dots go up, at the root
nowhere, and any other goes down. A place is the names that lead to it from the root. A relative path
shows one place from another.
-/

inductive Leads : List Text → List Text → List Text → Prop where
  | here {place : List Text} : Leads [] place place
  | stay {part : Text} {parts a b : List Text} (still : part = [] ∨ part = dot)
      (rest : Leads parts a b) : Leads (part :: parts) a b
  | top {parts b : List Text} (rest : Leads parts [] b) : Leads (dots :: parts) [] b
  | up {name : Text} {parts a b : List Text} (rest : Leads parts a b) :
      Leads (dots :: parts) (a ++ [name]) b
  | down {name : Text} {parts a b : List Text} (moves : name ≠ [] ∧ name ≠ dot ∧ name ≠ dots)
      (rest : Leads parts (a ++ [name]) b) : Leads (name :: parts) a b

/-- A text leads to one place from the root. -/
def LeadsTo (s : Text) (place : List Text) : Prop :=
  ∀ there, Leads (components s) [] there ↔ there = place

/-- A relative path shows a place from a base: as many double dots as the base has names beyond those
that both start with, then the other names of the place, or a dot if there are none of either. -/
structure Shows (base place : List Text) (r : Text) : Prop where
  nonempty : r ≠ []
  relative : isAbsoluteText r = false
  parts : ∃ front up down, base = front ++ up ∧ place = front ++ down ∧
    (∀ other, other <+: base → other <+: place → other <+: front) ∧
    (base ≠ place → components r = List.replicate up.length dots ++ down)
  same : r = dot ↔ base = place

end CheckReport.Path

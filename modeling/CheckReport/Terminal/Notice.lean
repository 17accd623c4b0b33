import CheckReport.Terminal.ColorMode
import CheckReport.Text.Width

/-!
# Notices and consoles

A notice is a message to the user, put together from parts in styles of their own. It is written
line by line. Nothing in it is interpreted, wrapped or cut; only some control characters are left
out, and a tab becomes the spaces up to the next tab stop.
-/

namespace CheckReport.Terminal

structure Part where
  text : Text
  style : Style := {}
  deriving DecidableEq, Repr

abbrev Notice := List Part

namespace Notice

/-- The control characters that notices leave out: bell, backspace, vertical tab, form feed and
carriage return. -/
def isDropped (c : Nat) : Bool :=
  c == 0x07 || c == 0x08 || c == 0x0B || c == 0x0C || c == 0x0D

/-- A notice without the control characters that are left out. -/
def cleaned (notice : Notice) : Notice :=
  notice.map fun part => { part with text := part.text.filter (!isDropped ·) }

def plain (notice : Notice) : Text :=
  notice.cleaned.flatMap (·.text)

/-- Where the styled parts of a notice start and end in its text. -/
def spansFrom : Nat → Notice → List (Nat × Nat × Style)
  | _, [] => []
  | start, part :: parts =>
    let stop := start + part.text.length
    let rest := spansFrom stop parts
    if part.text = [] ∨ part.style = {} then rest else (start, stop, part.style) :: rest

def spans (notice : Notice) : List (Nat × Nat × Style) :=
  spansFrom 0 notice.cleaned

/-! ### Lines -/

/-- The lines of a notice, each a list of parts. -/
def lines : Notice → List (List Part)
  | [] => [[]]
  | part :: parts =>
    let pieces := (Text.lines part.text).map fun piece => { part with text := piece }
    match lines parts with
    | [] => pieces.map ([·])
    | line :: rest =>
      match pieces.getLast? with
      | none => line :: rest
      | some last => pieces.dropLast.map ([·]) ++ (last :: line) :: rest

def tab : Nat := 0x09

def tabWidth : Nat := 8

/-- The spaces in place of a tab that ends a stretch of the given width in cells. The tab itself
counts as the first of them. -/
def tabSpaces (width : Nat) : Nat :=
  1 + (tabWidth - width % tabWidth) % tabWidth

/-- A part in which tabs are spaces, cut after each of them. `column` is the cell after the last
tab stop of the line and `stretch` what stands after it. -/
def expandPart (style : Style) : Nat → Text → Text → Text → List Part × Nat × Text
  | column, stretch, piece, [] => ([⟨piece.reverse, style⟩], column, stretch)
  | column, stretch, piece, c :: s =>
    if c = tab then
      let width := column + Text.cells (stretch ++ [Text.space])
      let fill := tabSpaces width
      let (parts, column, stretch) := expandPart style (width + fill - 1) [] [] s
      (⟨piece.reverse ++ Text.spaces fill, style⟩ :: parts, column, stretch)
    else expandPart style column (stretch ++ [c]) (c :: piece) s

def expandLine : Nat → Text → List Part → List Part
  | _, _, [] => []
  | column, stretch, part :: parts =>
    let (expanded, column, stretch) := expandPart part.style column stretch [] part.text
    expanded ++ expandLine column stretch parts

/-- A line as it is written, with the line feed that ends it. -/
def renderLine (painter : Painter) (line : List Part) : Text :=
  ((expandLine 0 [] line).flatMap fun part => painter.paint part.style part.text) ++ [Text.newline]

def render (painter : Painter) (notice : Notice) : Text :=
  notice.cleaned.lines.flatMap (renderLine painter)

end Notice

/-!
### Consoles

A console writes to one of the two standard streams, with or without colour, and never wraps a line.
There is one console of each kind: it is made when it is first asked for and given again after that.
-/

structure Console where
  color : Bool
  stderr : Bool := true
  deriving DecidableEq, Repr

namespace Console

/-- What a console writes in colour with. -/
def painter (console : Console) : Painter :=
  { enabled := console.color }

end Console

/-- The consoles that were made, in the order of their making. -/
abbrev Consoles := List Console

namespace Consoles

/-- The number of a console, which is made if it is not there yet. -/
def get (consoles : Consoles) (console : Console) : Nat × Consoles :=
  if console ∈ consoles then (consoles.idxOf console, consoles)
  else (consoles.length, consoles ++ [console])

/-- Whatever was made before, the console that is given is the one that was asked for. -/
theorem getElem?_get (consoles : Consoles) (console : Console) :
    (get consoles console).2[(get consoles console).1]? = some console := by
  unfold get
  split
  · next present =>
    have bound : consoles.idxOf console < consoles.length := List.idxOf_lt_length_of_mem present
    rw [List.getElem?_eq_getElem bound, List.getElem_idxOf]
  · exact List.getElem?_concat_length

end Consoles

end CheckReport.Terminal

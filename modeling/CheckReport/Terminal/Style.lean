import CheckReport.Text.Classes

/-!
# Styles

A style is named by words in any order and case, and is switched on by a sequence of numeric codes:
attributes first, then the colour.
-/

namespace CheckReport.Terminal

inductive Color where
  | black
  | red
  | green
  | yellow
  | blue
  | magenta
  | cyan
  | white
  deriving DecidableEq, Repr

namespace Color

/-- The colours in the order of their codes. -/
def all : List Color :=
  [.black, .red, .green, .yellow, .blue, .magenta, .cyan, .white]

def name : Color → Text
  | .black => text "black"
  | .red => text "red"
  | .green => text "green"
  | .yellow => text "yellow"
  | .blue => text "blue"
  | .magenta => text "magenta"
  | .cyan => text "cyan"
  | .white => text "white"

def code : Color → Nat
  | .black => 30
  | .red => 31
  | .green => 32
  | .yellow => 33
  | .blue => 34
  | .magenta => 35
  | .cyan => 36
  | .white => 37

end Color

structure Style where
  bold : Bool := false
  dim : Bool := false
  color : Option Color := none
  deriving DecidableEq, Repr

namespace Style

def ofColor (color : Color) : Style :=
  { color := some color }

def words (style : Style) : List Text :=
  (if style.bold then [text "bold"] else []) ++ (if style.dim then [text "dim"] else []) ++
    style.color.toList.map Color.name

def name (style : Style) : Text :=
  Text.join [Text.space] style.words

def codes (style : Style) : List Nat :=
  (if style.bold then [1] else []) ++ (if style.dim then [2] else []) ++
    style.color.toList.map Color.code

/-- A style with one more word, if it is a word of styles. -/
def addWord? (style : Style) (word : Text) : Option Style :=
  let word := Text.lower word
  if word = text "bold" then some { style with bold := true }
  else if word = text "dim" then some { style with dim := true }
  else (Color.all.find? fun color => color.name = word).map fun color =>
    { style with color := some color }

def blankWords (s : Text) : List Text :=
  (Text.split Text.space (s.map fun c => if Text.isBlank c then Text.space else c)).filter (· ≠ [])

def ofName? (s : Text) : Option Style :=
  (blankWords s).foldlM addWord? {}

end Style

end CheckReport.Terminal

import CheckReport.Terminal.Style

/-!
# Painting

A painter puts styles and links into text, or passes text through if it is disabled. Both are
escape sequences around the text: a style is switched on before it and all styles off after it, and
a link is opened with its target before it and closed after it.
-/

namespace CheckReport.Terminal

def escapeChar : Nat := 0x1B

/-- The sequence that switches on the styles with the given codes. -/
def switchOn (codes : List Nat) : Text :=
  text "\x1b[" ++ Text.join (text ";") (codes.map Text.ofNat) ++ text "m"

def switchOff : Text :=
  text "\x1b[0m"

/-- A text in a style. Empty text and text without style stay as they are. -/
def styled (style : Style) (s : Text) : Text :=
  if s = [] ∨ style.codes = [] then s
  else switchOn style.codes ++ s ++ switchOff

/-- The sequence that opens a link to a target; without a target it closes the link. -/
def openLink (target : Text) : Text :=
  text "\x1b]8;;" ++ target ++ text "\x1b\\"

def linked (target s : Text) : Text :=
  openLink target ++ s ++ openLink []

structure Painter where
  enabled : Bool := false
  deriving DecidableEq, Repr

namespace Painter

/-- A text in a style, as far as the painter is enabled. -/
def paint (painter : Painter) (style : Style) (s : Text) : Text :=
  if painter.enabled then styled style s else s

/-- A text as a link, as far as the painter is enabled. -/
def link (painter : Painter) (target s : Text) : Text :=
  if painter.enabled then linked target s else s

end Painter

/-! ### Removing control sequences -/

def isParameter (c : Nat) : Bool :=
  Text.isDigit c || c == 0x3B || c == 0x3F

def isLetter (c : Nat) : Bool :=
  (0x41 ≤ c && c ≤ 0x5A) || (0x61 ≤ c && c ≤ 0x7A)

/-- The text after a control sequence: `[`, parameters and a letter. -/
def afterControl? : Text → Option Text
  | 0x5B :: s =>
    match s.dropWhile isParameter with
    | c :: rest => if isLetter c then some rest else none
    | [] => none
  | _ => none

theorem length_afterControl? {s rest : Text} (h : afterControl? s = some rest) :
    rest.length < s.length := by
  unfold afterControl? at h
  split at h
  · next s =>
    have hle := (List.dropWhile_sublist isParameter (l := s)).length_le
    split at h
    · next hd =>
      split at h
      · rw [hd, List.length_cons] at hle
        rw [← Option.some.inj h, List.length_cons]
        omega
      · simp at h
    · simp at h
  · simp at h

/-- A text without its control sequences, each found from left to right and removed once. -/
def withoutControls (s : Text) : Text :=
  match s with
  | [] => []
  | c :: s =>
    if c = escapeChar then
      match h : afterControl? s with
      | some rest =>
        have := length_afterControl? h
        withoutControls rest
      | none => c :: withoutControls s
    else c :: withoutControls s
termination_by s.length

end CheckReport.Terminal

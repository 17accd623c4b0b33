import CheckReport.Text.Basic

/-!
# Paths

A path is a root and components. Reading one drops empty components and single dots; double dots
stay, since what they lead to depends on the files. Two leading slashes are a root of their own.
-/

namespace CheckReport

inductive Root where
  | none
  | single
  | double
  deriving DecidableEq, Repr

structure Path where
  root : Root
  parts : List Text
  deriving DecidableEq, Repr

namespace Path

def dot : Text := text "."

def dots : Text := text ".."

def Root.ofSlashes : Nat → Root
  | 0 => .none
  | 2 => .double
  | _ => .single

def Root.toText : Root → Text
  | .none => []
  | .single => [Text.slash]
  | .double => [Text.slash, Text.slash]

def components (s : Text) : List Text :=
  Text.split Text.slash s

def ofText (s : Text) : Path where
  root := Root.ofSlashes (s.takeWhile (· = Text.slash)).length
  parts := (components s).filter fun part => part ≠ [] && part ≠ dot

/-- The text of a path; of the empty path, a dot. -/
def toText (path : Path) : Text :=
  if path.root = .none ∧ path.parts = [] then dot
  else Root.toText path.root ++ Text.join [Text.slash] path.parts

def isAbsolute (path : Path) : Bool :=
  path.root ≠ .none

/-- A path read from a directory. An absolute path does not depend on the directory. -/
def join (directory path : Path) : Path :=
  if path.isAbsolute then path
  else { directory with parts := directory.parts ++ path.parts }

/-- Whether the text of a path is absolute. -/
def isAbsoluteText (s : Text) : Bool :=
  s.head? = some Text.slash

end Path

end CheckReport

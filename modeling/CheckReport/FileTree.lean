import CheckReport.Path.Relative
import CheckReport.Text.Printable
import CheckReport.Text.Utf8

/-!
# File trees

The files that a run sees. A tree lists what is at each place, a place being the components that
lead to it from the root. A path is walked component by component from the working directory; there
are no links. A path that leads nowhere is no fault, a name that is too long is one.
-/

namespace CheckReport

inductive Node where
  | directory
  | file (executable : Bool) (content : Text.Utf8.Bytes)
  deriving DecidableEq, Repr

def Node.isFile : Node → Bool
  | .directory => false
  | .file _ _ => true

def Node.isExecutable : Node → Bool
  | .directory => false
  | .file executable _ => executable

structure FileTree where
  nodes : List (List Text × Node) := []
  deriving DecidableEq, Repr

namespace FileTree

/-- What is at a place. The root is always there. -/
def at? (tree : FileTree) (place : List Text) : Option Node :=
  if place = [] then some .directory
  else (tree.nodes.find? (·.1 = place)).map (·.2)

/-- A tree with a node set at a place, whatever was there. -/
def set (tree : FileTree) (place : List Text) (node : Node) : FileTree :=
  ⟨(place, node) :: tree.nodes.filter (·.1 ≠ place)⟩

/-- A tree with a directory at a place where there was nothing. -/
def ensureDirectory (tree : FileTree) (place : List Text) : FileTree :=
  match tree.at? place with
  | some _ => tree
  | none => tree.set place .directory

/-- A tree with a node put at a place, and the directories that lead there. -/
def put (tree : FileTree) (place : List Text) (node : Node) : FileTree :=
  (((List.range place.length).map place.take).foldl ensureDirectory tree).set place node

theorem at?_set_self {tree : FileTree} {place : List Text} {node : Node} (h : place ≠ []) :
    (tree.set place node).at? place = some node := by
  simp [set, at?, h]

theorem at?_set_of_ne {tree : FileTree} {place other : List Text} {node : Node}
    (h : other ≠ place) : (tree.set place node).at? other = tree.at? other := by
  unfold set at?
  split
  · rfl
  · rw [List.find?_cons_of_neg (by simpa using Ne.symm h), List.find?_filter]
    congr 2
    funext m
    by_cases hm : m.1 = other
    · simp [hm, h]
    · simp [hm]

end FileTree

/-! ### Walking paths -/

structure NameTooLong where
  path : Text
  deriving DecidableEq, Repr

def NameTooLong.message (fault : NameTooLong) : Text :=
  text "[Errno 36] File name too long: " ++ Text.Quoted.quote fault.path

/-- Why a walk does not arrive. -/
inductive Astray where
  | nowhere
  | tooLong
  deriving DecidableEq, Repr

structure Site where
  tree : FileTree
  /-- The working directory. -/
  cwd : Text
  deriving DecidableEq, Repr

namespace Site

/-- The greatest size of a name in bytes. -/
def nameLimit : Nat := 255

/-- The size in bytes from which on a path is too long. -/
def pathLimit : Nat := 4096

def size (s : Text) : Nat :=
  (Text.Utf8.encodeEscaping s).length

/-- Whether a path can be a path: it holds no zero, and no surrogate that stands for no byte. -/
def isPossible (path : Text) : Bool :=
  path.all fun c => c ≠ 0 && Text.Utf8.isGivable c

def walk (tree : FileTree) : List Text → Node → List Text → Except Astray Node
  | _, node, [] => .ok node
  | _, .file _ _, _ :: _ => .error .nowhere
  | here, .directory, part :: parts =>
    if part = [] ∨ part = Path.dot then walk tree here .directory parts
    else if part = Path.dots then walk tree here.dropLast .directory parts
    else if nameLimit < size part then .error .tooLong
    else match tree.at? (here ++ [part]) with
      | none => .error .nowhere
      | some node => walk tree (here ++ [part]) node parts

def place (site : Site) (path : Text) : List Text :=
  Path.resolve site.cwd path

/-- What a path leads to, if anything. -/
def at? (site : Site) (path : Text) : Except NameTooLong (Option Node) :=
  if path = [] ∨ !isPossible path then .ok none
  else if pathLimit ≤ size path then .error ⟨path⟩
  else
    let here := if Path.isAbsoluteText path then [] else site.place []
    match walk site.tree here .directory (Path.components path) with
    | .ok node => .ok (some node)
    | .error .nowhere => .ok none
    | .error .tooLong => .error ⟨path⟩

def exists? (site : Site) (path : Text) : Except NameTooLong Bool :=
  (site.at? path).map (·.isSome)

def isFile (site : Site) (path : Text) : Except NameTooLong Bool :=
  (site.at? path).map (·.any Node.isFile)

def isExecutable (site : Site) (path : Text) : Bool :=
  match site.at? path with
  | .ok (some node) => node.isExecutable
  | _ => false

end Site

/-!
### Trails

Which places a path goes by, which names lead down a tree just as they are written, and trees in which
everything stands in directories.
-/

/-- The places that components go by, from a place on. -/
def Path.trail (here : List Text) : List Text → List (List Text)
  | [] => []
  | part :: parts => enter here part :: trail (enter here part) parts

/-- Whatever a tree holds stands in directories. -/
def FileTree.Connected (tree : FileTree) : Prop :=
  ∀ place parent, (tree.at? place).isSome → parent <+: place → parent ≠ place →
    tree.at? parent = some .directory

namespace Site

/-- The place that a path starts from. -/
def start (site : Site) (path : Text) : List Text :=
  if Path.isAbsoluteText path then [] else site.place []

def trail (site : Site) (path : Text) : List (List Text) :=
  Path.trail (site.start path) (Path.components path)

/-- A name that a directory can hold a node under. -/
def IsName (name : Text) : Prop :=
  (name ≠ [] ∧ name ≠ Path.dot ∧ name ≠ Path.dots) ∧ Text.slash ∉ name ∧
    isPossible name = true ∧ size name ≤ nameLimit

instance (name : Text) : Decidable (IsName name) :=
  inferInstanceAs (Decidable (_ ∧ _))

end Site

end CheckReport

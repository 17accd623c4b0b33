import CheckReport.Number.Layout
import CheckReport.Text.Printable

/-!
# JSON values

Integers and floating point numbers are kept apart, as a document writes them, and an object keeps
its members in document order. `display` is how a message shows a value.
-/

namespace CheckReport.Json

inductive Value where
  | null
  | bool (b : Bool)
  | int (n : Int)
  | float (x : Binary64)
  | str (s : Text)
  | arr (items : List Value)
  | obj (members : List (Text × Value))

/-- Members with the value of a name set: in its place if the name is there, else at the end. -/
def put (name : Text) (v : Value) : List (Text × Value) → List (Text × Value)
  | [] => [(name, v)]
  | (n, w) :: rest => if n = name then (n, v) :: rest else (n, w) :: put name v rest

/-- The members that a document lists: of a name listed twice, the last value in the first place. -/
def members (listed : List (Text × Value)) : List (Text × Value) :=
  listed.foldl (fun ms m => put m.1 m.2 ms) []

namespace Value

def member? (name : Text) (members : List (Text × Value)) : Option Value :=
  (members.find? (·.1 = name)).map (·.2)

/-- The kind of a value, as messages name it. -/
def kind : Value → Text
  | .null => text "NoneType"
  | .bool _ => text "bool"
  | .int _ => text "int"
  | .float _ => text "float"
  | .str _ => text "str"
  | .arr _ => text "list"
  | .obj _ => text "dict"

mutual

def display : Value → Text
  | .null => text "None"
  | .bool true => text "True"
  | .bool false => text "False"
  | .int n => Text.ofInt n
  | .float x => x.display
  | .str s => Text.Quoted.quote s
  | .arr items => text "[" ++ Text.join (text ", ") (displayItems items) ++ text "]"
  | .obj members => text "\x7b" ++ Text.join (text ", ") (displayMembers members) ++ text "\x7d"

def displayItems : List Value → List Text
  | [] => []
  | v :: vs => display v :: displayItems vs

def displayMembers : List (Text × Value) → List Text
  | [] => []
  | (name, v) :: ms => (Text.Quoted.quote name ++ text ": " ++ display v) :: displayMembers ms

end

end Value

end CheckReport.Json

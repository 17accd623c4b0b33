import CheckReport.Json.Fault
import CheckReport.Number.Integer
import CheckReport.Severity
import CheckReport.Text.Utf8

/-!
# Violations

What is wrong with a document that should be a diagnosis: at which place, what the problem is, and
the value found there. A message shows long values by their two ends.
-/

namespace CheckReport

inductive Step where
  | member (name : Text)
  | item (index : Nat)
  deriving DecidableEq, Repr

inductive Record where
  | diagnostic
  | range
  | position
  | endPosition
  deriving DecidableEq, Repr

def Record.name : Record → Text
  | .diagnostic => text "Diagnostic"
  | .range => text "Range"
  | .position => text "Position"
  | .endPosition => text "EndPosition"

inductive Defect where
  | notList
  | notRecord (record : Record)
  /-- A member that a record must have is not there; the value is the record. -/
  | missing
  | notText
  | notInteger
  | badInteger (fault : IntegerFault)
  /-- A numeral with a surrogate that stands alone. -/
  | unpairedSurrogate
  | negative
  | unknownSeverity (fault : UnknownSeverity)

namespace Defect

def kind : Defect → Text
  | .notList => text "list_type"
  | .notRecord _ => text "model_type"
  | .missing => text "missing"
  | .notText => text "string_type"
  | .notInteger => text "int_type"
  | .badInteger .unparsable => text "int_parsing"
  | .badInteger .tooLarge => text "int_parsing_size"
  | .badInteger .notFinite => text "finite_number"
  | .badInteger .fractional => text "int_from_float"
  | .unpairedSurrogate => text "string_unicode"
  | .negative => text "greater_than_equal"
  | .unknownSeverity _ => text "value_error"

def message : Defect → Text
  | .notList => text "Input should be a valid list"
  | .notRecord record =>
    text "Input should be a valid dictionary or instance of " ++ record.name
  | .missing => text "Field required"
  | .notText => text "Input should be a valid string"
  | .notInteger => text "Input should be a valid integer"
  | .badInteger .unparsable =>
    text "Input should be a valid integer, unable to parse string as an integer"
  | .badInteger .tooLarge =>
    text "Unable to parse input string as an integer, exceeded maximum size"
  | .badInteger .notFinite => text "Input should be a finite number"
  | .badInteger .fractional =>
    text "Input should be a valid integer, got a number with a fractional part"
  | .unpairedSurrogate =>
    text "Input should be a valid string, unable to parse raw data as a unicode string"
  | .negative => text "Input should be greater than or equal to 0"
  | .unknownSeverity fault => text "Value error, " ++ fault.message

end Defect

structure Violation where
  path : List Step
  defect : Defect
  value : Json.Value

/-! ### Places -/

namespace Violation

/-- A text that can be written: three replacement characters stand for each surrogate. -/
def writable (s : Text) : Text :=
  s.flatMap fun c => if Text.isSurrogate c then [0xFFFD, 0xFFFD, 0xFFFD] else [c]

/-- A step in a path, with a name that holds the separator between backticks. -/
def stepText : Step → Text
  | .item index => Text.ofNat index
  | .member name => if name.contains 0x2E then 0x60 :: writable name ++ [0x60] else writable name

def pathText (path : List Step) : Text :=
  Text.join (text ".") (path.map stepText)

/-! ### Values -/

/-- The longest start of a text of at most `size` bytes. -/
def start (size : Nat) : Text → Text
  | [] => []
  | c :: s =>
    let width := (Text.Utf8.encodeChar c).length
    if width ≤ size then c :: start (size - width) s else []

/-- The greatest size in bytes at which a value is shown whole. -/
def wholeSize : Nat := 50

/-- The sizes of the two ends of a value that is not shown whole. -/
def startSize : Nat := 25

def stopSize : Nat := 24

/-- A text, or its two ends if it is long. -/
def abridged (s : Text) : Text :=
  if Text.Utf8.size s ≤ wholeSize then s
  else start startSize s ++ text "..." ++ (start stopSize s.reverse).reverse

/-! ### Messages -/

def help : Text :=
  text "For further information visit https://errors.pydantic.dev/2.14/v/"

/-- The lines that tell of a violation, each after a line feed. -/
def report (v : Violation) : Text :=
  text "\n" ++ pathText v.path ++ text "\n  " ++ v.defect.message ++ text " [type=" ++
    v.defect.kind ++ text ", input_value=" ++ abridged v.value.display ++ text ", input_type=" ++
    v.value.kind ++ text "]\n    " ++ help ++ v.defect.kind

/-- How many violations there are of what `subject` should be. -/
def summary (subject : Text) (violations : List Violation) : Text :=
  Text.ofNat violations.length ++ text " validation error" ++
    (if violations.length = 1 then [] else text "s") ++ text " for " ++ subject

end Violation

/-!
### Malformed diagnoses

Why a document is no diagnosis: it is no JSON document, its value is no object, or the object has
violations.
-/

namespace Diagnosis

inductive Malformed where
  | notJson (path : Text) (problem : Json.Problem) (place : Json.Place)
  | notObject (v : Json.Value)
  | violations (all : List Violation)

namespace Malformed

def subject : Text :=
  text "dict[str,list[Diagnostic]]"

def headline : Malformed → Text
  | .notJson path problem place =>
    path ++ text ": invalid JSON: " ++ (Json.Fault.malformed problem place).message
  | .notObject v => text "diagnosis must be a JSON object, got " ++ v.kind
  | .violations all => text "invalid diagnosis: " ++ Violation.summary subject all

def message (fault : Malformed) : Text :=
  match fault with
  | .violations all => fault.headline ++ all.flatMap Violation.report
  | fault => fault.headline

end Malformed

end Diagnosis

end CheckReport

import CheckReport.Diagnosis.Format

/-!
# Offences

Where a value goes wrong as a document of a diagnosis, said place by place: what is expected there,
and what is wrong with what is there. A place is the indices of the parts on the way to it. So places
are ordered as the document is, and within a record as its fields are.
-/

namespace CheckReport

def Violation.under (step : Step) (v : Violation) : Violation :=
  { v with path := step :: v.path }

namespace Diagnosis

open Json (Value)

/-- What is expected at a place of a document. -/
inductive Expected where
  | diagnosis
  | file
  | diagnostic
  | string
  | range
  | position
  | endPosition
  | offset
  | line
  | severity
  deriving DecidableEq, Repr

/-- A part that a value should have: the step to it, what is expected there, and what is there. -/
structure Part where
  step : Step
  expected : Expected
  value : Option Value
  required : Bool := true

def Part.field (members : List (Text × Value)) (name : Text) (expected : Expected)
    (required : Bool := true) : Part where
  step := .member name
  expected := expected
  value := Value.member? name members
  required := required

namespace Expected

def record? : Expected → Option Record
  | .diagnostic => some .diagnostic
  | .range => some .range
  | .position => some .position
  | .endPosition => some .endPosition
  | _ => none

/-- The parts of a value in their order: those of a list or an object as the document has them, those
of a record as its fields are declared. -/
def parts : Expected → Value → List Part
  | .diagnosis, .obj members =>
    members.map fun m => { step := .member m.1, expected := .file, value := some m.2 }
  | .file, .arr vs =>
    vs.zipIdx.map fun v => { step := .item v.2, expected := .diagnostic, value := some v.1 }
  | .diagnostic, .obj members =>
    [.field members (text "code") .string, .field members (text "message") .string,
      .field members (text "range") .range, .field members (text "severity") .severity]
  | .range, .obj members =>
    [.field members (text "start") .position, .field members (text "end") .endPosition]
  | .position, .obj members =>
    [.field members (text "line") .offset, .field members (text "character") .offset]
  | .endPosition, .obj members =>
    [.field members (text "line") .line false, .field members (text "character") .offset]
  | _, _ => []

end Expected

/-- What is wrong with a value itself, its parts apart. -/
inductive Wrong : Expected → Value → Defect → Prop where
  | notList {v : Value} (other : ∀ vs, v ≠ .arr vs) : Wrong .file v .notList
  | notRecord {expected : Expected} {record : Record} {v : Value}
      (named : expected.record? = some record) (other : ∀ members, v ≠ .obj members) :
      Wrong expected v (.notRecord record)
  | notText {v : Value} (other : ∀ s, v ≠ .str s) : Wrong .string v .notText
  | notOffset {v : Value} {defect : Defect} (fails : integer v = .error defect) :
      Wrong .offset v defect
  | negative {v : Value} {n : Int} (whole : integer v = .ok n) (below : n < 0) :
      Wrong .offset v .negative
  | line {v : Value} {defect : Defect} (other : v ≠ .null) (wrong : Wrong .offset v defect) :
      Wrong .line v defect
  | severity {v : Value} (other : ∀ severity : Severity, v ≠ .int severity.rank) :
      Wrong .severity v (.unknownSeverity ⟨v⟩)

/-- The indices of the parts on the way to a place. -/
abbrev Place := List Nat

/-- A value has an offence at a place: it is wrong itself, a part that it must have is not there, or
a part has an offence. -/
inductive Offends : Expected → Value → Place → Violation → Prop where
  | whole {expected : Expected} {v : Value} {defect : Defect} (wrong : Wrong expected v defect) :
      Offends expected v [] ⟨[], defect, v⟩
  | missing {expected : Expected} {v : Value} {i : Nat} {part : Part}
      (found : (expected.parts v)[i]? = some part) (required : part.required = true)
      (absent : part.value = none) : Offends expected v [i] ⟨[part.step], .missing, v⟩
  | part {expected : Expected} {v w : Value} {i : Nat} {part : Part} {place : Place}
      {violation : Violation} (found : (expected.parts v)[i]? = some part)
      (there : part.value = some w) (inside : Offends part.expected w place violation) :
      Offends expected v (i :: place) (violation.under part.step)

/-- Some violations are all those of a kind, one for each place, in the order of the places. -/
def Lists (kind : Place → Violation → Prop) (all : List Violation) : Prop :=
  ∃ found : List (Place × Violation), found.map (·.2) = all ∧
    found.Pairwise (fun a b => a.1 < b.1) ∧
    ∀ place violation, (place, violation) ∈ found ↔ kind place violation

/-- Why a value stands for no diagnosis: it is no object, or it has offences. They are all told, in
the order of their places, and where no member is named twice, no path is. -/
inductive Refused : Value → Malformed → Prop where
  | notObject {v : Value} (other : ∀ members, v ≠ .obj members) : Refused v (.notObject v)
  | violations {members : List (Text × Value)} {all : List Violation} (some : all ≠ [])
      (listed : Lists (Offends .diagnosis (.obj members)) all)
      (once : (members.map Prod.fst).Nodup → (all.map Violation.path).Nodup) :
      Refused (.obj members) (.violations all)

end Diagnosis

end CheckReport

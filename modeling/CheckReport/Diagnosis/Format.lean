import CheckReport.Diagnosis.Shape

/-!
# The format of a diagnosis

Which values stand for which diagnoses, said as relations: records have the members they need, with
values that stand for the fields, and whatever else; lists stand for lists, item by item.
-/

namespace CheckReport.Diagnosis

open Json (Value)

/-- A member that stands for a line or character. -/
def HasOffset (name : Text) (n : Nat) (members : List (Text × Value)) : Prop :=
  ∃ v, Value.member? name members = some v ∧ integer v = .ok (n : Int)

/-- A member that stands for the line of an end position: absent, null, or a line. -/
inductive HasLine (members : List (Text × Value)) : Option Nat → Prop where
  | absent (h : Value.member? (text "line") members = none) : HasLine members none
  | null (h : Value.member? (text "line") members = some .null) : HasLine members none
  | line {n : Nat} (h : HasOffset (text "line") n members) : HasLine members (some n)

inductive DenotesPosition : Value → Position → Prop where
  | mk {members : List (Text × Value)} {p : Position}
      (line : HasOffset (text "line") p.line members)
      (character : HasOffset (text "character") p.character members) :
      DenotesPosition (.obj members) p

inductive DenotesEndPosition : Value → EndPosition → Prop where
  | mk {members : List (Text × Value)} {p : EndPosition} (line : HasLine members p.line)
      (character : HasOffset (text "character") p.character members) :
      DenotesEndPosition (.obj members) p

inductive DenotesRange : Value → Range → Prop where
  | mk {members : List (Text × Value)} {range : Range} {start stop : Value}
      (start_mem : Value.member? (text "start") members = some start)
      (stop_mem : Value.member? (text "end") members = some stop)
      (start_eq : DenotesPosition start range.start)
      (stop_eq : DenotesEndPosition stop range.stop) : DenotesRange (.obj members) range

inductive DenotesDiagnostic : Value → Diagnostic → Prop where
  | mk {members : List (Text × Value)} {d : Diagnostic} {range : Value}
      (code : Value.member? (text "code") members = some (.str d.code))
      (message : Value.member? (text "message") members = some (.str d.message))
      (range_mem : Value.member? (text "range") members = some range)
      (range_eq : DenotesRange range d.range)
      (severity : Value.member? (text "severity") members = some (.int d.severity.rank)) :
      DenotesDiagnostic (.obj members) d

inductive DenotesAll : List Value → List Diagnostic → Prop where
  | nil : DenotesAll [] []
  | cons {v : Value} {d : Diagnostic} {vs : List Value} {ds : List Diagnostic}
      (first : DenotesDiagnostic v d) (rest : DenotesAll vs ds) : DenotesAll (v :: vs) (d :: ds)

inductive DenotesFiles : List (Text × Value) → Diagnosis → Prop where
  | nil : DenotesFiles [] []
  | cons {uri : Text} {vs : List Value} {ds : List Diagnostic} {members : List (Text × Value)}
      {diagnosis : Diagnosis} (first : DenotesAll vs ds) (rest : DenotesFiles members diagnosis) :
      DenotesFiles ((uri, .arr vs) :: members) ((uri, ds) :: diagnosis)

/-- Whether a value stands for a diagnosis. -/
inductive Denotes : Value → Diagnosis → Prop where
  | mk {members : List (Text × Value)} {diagnosis : Diagnosis}
      (files : DenotesFiles members diagnosis) : Denotes (.obj members) diagnosis

end CheckReport.Diagnosis

import CheckReport.Diagnosis.Basic
import CheckReport.Json.Printer

/-!
# Documents of diagnoses

A diagnosis as a value, the way the language server writes one. Records can have further members
after those that they need.
-/

namespace CheckReport

open Json (Value)

def Position.toValue (p : Position) : Value :=
  .obj [(text "line", .int p.line), (text "character", .int p.character)]

/-- The line of an end position: left out, null, or given. -/
def EndPosition.toValue (p : EndPosition) (showNull : Bool) : Value :=
  match p.line with
  | some line => .obj [(text "line", .int line), (text "character", .int p.character)]
  | none =>
    if showNull then .obj [(text "line", .null), (text "character", .int p.character)]
    else .obj [(text "character", .int p.character)]

def Range.toValue (range : Range) (showNull : Bool) : Value :=
  .obj [(text "start", range.start.toValue), (text "end", range.stop.toValue showNull)]

def Diagnostic.members (d : Diagnostic) (showNull : Bool) : List (Text × Value) :=
  [(text "code", .str d.code), (text "message", .str d.message),
    (text "range", d.range.toValue showNull), (text "severity", .int d.severity.rank)]

/-- How a diagnostic is written: whether a missing end line is null, and its further members. -/
structure Diagnostic.Form where
  showNull : Bool := false
  extra : List (Text × Value) := []

def Diagnostic.toValue (d : Diagnostic) (form : Diagnostic.Form) : Value :=
  .obj (d.members form.showNull ++ form.extra)

abbrev Diagnosis.Formed := List (Text × List (Diagnostic × Diagnostic.Form))

namespace Diagnosis.Formed

def diagnosis (formed : Diagnosis.Formed) : Diagnosis :=
  formed.map fun file => (file.1, file.2.map (·.1))

def toValue (formed : Diagnosis.Formed) : Value :=
  .obj (formed.map fun file => (file.1, .arr (file.2.map fun d => d.1.toValue d.2)))

end Diagnosis.Formed

/-!
### What diagnoses are written as

Which values a diagnosis is written as, said as relations: a record by its members in any order, a
diagnostic with other members among its own, lists and files in their order.
-/

namespace Diagnosis

inductive WritesPosition : Value → Position → Prop where
  | mk {members : List (Text × Value)} {p : Position}
      (order : members.Perm [(text "line", .int p.line), (text "character", .int p.character)]) :
      WritesPosition (.obj members) p

/-- The line of an end position is given, null, or left out. -/
inductive WritesEndPosition : Value → EndPosition → Prop where
  | line {members : List (Text × Value)} {line character : Nat}
      (order : members.Perm [(text "line", .int line), (text "character", .int character)]) :
      WritesEndPosition (.obj members) ⟨some line, character⟩
  | null {members : List (Text × Value)} {character : Nat}
      (order : members.Perm [(text "line", .null), (text "character", .int character)]) :
      WritesEndPosition (.obj members) ⟨none, character⟩
  | absent {members : List (Text × Value)} {character : Nat}
      (order : members.Perm [(text "character", .int character)]) :
      WritesEndPosition (.obj members) ⟨none, character⟩

inductive WritesRange : Value → Range → Prop where
  | mk {members : List (Text × Value)} {range : Range} {start stop : Value}
      (start_eq : WritesPosition start range.start) (stop_eq : WritesEndPosition stop range.stop)
      (order : members.Perm [(text "start", start), (text "end", stop)]) :
      WritesRange (.obj members) range

/-- The names of the members that a diagnostic needs. -/
def fields : List Text :=
  [text "code", text "message", text "range", text "severity"]

inductive WritesDiagnostic : Value → Diagnostic → Prop where
  | mk {members extra : List (Text × Value)} {d : Diagnostic} {range : Value}
      (range_eq : WritesRange range d.range) (foreign : ∀ m ∈ extra, m.1 ∉ fields)
      (order : members.Perm ([(text "code", .str d.code), (text "message", .str d.message),
        (text "range", range), (text "severity", .int d.severity.rank)] ++ extra)) :
      WritesDiagnostic (.obj members) d

inductive WritesFiles : List (Text × Value) → Diagnosis → Prop where
  | nil : WritesFiles [] []
  | cons {uri : Text} {vs : List Value} {ds : List Diagnostic} {members : List (Text × Value)}
      {diagnosis : Diagnosis} (first : List.Forall₂ WritesDiagnostic vs ds)
      (rest : WritesFiles members diagnosis) :
      WritesFiles ((uri, .arr vs) :: members) ((uri, ds) :: diagnosis)

/-- Whether a diagnosis is written as a value. -/
inductive Writes : Value → Diagnosis → Prop where
  | mk {members : List (Text × Value)} {diagnosis : Diagnosis}
      (files : WritesFiles members diagnosis) : Writes (.obj members) diagnosis

/-- The URIs, codes and messages of a diagnosis are texts of characters, without surrogates. -/
def Scalar (diagnosis : Diagnosis) : Prop :=
  ∀ file ∈ diagnosis, (∀ c ∈ file.1, Text.IsScalar c) ∧
    ∀ d ∈ file.2, (∀ c ∈ d.code, Text.IsScalar c) ∧ ∀ c ∈ d.message, Text.IsScalar c

instance (diagnosis : Diagnosis) : Decidable diagnosis.Scalar :=
  inferInstanceAs (Decidable (∀ file ∈ diagnosis, _ ∧ ∀ d ∈ file.2, _ ∧ _))

end Diagnosis

end CheckReport

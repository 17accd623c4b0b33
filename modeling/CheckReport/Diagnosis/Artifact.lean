import CheckReport.Diagnosis.Shape
import CheckReport.FileTree
import CheckReport.Json.Reader

/-!
# Artifacts

The language server writes a diagnosis into a file, its artifact: UTF-8, in it a JSON document, and
in that the diagnosis. Line breaks of every kind are read as line feeds.
-/

namespace CheckReport.Artifact

open Diagnosis (Malformed)
open Text.Utf8 (Bytes)

/-- What keeps the text or the value of an artifact from being read at all. -/
inductive Unreadable where
  | notText (fault : Text.Utf8.Fault)
  | tooDeep
  | tooManyDigits (digits : Nat)
  | absent (path : Text)
  deriving DecidableEq, Repr

def Unreadable.message : Unreadable → Text
  | .notText fault => fault.message
  | .tooDeep => Json.Fault.tooDeep.message
  | .tooManyDigits digits => (Json.Fault.tooManyDigits digits).message
  | .absent path => text "[Errno 2] No such file or directory: " ++ Text.Quoted.quote path

inductive Fault where
  | malformed (fault : Malformed)
  | unreadable (fault : Unreadable)

/-- A text with a line feed for each line break: carriage return, line feed, or both in this
order. -/
def withLineFeeds : Text → Text
  | [] => []
  | [c] => if c = 0x0D then [Text.newline] else [c]
  | c :: d :: s =>
    if c = 0x0D then
      if d = Text.newline then Text.newline :: withLineFeeds s
      else Text.newline :: withLineFeeds (d :: s)
    else c :: withLineFeeds (d :: s)

variable [Platform]

/-- The value of a document that stands in the file at a path. -/
def value (path document : Text) : Except Fault Json.Value :=
  match Json.read document with
  | .ok v => .ok v
  | .error (.malformed problem place) => .error (.malformed (.notJson path problem place))
  | .error .tooDeep => .error (.unreadable .tooDeep)
  | .error (.tooManyDigits digits) => .error (.unreadable (.tooManyDigits digits))

def read (path : Text) (content : Bytes) : Except Fault Diagnosis := do
  let document ← (Text.Utf8.decode content).mapError fun fault => .unreadable (.notText fault)
  let v ← value path (withLineFeeds document)
  (Diagnosis.ofValue v).mapError .malformed

def load (site : Site) (path : Text) : Except Fault Diagnosis :=
  match site.at? path with
  | .ok (some (.file _ content)) => read path content
  | _ => .error (.unreadable (.absent path))

end CheckReport.Artifact

import CheckReport.Terminal.Notice
import CheckReport.Terminal.Token

/-!
# Messages of failure

A message is a text or a notice with styles of its own. It is written to standard error, by the console
that has colour or the one that has none. What it reads as without colour is said here on its text
alone: the parts do not matter, nor do their styles.
-/

namespace CheckReport.Terminal

/-- The text of parts that stand one after the other. -/
def Notice.content (parts : List Part) : Text :=
  parts.flatMap (·.text)

inductive Message where
  | bare (s : Text)
  | parts (notice : Notice)
  deriving DecidableEq, Repr

/-- What is written to the two standard streams. -/
structure Output where
  stdout : Text := []
  stderr : Text := []
  deriving DecidableEq, Repr

namespace Message

def content : Message → Text
  | .bare s => s
  | .parts notice => Notice.content notice

/-- A message as it is put on a console. A text without parts is red where there is colour. -/
def notice (color : Bool) : Message → Notice
  | .bare s => [⟨s, if color then .ofColor .red else {}⟩]
  | .parts notice => notice

end Message

/-- A notice as it is written by a console, to the stream of that console. -/
def Console.print (console : Console) (notice : Notice) : Output :=
  let written := notice.render console.painter
  if console.stderr then { stderr := written } else { stdout := written }

namespace Consoles

/-- A message of failure, with the consoles that are there after it. -/
def fail (consoles : Consoles) (color : Bool) (message : Message) : Output × Consoles :=
  let (n, consoles) := consoles.get { color := color }
  let output := match consoles[n]? with
    | none => {}
    | some console => console.print (message.notice color)
  (output, consoles)

/-- The consoles after messages of failure one after another, each with or without colour. -/
def failAll (consoles : Consoles) (calls : List (Bool × Message)) : Consoles :=
  calls.foldl (fun consoles call => (consoles.fail call.1 call.2).2) consoles

end Consoles

/-! ### Without colour -/

namespace Notice

/-- A text in which tabs are spaces. `column` is the cell after the last tab stop and `stretch` what
stands after it. -/
def expandText : Nat → Text → Text → Text
  | _, _, [] => []
  | column, stretch, c :: s =>
    if c = tab then
      let width := column + Text.cells (stretch ++ [Text.space])
      let fill := tabSpaces width
      Text.spaces fill ++ expandText (width + fill - 1) [] s
    else c :: expandText column (stretch ++ [c]) s

/-- A text as it is written without colour: some control characters left out, tabs as spaces, and a
line feed after every line. -/
def written (s : Text) : Text :=
  (Text.lines (s.filter (!isDropped ·))).flatMap fun line => expandText 0 [] line ++ [Text.newline]

/-- Whether a text has neither tabs nor characters that are left out. -/
def IsVerbatim (s : Text) : Prop :=
  ∀ c ∈ s, c ≠ tab ∧ isDropped c = false

instance (s : Text) : Decidable (IsVerbatim s) :=
  inferInstanceAs (Decidable (∀ c ∈ s, _))

end Notice

/-- How a message reads that is told with and without colour. -/
structure Message.Reads (message : Message) (told : Bool → Output) : Prop where
  /-- Nothing is written to standard output. -/
  quiet : ∀ color, (told color).stdout = []
  /-- Colour changes nothing that is seen. -/
  seen : visible (told true).stderr = (told false).stderr
  /-- The sequences that colour adds are styles alone. -/
  unlinked : targets (told true).stderr = []
  /-- Without colour the text decides what is written. -/
  plain : (told false).stderr = Notice.written message.content
  /-- A text without tabs and characters that are left out is written as it is. -/
  verbatim : Notice.IsVerbatim message.content →
    (told false).stderr = message.content ++ [Text.newline]

end CheckReport.Terminal

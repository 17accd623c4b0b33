import CheckReport.Server.Check
import CheckReport.Terminal.Notice

/-!
# Sessions

What runs in one process share: the files, the painter that was installed last, the log, and the
consoles that were made. A painter that cannot be made leaves the installed one as it is.
-/

namespace CheckReport

open Server (Host Behaviour Request CheckRun Failure)
open Terminal (ModeChoice Environment Stream Painter Notice)

structure Session where
  site : Site
  painter : Painter := {}
  /-- The log is on. -/
  verbose : Bool := false
  /-- The outlets of the log, each of which writes every line. -/
  outlets : Nat := 0
  consoles : Terminal.Consoles := []
  deriving DecidableEq, Repr

namespace Session

inductive SetupFault where
  | unknownMode (fault : Terminal.UnknownMode)
  | brokenStream (fault : Terminal.BrokenStream)
  deriving DecidableEq, Repr

def painterFor (choice : ModeChoice) (environment : Environment) (stream : Stream) :
    Except SetupFault Painter := do
  let mode ← choice.mode.mapError .unknownMode
  (Painter.ofMode mode environment stream).mapError .brokenStream

def install (session : Session) (painter : Painter) : Session :=
  { session with painter := painter }

/-- A session in which the painter for a mode is installed. -/
def setup (session : Session) (choice : ModeChoice) (environment : Environment) (stream : Stream) :
    Except SetupFault Session :=
  (painterFor choice environment stream).map session.install

def withTree (session : Session) (tree : FileTree) : Session :=
  { session with site := { session.site with tree := tree } }

/-- A session in which the log is on, if that is wanted. A log that is on gets no other outlet. -/
def withLog (session : Session) (wanted : Bool) : Session :=
  { session with
    verbose := session.verbose || wanted
    outlets := if wanted && !session.verbose then session.outlets + 1 else session.outlets }

/-- Lines as the log writes them, as far as it is on. -/
def logged (session : Session) (lines : List Text) : Text :=
  if session.verbose then lines.flatMap fun line => (List.replicate session.outlets line).flatten
  else []

/-- A notice as it is written to standard error, by the console that goes with the painter. -/
def tell (session : Session) (notice : Notice) : Text × Session :=
  let (n, consoles) := session.consoles.get { color := session.painter.enabled }
  let written := match consoles[n]? with
    | none => []
    | some console => notice.render console.painter
  (written, { session with consoles := consoles })

/-- Which consoles were made before does not matter to what is written. -/
theorem tell_fst (session : Session) (notice : Notice) :
    (session.tell notice).1 = notice.render session.painter := by
  have given := Terminal.Consoles.getElem?_get session.consoles { color := session.painter.enabled }
  simp only [tell, given]
  rfl

def host (session : Session) (environment : Environment) : Host :=
  ⟨session.site, environment⟩

def check [Platform] (session : Session) (environment : Environment) (behaviour : Behaviour)
    (request : Request) : CheckRun × Session :=
  let run := Server.check (session.host environment) behaviour request
  (run, session.withTree run.tree)

end Session

/-- The notice of a failed run: the command, and on the next line what the run wrote. -/
def Server.Failure.notice (failure : Failure) : Notice :=
  [⟨text "Command failed: ", .ofColor .red⟩, ⟨failure.commandLine, .ofColor .yellow⟩] ++
    if failure.stderr = [] then []
    else [⟨[Text.newline], {}⟩, ⟨failure.stderr, {}⟩]

/-- A message of failure without parts of its own, all in red. -/
def Terminal.Notice.failure (message : Text) : Notice :=
  [⟨message, .ofColor .red⟩]

end CheckReport

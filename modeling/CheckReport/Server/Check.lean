import CheckReport.Server.Run

/-!
# Checks

A check runs the server on a workspace and reads the diagnosis it writes. The server ends with a
status other than zero also where it only found problems, so a written diagnosis counts first, and
the status only where there is none. Each check has an output directory of its own.
-/

namespace CheckReport.Server

open Diagnosis (Malformed)
open Artifact (Unreadable)

inductive Outcome where
  | diagnosis
  | noDiagnosis
  | failed
  deriving DecidableEq, Repr

namespace Outcome

def of (status : Int) (artifact : Bool) : Outcome :=
  if artifact then .diagnosis
  else if status = 0 then .noDiagnosis
  else .failed

def name : Outcome → Text
  | .diagnosis => text "diagnosis"
  | .noDiagnosis => text "no-diagnosis"
  | .failed => text "failed"

end Outcome

/-! ### Output directories -/

def outputPlace (n : Nat) : List Text :=
  [text "tmp", text "llscheck-" ++ Layout.padded 8 (Text.ofNat n)]

/-- The least number of which there is no output directory. As there are more numbers to try than
nodes, one of them is free. -/
def freshNumber (tree : FileTree) : Nat :=
  ((List.range (tree.nodes.length + 1)).find? fun n => (tree.at? (outputPlace n)).isNone).getD 0

/-! ### Checking -/

structure Request where
  workspace : Path
  level : Severity := .warning
  configPath : Option Path := none
  executable : Text := defaultExecutable
  timeout : Option Binary64 := none
  deriving DecidableEq, Repr

/-- What is asked of the server, with its output in the given place. -/
def Request.invocation (request : Request) (place : List Text) : Invocation where
  workspace := request.workspace
  level := request.level
  outputDirectory := ⟨.single, place⟩
  configPath := request.configPath
  executable := request.executable

inductive CheckFault where
  | failed (failure : Failure)
  | malformed (fault : Malformed)
  | unreadable (fault : Unreadable)
  | notRun (fault : RunFault)

structure CheckRun where
  /-- The diagnosis; nothing if the run succeeded without one. -/
  result : Except CheckFault (Option Diagnosis)
  calls : List Call
  tree : FileTree
  /-- What a log tells of the check. -/
  log : List Text

/-- The status of a command whose executable is not there. -/
def missingStatus : Int := 127

/-- The diagnosis that a finished run of a command gives. -/
def answer [Platform] (command : List Text) (site : Site) (artifactPath : Text) (outcome : Outcome)
    (finished : Finished) : Except CheckFault (Option Diagnosis) :=
  match outcome with
  | .failed => .error (.failed (.of command finished.status finished.stderr))
  | .noDiagnosis => .ok none
  | .diagnosis =>
    match Artifact.load site artifactPath with
    | .ok diagnosis => .ok (some diagnosis)
    | .error (.malformed fault) => .error (.malformed fault)
    | .error (.unreadable fault) => .error (.unreadable fault)

/-- The fault of a command that was not run. That there is no executable is a failure of the
command. -/
def notRun (command : List Text) (fault : RunFault) : CheckFault :=
  match fault with
  | .notFound _ => .failed (.of command missingStatus fault.message)
  | .missing _ => .failed (.of command missingStatus fault.message)
  | fault => .notRun fault

def isWritten (site : Site) (path : Text) : Bool :=
  match site.isFile path with
  | .ok answer => answer
  | .error _ => false

def runningLine (command : List Text) : Text :=
  text "running " ++ Text.Shell.joinWords command

def exitLine (status : Int) (outcome : Outcome) : Text :=
  text "exit status " ++ Text.ofInt status ++ text ", outcome " ++ outcome.name

/-- What comes of a check by a run of the server at a site. -/
def CheckRun.ofRun [Platform] (invocation : Invocation) (site : Site) (run : Run) : CheckRun :=
  let command := invocation.command
  match run.result with
  | .error fault => ⟨.error (notRun command fault), run.calls, run.tree, [runningLine command]⟩
  | .ok finished =>
    let after := { site with tree := run.tree }
    let outcome := Outcome.of finished.status (isWritten after invocation.artifactPath)
    ⟨answer command after invocation.artifactPath outcome finished, run.calls, run.tree,
      [runningLine command, exitLine finished.status outcome]⟩

/-- A host with a directory put at a place. -/
def Host.withDirectory (host : Host) (place : List Text) : Host :=
  { host with site := { host.site with tree := host.site.tree.put place .directory } }

/-- The check that a request asks for, with its output in the given place. -/
def checkIn [Platform] (place : List Text) (host : Host) (behaviour : Behaviour)
    (request : Request) : CheckRun :=
  let invocation := request.invocation place
  let host := host.withDirectory place
  .ofRun invocation host.site (run host behaviour request.timeout invocation.command)

/-- The place for the output of the next check. -/
def Host.nextOutput (host : Host) : List Text :=
  outputPlace (freshNumber host.site.tree)

def check [Platform] (host : Host) (behaviour : Behaviour) (request : Request) : CheckRun :=
  checkIn host.nextOutput host behaviour request

end CheckReport.Server

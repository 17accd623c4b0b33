import CheckReport.CommandLine.Options
import CheckReport.Report.Basic
import CheckReport.Session

/-!
# Command lines

A run of a command line checks the workspace and writes the report. It ends with a status: whether
there are problems, or that there is no report to look at. A command line that cannot be read, or
that gives settings which are refused, is a mistake in usage: nothing is run.
-/

namespace CheckReport.CommandLine

open Server (Behaviour CheckFault)
open Terminal (Environment Stream Painter Notice)

inductive Crash where
  /-- The settings could not be read to the end. -/
  | interrupted (cause : Settings.Interruption)
  | unreadable (fault : Artifact.Unreadable)
  | notRun (fault : Server.RunFault)
  | unwritableNumber (fault : Report.UnwritableNumber)
  /-- The terminal could not be asked. -/
  | brokenStream (fault : Terminal.BrokenStream)
  deriving DecidableEq, Repr

def Crash.message : Crash → Text
  | .interrupted cause => cause.message
  | .unreadable fault => fault.message
  | .notRun fault => fault.message
  | .unwritableNumber fault => fault.message
  | .brokenStream fault => fault.message

inductive Ending where
  | status (code : Nat)
  | crash (cause : Crash)
  deriving DecidableEq, Repr

def cleanStatus : Nat := 0

def problemStatus : Nat := 1

/-- The command line cannot be used. -/
def usageStatus : Nat := 2

def failureStatus : Nat := 255

/-- How a run ends whose settings are refused. -/
def endingOf : Settings.Refusal → Ending
  | .faults _ => .status usageStatus
  | .interrupted cause => .crash (.interrupted cause)

structure Result where
  ending : Ending
  stdout : Text := []
  stderr : Text := []
  calls : List Server.Call := []
  deriving DecidableEq, Repr

/-! ### Messages -/

/-- A line of the log, with the part of the program that wrote it. -/
def logLine (origin line : Text) : Text :=
  origin ++ text ": " ++ line ++ [Text.newline]

def checkOrigin : Text := text "llscheck.checker"

def commandOrigin : Text := text "llscheck.cli.app"

def unwrittenLine (workspace : Path) : Text :=
  text "no diagnosis written for " ++ workspace.toText

def checkLog (lines : List Text) : List Text :=
  lines.map (logLine checkOrigin)

def malformedNotice (fault : Diagnosis.Malformed) : Notice :=
  Notice.failure (text "Malformed diagnosis: " ++ fault.message)

/-! ### The report -/

/-- A report as standard output takes it: control sequences only from a painter that is enabled. -/
def printed (painter : Painter) (report : Report) : Text :=
  let s := report.toText painter
  (if painter.enabled then s else Terminal.withoutControls s) ++ [Text.newline]

def reportStatus (report : Report) : Nat :=
  if report.stats.total = 0 then cleanStatus else problemStatus

def reported (painter : Painter) (cwd : Text) (diagnosis : Diagnosis) : Ending × Text :=
  match Report.ofDiagnosis cwd diagnosis with
  | .error fault => (.crash (.unwritableNumber fault), [])
  | .ok report => (.status (reportStatus report), printed painter report)

/-! ### Runs -/

/-- What a run makes of the answer of a check: how it ends, the output, the lines of the log beyond
those of the check, and the notice, if there is one. -/
def conclude (painter : Painter) (cwd : Text) (workspace : Path)
    (answer : Except CheckFault (Option Diagnosis)) :
    Ending × Text × List Text × Option Notice :=
  match answer with
  | .error (.failed failure) => (.status failureStatus, [], [], some failure.notice)
  | .error (.malformed fault) => (.status failureStatus, [], [], some (malformedNotice fault))
  | .error (.unreadable fault) => (.crash (.unreadable fault), [], [], none)
  | .error (.notRun fault) => (.crash (.notRun fault), [], [], none)
  | .ok none =>
    (.status cleanStatus, [], [logLine commandOrigin (unwrittenLine workspace)], none)
  | .ok (some diagnosis) =>
    let (ending, output) := reported painter cwd diagnosis
    (ending, output, [], none)

/-- A notice, if there is one, as it is written. -/
def tellAny (session : Session) : Option Notice → Text × Session
  | none => ([], session)
  | some notice => session.tell notice

theorem tellAny_fst (session : Session) (notice : Option Notice) :
    (tellAny session notice).1 = notice.elim [] (Notice.render session.painter) := by
  cases notice with
  | none => rfl
  | some notice => exact session.tell_fst notice

section

variable [Platform]

def runWith (session : Session) (environment : Environment) (behaviour : Behaviour)
    (settings : Settings) : Result × Session :=
  let (run, after) := session.check environment behaviour settings.request
  let (ending, output, log, notice) :=
    conclude session.painter session.site.cwd settings.workspace run.result
  let (told, after) := tellAny after notice
  ({ ending := ending
     stdout := output
     stderr := session.logged (checkLog run.log ++ log) ++ told
     calls := run.calls }, after)

/-- A run of a command line. The log is switched on as soon as the command line is read, the painter
is installed once the settings stand. -/
def run (session : Session) (environment : Environment) (stream : Stream) (behaviour : Behaviour)
    (words : List Text) : Result × Session :=
  match Options.read? session.site environment words with
  | none => ({ ending := .status usageStatus }, session)
  | some options =>
    let session := session.withLog options.verbose
    match Settings.ofValues session.site options.values with
    | .error refusal => ({ ending := endingOf refusal }, session)
    | .ok settings =>
      match Painter.ofMode settings.color environment stream with
      | .error fault => ({ ending := .crash (.brokenStream fault) }, session)
      | .ok painter => runWith (session.install painter) environment behaviour settings

end

end CheckReport.CommandLine

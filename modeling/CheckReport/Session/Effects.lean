import CheckReport.CommandLine.Log
import CheckReport.Server.Series
import CheckReport.Session.Action

/-!
# What actions do to a session

Which actions switch the log of a session on, and which install a painter in it or leave the one that is
installed. Checks one after another in a session are a series.
-/

namespace CheckReport.Session

open Server (Behaviour Round CheckRun)
open Terminal (ColorMode ModeChoice Environment Stream Painter)

/-! ### The log -/

/-- The log has no outlet until it is on, and one from then on. Nothing switches it off. -/
def OneOutlet (session : Session) : Prop :=
  session.outlets = if session.verbose then 1 else 0

section

variable [Platform]

/-- A command line that can be read and asks for the log switches it on. -/
inductive SwitchesOn (session : Session) : Action → Prop where
  | commandLine {environment : Environment} {words : List Text} {options : CommandLine.Options}
      (stream : Stream) (behaviour : Behaviour)
      (read : CommandLine.Options.read? session.site environment words = some options)
      (asked : options.verbose = true) :
      SwitchesOn session (.commandLine environment stream behaviour words)

/-- An action leaves the log as one that asks for it does, or as one that does not. -/
structure Wants (session : Session) (action : Action) (wanted : Bool) : Prop where
  switches : wanted = true ↔ session.SwitchesOn action
  verbose : (session.act action).2.verbose = (session.withLog wanted).verbose
  outlets : (session.act action).2.outlets = (session.withLog wanted).outlets

/-- One of some actions, taken one after another, switches the log on. -/
def Heard (session : Session) (actions : List Action) : Prop :=
  ∃ before action after, actions = before ++ action :: after ∧
    (session.actAll before).2.SwitchesOn action

/-! ### Installations -/

/-- An action asks for the painter of a mode, in an environment and for a stream: a setup with a mode
that there is, or with the truth value for one, or a command line whose settings stand. -/
inductive Asks (session : Session) : Action → ColorMode → Environment → Stream → Prop where
  | name (mode : ColorMode) (environment : Environment) (stream : Stream) :
      Asks session (.setup (.name mode.name) environment stream) mode environment stream
  | on (environment : Environment) (stream : Stream) :
      Asks session (.setup (.flag true) environment stream) .always environment stream
  | off (environment : Environment) (stream : Stream) :
      Asks session (.setup (.flag false) environment stream) .never environment stream
  | commandLine {environment : Environment} {words : List Text} {options : CommandLine.Options}
      {settings : Settings} (stream : Stream) (behaviour : Behaviour)
      (read : CommandLine.Options.read? session.site environment words = some options)
      (valid : Settings.ofValues session.site options.values = .ok settings) :
      Asks session (.commandLine environment stream behaviour words) settings.color environment
        stream

/-- An action installs the painter that it asks for, as far as this can be made. -/
def Installs (session : Session) (action : Action) (mode : ColorMode) (environment : Environment)
    (stream : Stream) : Prop :=
  session.Asks action mode environment stream ∧
    ∃ painter, Painter.ofMode mode environment stream = .ok painter

/-- None of some actions, taken one after another, installs a painter. -/
def Uninstalled (session : Session) (actions : List Action) : Prop :=
  ∀ before action after, actions = before ++ action :: after → ∀ mode environment stream,
    ¬ (session.actAll before).2.Installs action mode environment stream

/-- What leaves the installed painter as it is. -/
inductive Keeps (session : Session) : Action → Prop where
  | unknownMode {mode : Text} (environment : Environment) (stream : Stream)
      (unknown : ∀ known, mode ≠ ColorMode.name known) :
      Keeps session (.setup (.name mode) environment stream)
  | brokenStream {mode : ColorMode} {environment : Environment} {stream : Stream}
      {fault : Terminal.BrokenStream} (broken : Painter.ofMode mode environment stream = .error fault) :
      Keeps session (.setup (.name mode.name) environment stream)
  | usage {environment : Environment} {stream : Stream} {behaviour : Behaviour} {words : List Text}
      (refused : (CommandLine.run session environment stream behaviour words).1.ending = .status 2) :
      Keeps session (.commandLine environment stream behaviour words)
  | interrupted {environment : Environment} {stream : Stream} {behaviour : Behaviour}
      {words : List Text} {cause : Settings.Interruption}
      (stopped : (CommandLine.run session environment stream behaviour words).1.ending =
        .crash (.interrupted cause)) :
      Keeps session (.commandLine environment stream behaviour words)
  | brokenOutput {environment : Environment} {stream : Stream} {behaviour : Behaviour}
      {words : List Text} {fault : Terminal.BrokenStream}
      (broken : (CommandLine.run session environment stream behaviour words).1.ending =
        .crash (.brokenStream fault)) :
      Keeps session (.commandLine environment stream behaviour words)
  | active : Keeps session .active
  | paint (style : Terminal.Style) (target s : Text) : Keeps session (.paint style target s)
  | report (painter : Option Painter) (cwd : Text) (diagnosis : Diagnosis) :
      Keeps session (.report painter cwd diagnosis)
  | summary (stats : Report.Stats) : Keeps session (.summary stats)
  | fail (message : Text) : Keeps session (.fail message)
  | check (environment : Environment) (behaviour : Behaviour) (request : Server.Request) :
      Keeps session (.check environment behaviour request)
  | write (nodes : List (List Text × Node)) : Keeps session (.write nodes)

end

/-! ### Series -/

def Action.ofRound (round : Round) : Action :=
  .check round.environment round.behaviour round.request

def Reply.ofRun (run : CheckRun) : Reply :=
  .checked run.result run.calls

/-- Checks one after another are a series, with the output of each where the next one goes. -/
theorem actAll_ofRound [Platform] (session : Session) (rounds : List Round) :
    session.actAll (rounds.map Action.ofRound) =
      ((Server.runs session.site (Server.allot session.site rounds)).map Reply.ofRun,
        session.withTree (Server.leaveAll session.site (Server.allot session.site rounds)).tree) := by
  induction rounds generalizing session with
  | nil => rfl
  | cons round rounds ih =>
    simp only [List.map_cons, actAll, ih]
    rfl

end CheckReport.Session

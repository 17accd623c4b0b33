import CheckReport.CommandLine.Run
import CheckReport.Server.ArtifactFirst

/-!
# Runs as gates

What the status of a run of a command line, and what it writes, tell of the workspace and of a server
that is not started.
-/

namespace CheckReport

open Server (CheckFault Failure)
open Terminal (Environment Stream Painter)

/-- A fault that a run of a command line has a notice for. -/
def Server.CheckFault.Noticed : CheckFault → Prop
  | .failed _ => True
  | .malformed _ => True
  | .unreadable _ => False
  | .notRun _ => False

namespace CommandLine

/-- The words are a command line with options that are settings and ask for the painter. -/
structure Usable [Platform] (session : Session) (environment : Environment) (stream : Stream)
    (words : List Text) (options : Options) (settings : Settings) (painter : Painter) : Prop where
  read : Options.read? session.site environment words = some options
  valid : Settings.ofValues session.site options.values = .ok settings
  painted : Painter.ofMode settings.color environment stream = .ok painter

/-- The answer of a check can be shown: a fault has a notice, a diagnosis has a report. -/
structure Showable (painter : Painter) (cwd : Text)
    (answer : Except CheckFault (Option Diagnosis)) : Prop where
  fault : ∀ fault, answer = .error fault → fault.Noticed
  diagnosis : ∀ diagnosis, answer = .ok (some diagnosis) →
    ∃ rendered, Report.rendered painter cwd diagnosis = .ok rendered

/-- The status tells whether there are diagnostics, none, or no answer, and the streams go with it:
the report on one, and what went wrong on the other. -/
structure Gate (painter : Painter) (cwd : Text) (answer : Except CheckFault (Option Diagnosis))
    (silent quiet : Prop) (result : Result) : Prop where
  problems : result.ending = .status 1 ↔
    ∃ diagnosis, answer = .ok (some diagnosis) ∧ diagnosis.diagnostics ≠ []
  clean : result.ending = .status 0 ↔
    (∃ diagnosis, answer = .ok (some diagnosis) ∧ diagnosis.diagnostics = []) ∨ silent
  failure : result.ending = .status 255 ↔
    result.ending ≠ .status 1 ∧ result.ending ≠ .status 0
  printed : ∀ diagnosis s stats, answer = .ok (some diagnosis) →
    Report.rendered painter cwd diagnosis = .ok (s, stats) → result.stdout =
      (if painter.enabled then s else Terminal.withoutControls s) ++ [Text.newline]
  unprinted : (∀ diagnosis, answer ≠ .ok (some diagnosis)) → result.stdout = []
  told : quiet → (result.stderr ≠ [] ↔ result.ending = .status 255)

end CommandLine

/-! ### Servers that do not start -/

namespace Server

/-- The error that a server named by a word does not start with: there is no executable of that name,
or the system refuses to start the one that there is. -/
inductive Unstarted [Platform] (host : Host) (word : Text) (rest : List Text) :
    Behaviour → RunFault → Prop where
  | notFound (behaviour : Behaviour) (lost : resolve host word = none) :
      Unstarted host word rest behaviour (.notFound word)
  | missing {executable : Text} (found : resolve host word = some executable)
      (fit : Fit (executable :: rest)) : Unstarted host word rest .missing (.missing executable)
  | refused {executable : Text} (error : LaunchError) (found : resolve host word = some executable)
      (fit : Fit (executable :: rest)) :
      Unstarted host word rest (.refused error) (.refused error executable)

end Server

namespace CommandLine

/-- A run tells of a failed command: by its status and by a notice on standard error, which stands
after the log or, without one, alone. -/
structure Tells (painter : Painter) (failure : Failure) (quiet : Prop) (result : Result) : Prop where
  ending : result.ending = .status 255
  stdout : result.stdout = []
  stderr : failure.notice.render painter <:+ result.stderr
  alone : quiet → result.stderr = failure.notice.render painter

end CommandLine

end CheckReport

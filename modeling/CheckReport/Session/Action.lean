import CheckReport.CommandLine.Run

/-!
# Actions

What can be done in a session, one action after another. Each action gives a reply; the session
keeps the files, the installed painter, the log and the consoles, and nothing else.
-/

namespace CheckReport

open Server (Behaviour Request CheckFault Call)
open Terminal (ModeChoice Environment Stream Painter Style Notice)

namespace Session

inductive Action where
  /-- Installs the painter for a mode. -/
  | setup (choice : ModeChoice) (environment : Environment) (stream : Stream)
  /-- Asks for the installed painter. -/
  | active
  | paint (style : Style) (target s : Text)
  /-- Reports on a diagnosis, with a painter of its own or the installed one. -/
  | report (painter : Option Painter) (cwd : Text) (diagnosis : Diagnosis)
  | summary (stats : Report.Stats)
  | fail (message : Text)
  | check (environment : Environment) (behaviour : Behaviour) (request : Request)
  | commandLine (environment : Environment) (stream : Stream) (behaviour : Behaviour)
      (words : List Text)
  /-- Puts nodes into the file tree. -/
  | write (nodes : List (List Text × Node))

inductive Reply where
  | painter (painter : Painter)
  | refused (fault : SetupFault)
  | painted (styled linked : Text)
  | report (result : Except Report.UnwritableNumber (Text × Report.Stats))
  /-- What is written to standard output or standard error. -/
  | written (s : Text)
  | checked (result : Except CheckFault (Option Diagnosis)) (calls : List Call)
  | ran (result : CommandLine.Result)
  | done

section

variable [Platform]

def act (session : Session) : Action → Reply × Session
  | .setup choice environment stream =>
    match session.setup choice environment stream with
    | .ok after => (.painter after.painter, after)
    | .error fault => (.refused fault, session)
  | .active => (.painter session.painter, session)
  | .paint style target s =>
    (.painted (session.painter.paint style s) (session.painter.link target s), session)
  | .report painter cwd diagnosis =>
    (.report (Report.rendered (painter.getD session.painter) cwd diagnosis), session)
  | .summary stats => (.written (session.painter.line stats.summary), session)
  | .fail message =>
    let (s, after) := session.tell (Notice.failure message)
    (.written s, after)
  | .check environment behaviour request =>
    let (run, after) := session.check environment behaviour request
    (.checked run.result run.calls, after)
  | .commandLine environment stream behaviour words =>
    let (result, after) := CommandLine.run session environment stream behaviour words
    (.ran result, after)
  | .write nodes =>
    (.done, session.withTree (nodes.foldl (fun tree n => tree.put n.1 n.2) session.site.tree))

/-- Actions one after another, with their replies. -/
def actAll (session : Session) : List Action → List Reply × Session
  | [] => ([], session)
  | action :: actions =>
    let (reply, after) := session.act action
    let (replies, last) := after.actAll actions
    (reply :: replies, last)

theorem actAll_append (session : Session) (as bs : List Action) :
    session.actAll (as ++ bs) =
      ((session.actAll as).1 ++ ((session.actAll as).2.actAll bs).1,
        ((session.actAll as).2.actAll bs).2) := by
  induction as generalizing session with
  | nil => rfl
  | cons a as ih => simp [actAll, ih]

theorem length_actAll (session : Session) (actions : List Action) :
    (session.actAll actions).1.length = actions.length := by
  induction actions generalizing session with
  | nil => rfl
  | cons a as ih => simp [actAll, ih]

theorem getElem?_actAll (session : Session) (before after : List Action) (action : Action) :
    (session.actAll (before ++ action :: after)).1[before.length]? =
      some ((session.actAll before).2.act action).1 := by
  rw [actAll_append, ← length_actAll session before,
    List.getElem?_append_right (Nat.le_refl _), Nat.sub_self]
  rfl

end

end Session

end CheckReport

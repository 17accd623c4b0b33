import CheckReport.Proofs.CommandLine.Run
import CheckReport.Session.Effects

/-!
# The installed painter

In a session the painter is that of the latest installation, and disabled before the first
(`painter_actAll`).
-/

namespace CheckReport.Session

open Server (Behaviour)
open Terminal (ColorMode ModeChoice Environment Stream Painter)


/-! ### Modes -/

theorem ofName?_eq_some {s : Text} {mode : ColorMode} (named : ColorMode.ofName? s = some mode) :
    mode.name = s := by
  have found := List.find?_some named
  simpa using found

theorem ofName?_name (mode : ColorMode) : ColorMode.ofName? mode.name = some mode := by
  cases mode <;> decide

theorem name_inj {mode other : ColorMode} (same : mode.name = other.name) : mode = other := by
  have found := ofName?_name mode
  rw [same, ofName?_name other] at found
  exact (Option.some.inj found).symm

theorem ofMode_always (environment : Environment) (stream : Stream) :
    Painter.ofMode .always environment stream = .ok { enabled := !environment.refusesColor } := by
  unfold Painter.ofMode
  cases environment.refusesColor <;> rfl

theorem ofMode_never (environment : Environment) (stream : Stream) :
    Painter.ofMode .never environment stream = .ok { enabled := false } :=
  if_pos (.inl rfl)

/-- A painter that is enabled comes from an environment that does not refuse colour. -/
theorem accepts_of_enabled {mode : ColorMode} {environment : Environment} {stream : Stream}
    {painter : Painter} (made : Painter.ofMode mode environment stream = .ok painter)
    (enabled : painter.enabled = true) : environment.value (text "NO_COLOR") = [] := by
  unfold Painter.ofMode at made
  split at made
  · cases made
    cases enabled
  · next kept =>
    rw [not_or, Environment.refusesColor] at kept
    simpa using kept.2

/-! ### Single actions -/

section

variable [Platform] {session : Session} {action : Action} {actions : List Action}

theorem asks_of_mode {choice : ModeChoice} {mode : ColorMode} (chosen : choice.mode = .ok mode)
    (environment : Environment) (stream : Stream) :
    session.Asks (.setup choice environment stream) mode environment stream := by
  cases choice with
  | flag on =>
    cases on with
    | true =>
      cases chosen
      exact .on environment stream
    | false =>
      cases chosen
      exact .off environment stream
  | name s =>
    cases known : ColorMode.ofName? s with
    | none => simp [ModeChoice.mode, known] at chosen
    | some found =>
      obtain rfl : found = mode := by simpa [ModeChoice.mode, known] using chosen
      obtain rfl := ofName?_eq_some known
      exact .name found environment stream

theorem keeps_of_unknown {choice : ModeChoice} {fault : Terminal.UnknownMode}
    (unknown : choice.mode = .error fault) (environment : Environment) (stream : Stream) :
    session.Keeps (.setup choice environment stream) := by
  cases choice with
  | flag on => cases unknown
  | name s =>
    refine .unknownMode environment stream fun known same => ?_
    simp [same, ModeChoice.mode, ofName?_name] at unknown

theorem keeps_of_broken {choice : ModeChoice} {mode : ColorMode} {environment : Environment}
    {stream : Stream} {fault : Terminal.BrokenStream} (chosen : choice.mode = .ok mode)
    (broken : Painter.ofMode mode environment stream = .error fault) :
    session.Keeps (.setup choice environment stream) := by
  have asks : session.Asks (.setup choice environment stream) mode environment stream :=
    asks_of_mode chosen environment stream
  cases asks with
  | name => exact .brokenStream broken
  -- a truth value leaves nothing to ask the stream
  | on =>
    rw [ofMode_always] at broken
    cases broken
  | off =>
    rw [ofMode_never] at broken
    cases broken

theorem painter_setup (session : Session) (choice : ModeChoice) (environment : Environment)
    (stream : Stream) :
    let action : Action := .setup choice environment stream
    (∃ mode, session.Asks action mode environment stream ∧
        Painter.ofMode mode environment stream = .ok (session.act action).2.painter) ∨
      session.Keeps action ∧ (session.act action).2.painter = session.painter := by
  intro action
  cases chosen : choice.mode with
  | error fault =>
    refine .inr ⟨keeps_of_unknown chosen environment stream, ?_⟩
    simp only [action, act, Session.setup, painterFor, chosen]
    rfl
  | ok mode =>
    cases made : Painter.ofMode mode environment stream with
    | error fault =>
      refine .inr ⟨keeps_of_broken chosen made, ?_⟩
      simp only [action, act, Session.setup, painterFor, chosen, Except.mapError, bind, Except.bind,
        made]
      rfl
    | ok painter =>
      refine .inl ⟨mode, asks_of_mode chosen environment stream, made.trans (congrArg _ ?_)⟩
      simp only [action, act, Session.setup, painterFor, chosen, Except.mapError, bind, Except.bind,
        made]
      rfl

theorem painter_commandLine (session : Session) (environment : Environment) (stream : Stream)
    (behaviour : Behaviour) (words : List Text) :
    let action : Action := .commandLine environment stream behaviour words
    (∃ options settings, CommandLine.Options.read? session.site environment words = some options ∧
        Settings.ofValues session.site options.values = .ok settings ∧
        Painter.ofMode settings.color environment stream = .ok (session.act action).2.painter) ∨
      session.Keeps action ∧ (session.act action).2.painter = session.painter := by
  intro action
  have left : (session.act action).2 =
    (CommandLine.run session environment stream behaviour words).2 := rfl
  rw [left]
  obtain ⟨-, ran⟩ | ⟨options, refusal, -, -, ran⟩ | ⟨options, settings, fault, -, -, -, ran⟩ |
    ⟨options, settings, painter, ⟨read, valid, painted⟩, ran⟩ :=
    CommandLine.run_cases session environment stream behaviour words
  · exact .inr ⟨.usage (by rw [ran]; rfl), by rw [ran]⟩
  · refine .inr ⟨?_, by rw [ran]; rfl⟩
    cases refusal with
    | faults all => exact .usage (by rw [ran]; rfl)
    | interrupted cause => exact .interrupted (by rw [ran]; rfl)
  · exact .inr ⟨.brokenOutput (by rw [ran]), by rw [ran]; rfl⟩
  · have kept := CommandLine.runWith_snd ((session.withLog options.verbose).install painter)
      environment behaviour settings
    refine .inl ⟨options, settings, read, valid, ?_⟩
    rw [ran, kept.1]
    exact painted

/-- An action installs the painter that it asks for, or keeps the one that there is. -/
theorem painter_act (session : Session) (action : Action) :
    (∃ mode environment stream, session.Asks action mode environment stream ∧
        Painter.ofMode mode environment stream = .ok (session.act action).2.painter) ∨
      session.Keeps action ∧ (session.act action).2.painter = session.painter := by
  cases action with
  | setup choice environment stream =>
    obtain ⟨mode, asks, made⟩ | kept := painter_setup session choice environment stream
    · exact .inl ⟨mode, environment, stream, asks, made⟩
    · exact .inr kept
  | commandLine environment stream behaviour words =>
    obtain ⟨options, settings, read, valid, made⟩ | kept :=
      painter_commandLine session environment stream behaviour words
    · exact .inl ⟨settings.color, environment, stream, .commandLine stream behaviour read valid, made⟩
    · exact .inr kept
  | active => exact .inr ⟨.active, rfl⟩
  | paint style target s => exact .inr ⟨.paint style target s, rfl⟩
  | report painter cwd diagnosis => exact .inr ⟨.report painter cwd diagnosis, rfl⟩
  | summary stats => exact .inr ⟨.summary stats, rfl⟩
  | fail message => exact .inr ⟨.fail message, rfl⟩
  | check environment behaviour request => exact .inr ⟨.check environment behaviour request, rfl⟩
  | write nodes => exact .inr ⟨.write nodes, rfl⟩

/-- What keeps the installed painter installs none. -/
theorem not_installs_of_keeps (keeps : session.Keeps action) (mode : ColorMode)
    (environment : Environment) (stream : Stream) :
    ¬ session.Installs action mode environment stream := by
  rintro ⟨asks, painter, made⟩
  cases asks with
  | name =>
    generalize named : mode.name = s at keeps
    cases keeps with
    | unknownMode _ _ unknown => exact unknown mode named.symm
    | brokenStream broken =>
      rw [← name_inj named, made] at broken
      cases broken
  | on => cases keeps
  | off => cases keeps
  | @commandLine _ words options settings _ behaviour read valid =>
    have usable : CommandLine.Usable session environment stream words options settings painter :=
      ⟨read, valid, made⟩
    have ended := CommandLine.ending_runWith ((session.withLog options.verbose).install painter)
      environment behaviour settings rfl
    cases keeps with
    | usage refused =>
      rw [CommandLine.run_of_usable usable] at refused
      exact ended.1 refused
    | interrupted stopped =>
      rw [CommandLine.run_of_usable usable] at stopped
      exact ended.2.1 _ stopped
    | brokenOutput broken =>
      rw [CommandLine.run_of_usable usable] at broken
      exact ended.2.2 _ broken

theorem painter_of_keeps (keeps : session.Keeps action) :
    (session.act action).2.painter = session.painter := by
  obtain ⟨mode, environment, stream, asks, made⟩ | ⟨-, kept⟩ := painter_act session action
  · exact absurd ⟨asks, _, made⟩ (not_installs_of_keeps keeps mode environment stream)
  · exact kept

/-! ### Sessions -/

theorem uninstalled_cons (keeps : session.Keeps action)
    (rest : (session.act action).2.Uninstalled actions) : session.Uninstalled (action :: actions) := by
  intro before other after split mode environment stream
  cases before with
  | nil =>
    obtain ⟨rfl, rfl⟩ := List.cons.inj split
    exact not_installs_of_keeps keeps mode environment stream
  | cons first before =>
    obtain ⟨rfl, later⟩ := List.cons.inj split
    exact rest before other after later mode environment stream

/-- From any session on, the painter is that of the latest installation, or the one at the start. -/
theorem latest_painter (session : Session) (actions : List Action) :
    let last := (session.actAll actions).2
    (session.Uninstalled actions ∧ last.painter = session.painter) ∨
      ∃ before action after mode environment stream, actions = before ++ action :: after ∧
        (session.actAll before).2.Asks action mode environment stream ∧
        Painter.ofMode mode environment stream = .ok last.painter ∧
        (session.actAll (before ++ [action])).2.Uninstalled after := by
  induction actions generalizing session with
  | nil =>
    refine .inl ⟨?_, rfl⟩
    intro before action after split
    cases before <;> cases split
  | cons first actions ih =>
    obtain ⟨rest, same⟩ | ⟨before, action, after, mode, environment, stream, split, asks, made, rest⟩ :=
      ih (session.act first).2
    · obtain ⟨mode, environment, stream, asks, made⟩ | ⟨keeps, kept⟩ := painter_act session first
      · exact .inr ⟨[], first, actions, mode, environment, stream, rfl, asks,
          made.trans (congrArg _ same.symm), rest⟩
      · exact .inl ⟨uninstalled_cons keeps rest, same.trans kept⟩
    · exact .inr ⟨first :: before, action, after, mode, environment, stream,
        congrArg (first :: ·) split, asks, made, rest⟩

/-- The painter of a session is that of the latest installation, disabled if there was none; and what
keeps it keeps it as it is. -/
theorem painter_actAll (site : Site) (actions : List Action) :
    let start : Session := { site := site }
    let last := (start.actAll actions).2
    ((start.Uninstalled actions ∧ last.painter = { enabled := false }) ∨
      ∃ before action after mode environment stream, actions = before ++ action :: after ∧
        (start.actAll before).2.Installs action mode environment stream ∧
        (start.actAll (before ++ [action])).2.Uninstalled after ∧
        Painter.ofMode mode environment stream = .ok last.painter ∧
        (last.painter.enabled = true → environment.value (text "NO_COLOR") = [])) ∧
    ∀ action, last.Keeps action → (last.act action).2.painter = last.painter ∧
      ∀ mode environment stream, ¬ last.Installs action mode environment stream := by
  intro start last
  refine ⟨?_, fun action keeps => ⟨painter_of_keeps keeps, not_installs_of_keeps keeps⟩⟩
  obtain uninstalled | ⟨before, action, after, mode, environment, stream, split, asks, made, rest⟩ :=
    latest_painter start actions
  · exact .inl uninstalled
  · exact .inr ⟨before, action, after, mode, environment, stream, split, ⟨asks, _, made⟩, rest, made,
      accepts_of_enabled made⟩

end

attribute [local instance] Platform.loose

/-- A painter that a mode without a name, a word that is no option and a message of failure leave
installed. -/
theorem painter_actAll_kept :
    let start : Session := { site := ⟨⟨[]⟩, text "/"⟩ }
    let loud : ModeChoice := .name (text "loud")
    let actions : List Action := [.setup (.flag true) [] .broken, .setup loud [] .file,
      .commandLine [] .file .missing [text "--loud"], .fail (text "late")]
    let last := (start.actAll actions).2
    let action : Action := .setup loud [] .file
    last.painter = { enabled := true } ∧ last.Keeps action ∧
      (last.act action).2.painter = last.painter := by
  intro start loud actions last action
  have keeps : last.Keeps action :=
    .unknownMode [] .file fun known => by cases known <;> decide
  exact ⟨by decide +kernel, keeps, ((painter_actAll ⟨⟨[]⟩, text "/"⟩ actions).2 action keeps).1⟩

end CheckReport.Session

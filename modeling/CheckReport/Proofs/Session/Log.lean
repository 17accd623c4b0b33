import CheckReport.Proofs.CommandLine.Log
import CheckReport.Session.Effects

/-!
# Command lines in a session

What runs before a command line in a session decides whether its log is shown, and nothing else of
its result (`commandLine_actAll`).
-/

namespace CheckReport.Session

open Server (Behaviour)
open Terminal (Environment Stream)

/-! ### One outlet -/

section

variable {session : Session}

theorem OneOutlet.withLog (one : session.OneOutlet) (wanted : Bool) :
    (session.withLog wanted).OneOutlet := by
  unfold OneOutlet at one ⊢
  cases verbose : session.verbose <;> cases wanted <;> simp_all [Session.withLog]

theorem OneOutlet.logged (one : session.OneOutlet) (lines : List Text) :
    session.logged lines = if session.verbose then lines.flatten else [] := by
  unfold OneOutlet at one
  unfold Session.logged
  split
  · next verbose =>
    rw [one, if_pos verbose]
    simp only [List.replicate_one, List.flatten_singleton, List.flatMap_id']
  · rfl

end

variable [Platform] {session : Session} {action : Action} {actions : List Action}

/-! ### Single actions -/

theorem switchesOn_iff {environment : Environment} {stream : Stream} {behaviour : Behaviour}
    {words : List Text} {options : CommandLine.Options}
    (read : CommandLine.Options.read? session.site environment words = some options) :
    options.verbose = true ↔
      session.SwitchesOn (.commandLine environment stream behaviour words) := by
  constructor
  · exact .commandLine stream behaviour read
  · rintro ⟨-, -, found, asked⟩
    obtain rfl := Option.some.inj (read.symm.trans found)
    exact asked

theorem wants_false (silent : ¬ session.SwitchesOn action)
    (kept : (session.act action).2.verbose = session.verbose ∧
      (session.act action).2.outlets = session.outlets) : session.Wants action false := by
  refine ⟨?_, ?_, ?_⟩
  · simpa using silent
  · simpa [withLog] using kept.1
  · simpa [withLog] using kept.2

theorem exists_wants (session : Session) (action : Action) :
    ∃ wanted, session.Wants action wanted := by
  cases action with
  | setup choice environment stream =>
    refine ⟨false, wants_false nofun ?_⟩
    simp only [act, Session.setup]
    cases painterFor choice environment stream <;> exact ⟨rfl, rfl⟩
  | active => exact ⟨false, wants_false nofun ⟨rfl, rfl⟩⟩
  | paint style target s => exact ⟨false, wants_false nofun ⟨rfl, rfl⟩⟩
  | report painter cwd diagnosis => exact ⟨false, wants_false nofun ⟨rfl, rfl⟩⟩
  | summary stats => exact ⟨false, wants_false nofun ⟨rfl, rfl⟩⟩
  | fail message => exact ⟨false, wants_false nofun ⟨rfl, rfl⟩⟩
  | check environment behaviour request => exact ⟨false, wants_false nofun ⟨rfl, rfl⟩⟩
  | write nodes => exact ⟨false, wants_false nofun ⟨rfl, rfl⟩⟩
  | commandLine environment stream behaviour words =>
    have left : (session.act (.commandLine environment stream behaviour words)).2 =
      (CommandLine.run session environment stream behaviour words).2 := rfl
    -- Once the words are read the log is as they ask, however the run goes on.
    obtain ⟨unread, ran⟩ | ⟨options, refusal, read, -, ran⟩ |
      ⟨options, settings, fault, read, -, -, ran⟩ |
      ⟨options, settings, painter, ⟨read, -, -⟩, ran⟩ :=
      CommandLine.run_cases session environment stream behaviour words
    · refine ⟨false, wants_false ?_ (by rw [left, ran]; exact ⟨rfl, rfl⟩)⟩
      rintro ⟨-, -, read, -⟩
      cases unread.symm.trans read
    · exact ⟨options.verbose, switchesOn_iff read, by rw [left, ran], by rw [left, ran]⟩
    · exact ⟨options.verbose, switchesOn_iff read, by rw [left, ran], by rw [left, ran]⟩
    · have kept := CommandLine.runWith_snd ((session.withLog options.verbose).install painter)
        environment behaviour settings
      refine ⟨options.verbose, switchesOn_iff read, ?_, ?_⟩
      · rw [left, ran]
        exact kept.2.1
      · rw [left, ran]
        exact kept.2.2

theorem verbose_act (session : Session) (action : Action) :
    (session.act action).2.verbose = true ↔
      session.verbose = true ∨ session.SwitchesOn action := by
  obtain ⟨wanted, switches, verbose, -⟩ := exists_wants session action
  rw [verbose, ← switches]
  exact Bool.or_eq_true_iff

theorem OneOutlet.act (one : session.OneOutlet) (action : Action) :
    (session.act action).2.OneOutlet := by
  obtain ⟨wanted, -, verbose, outlets⟩ := exists_wants session action
  have stays := one.withLog wanted
  rw [OneOutlet, verbose, outlets]
  exact stays

/-! ### Many actions -/

theorem heard_cons : session.Heard (action :: actions) ↔
    session.SwitchesOn action ∨ (session.act action).2.Heard actions := by
  constructor
  · rintro ⟨before, switch, after, split, on⟩
    cases before with
    | nil =>
      obtain ⟨rfl, rfl⟩ := List.cons.inj split
      exact .inl on
    | cons first before =>
      obtain ⟨rfl, rest⟩ := List.cons.inj split
      exact .inr ⟨before, switch, after, rest, on⟩
  · rintro (on | ⟨before, switch, after, rfl, on⟩)
    · exact ⟨[], action, actions, rfl, on⟩
    · exact ⟨action :: before, switch, after, rfl, on⟩

theorem not_heard_nil : ¬ session.Heard [] := by
  rintro ⟨before, switch, after, split, -⟩
  cases before <;> cases split

theorem verbose_actAll (session : Session) (actions : List Action) :
    (session.actAll actions).2.verbose = true ↔
      session.verbose = true ∨ session.Heard actions := by
  induction actions generalizing session with
  | nil => simp [actAll, not_heard_nil]
  | cons action actions ih =>
    rw [heard_cons, ← or_assoc, ← verbose_act]
    exact ih _

theorem OneOutlet.actAll (one : session.OneOutlet) (actions : List Action) :
    (session.actAll actions).2.OneOutlet := by
  induction actions generalizing session with
  | nil => exact one
  | cons action actions ih => exact ih (one.act action)

/-! ### Command lines -/

theorem any_verbose_iff {environment : Environment} {stream : Stream} {behaviour : Behaviour}
    {words : List Text} :
    (CommandLine.Options.read? session.site environment words).any (·.verbose) = true ↔
      session.SwitchesOn (.commandLine environment stream behaviour words) := by
  cases read : CommandLine.Options.read? session.site environment words with
  | none =>
    refine iff_of_false (by simp) ?_
    rintro ⟨-, -, found, -⟩
    cases read.symm.trans found
  | some options => exact switchesOn_iff read

theorem heard_append_singleton (silent : session.verbose = false) (actions : List Action)
    (action : Action) :
    session.Heard (actions ++ [action]) ↔ (session.actAll actions).2.verbose = true ∨
      (session.actAll actions).2.SwitchesOn action := by
  have last : (session.actAll (actions ++ [action])).2 =
    ((session.actAll actions).2.act action).2 := by rw [actAll_append]; rfl
  rw [← verbose_act, ← last, verbose_actAll, silent]
  simp

/-- A command line ends, writes to standard output and calls the server in a session as it does on
the same files in a session of its own. To standard error it writes what it writes there without a
log, and its own log in front of that, each line once, if it or an earlier one asked for it. -/
theorem commandLine_actAll (site : Site) (before after : List Action) (environment : Environment)
    (stream : Stream) (behaviour : Behaviour) (words : List Text) :
    let start : Session := { site := site }
    let action : Action := .commandLine environment stream behaviour words
    let fresh : Session := { site := (start.actAll before).2.site }
    let alone := (CommandLine.run fresh environment stream behaviour words).1
    let quiet :=
      (CommandLine.run fresh environment stream behaviour (CommandLine.withoutVerbose words)).1
    ∃ result lines,
      (start.actAll (before ++ action :: after)).1[before.length]? = some (.ran result) ∧
      result.ending = alone.ending ∧ result.stdout = alone.stdout ∧ result.calls = alone.calls ∧
      CommandLine.Logs fresh environment stream behaviour words lines ∧ lines.Nodup ∧
      (start.Heard (before ++ [action]) → result.stderr = lines.flatten ++ quiet.stderr) ∧
      (¬ start.Heard (before ++ [action]) → result.stderr = quiet.stderr) := by
  intro start action fresh alone quiet
  let here := (start.actAll before).2
  let asked := (CommandLine.Options.read? here.site environment words).any (·.verbose)
  obtain ⟨lines, logs⟩ := CommandLine.exists_logs fresh environment stream behaviour words
  have ran := CommandLine.run_fst_eq (logs.of_site here rfl)
  have ranAlone : alone = _ := CommandLine.run_fst_eq logs
  -- The log has one outlet, which is open if the line or an earlier one asked for it.
  have one : (here.withLog asked).OneOutlet :=
    (OneOutlet.actAll (rfl : start.OneOutlet) before).withLog asked
  have shown : (here.withLog asked).verbose = true ↔ start.Heard (before ++ [action]) := by
    rw [heard_append_singleton rfl, ← any_verbose_iff]
    exact Bool.or_eq_true_iff
  refine ⟨(CommandLine.run here environment stream behaviour words).1, lines,
    getElem?_actAll start before after action, ?_, ?_, ?_, logs, logs.nodup, fun heard => ?_,
    fun unheard => ?_⟩
  · rw [ran, ranAlone]
  · rw [ran, ranAlone]
  · rw [ran, ranAlone]
  · rw [ran, one.logged, if_pos (shown.mpr heard)]
  · rw [ran, one.logged, if_neg (mt shown.mp unheard)]
    rfl

end CheckReport.Session
